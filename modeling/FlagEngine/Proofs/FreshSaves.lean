import FlagEngine.Proofs.Calls
import FlagEngine.Proofs.EarlyStages
import FlagEngine.Proofs.Placements
import FlagEngine.Proofs.Projects
import FlagEngine.Services

/-!
# Saves

What the calls for a user have to do with the store of profiles. A call looks the profile up at most once, and
what it saves are placements by experiments that it has reached: `Engine.saves_only_placements`.
-/

namespace FlagEngine

open Deliberation

variable {sharder : Sharder} {engine : Engine} {p : Project} {user : User} {options : Options}
  {K : Experiment → Variation → Prop} {past : Transcript}

/-! ## Flags -/

namespace Flag

variable {flag : Flag} {e : Experiment}

/-- Deciding the flag for the user may reach the experiment: it is one of the project that the flag lists, and
neither an early stage nor a forced decision comes before it. -/
structure Reaches (sharder : Sharder) (p : Project) (user : User) (flag : Flag) (e : Experiment) : Prop where
  listed : e.id ∈ flag.experimentIds
  known : p.experiment? e.id = some e
  late : ¬ flag.IsDecidedEarly sharder p user
  unforced : ∀ w, ¬ user.Forces p (.ofRule flag.key e.key) w

/-- The flag has come to a variation by an experiment that it reaches, and not by its bandit. -/
def Serves (sharder : Sharder) (p : Project) (user : User) (flag : Flag)
    (result : Except Bandit.Failure Verdict) (e : Experiment) (v : Variation) : Prop :=
  flag.Reaches sharder p user e ∧ result = .ok (.featureTest e v none)

/-- The placements so far, and that into what the search has come to, if anything. -/
def Joins (sharder : Sharder) (p : Project) (user : User) (K : Experiment → Variation → Prop) (flag : Flag)
    (result : Except Bandit.Failure (Option Verdict)) (e : Experiment) (v : Variation) : Prop :=
  K e v ∨ ∃ x, result = .ok (some x) ∧ flag.Serves sharder p user (.ok x) e v

theorem Joins.of_none {v : Variation} (h : flag.Joins sharder p user K (.ok none) e v) : K e v := by
  rcases h with hk | ⟨x, hx, -⟩
  · exact hk
  · cases hx

theorem Joins.of_error {f : Bandit.Failure} {v : Variation}
    (h : flag.Joins sharder p user K (.error f) e v) : K e v := by
  rcases h with hk | ⟨x, hx, -⟩
  · exact hk
  · cases hx

theorem leads_tryExperiment (hK : ∀ e v, K e v → p.experiment? e.id = some e)
    (hlisted : e.id ∈ flag.experimentIds) (hknown : p.experiment? e.id = some e)
    (hlate : ¬ flag.IsDecidedEarly engine.sharder p user) :
    (flag.tryExperiment engine p user options e).Leads (Tended engine.sharder p user K)
      fun past result tracker =>
        Tended engine.sharder p user (flag.Joins engine.sharder p user K result) past tracker := by
  unfold tryExperiment
  refine leads_ofReasoned_bind (x := user.forcedDecision? p (.ofRule flag.key e.key)) ?_
  cases hforced : (user.forcedDecision? p (.ofRule flag.key e.key)).value with
  | some v => exact leads_pure fun past tracker h => h.mono fun _ _ => .inl
  | none =>
    have hreaches : flag.Reaches engine.sharder p user e := by
      refine ⟨hlisted, hknown, hlate, fun w hw => ?_⟩
      rw [User.forcedDecision?_eq_some.mpr hw] at hforced
      cases hforced
    have hunique (e' : Experiment) (v : Variation) (hk : K e' v) (hid : e'.id = e.id) : e' = e := by
      have hknown' := hK e' v hk
      rw [hid, hknown] at hknown'
      exact (Option.some.inj hknown').symm
    refine Leads.bind (Experiment.leads_serve? hunique) (fun served => leads_pure ?_) ?_
    · intro past tracker h
      refine h.mono fun e' v hjoins => ?_
      rcases hjoins with hk | ⟨rfl, hserved⟩
      · exact .inl hk
      · cases hserved
        exact .inr ⟨_, rfl, hreaches, rfl⟩
    · intro past f tracker h
      refine h.mono fun e' v hjoins => ?_
      rcases hjoins with hk | ⟨-, hserved⟩
      · exact .inl hk
      · cases hserved

section

-- Projects find experiments by their own ids.
variable (hp : ∀ id e, p.experiment? id = some e → e.id = id)

include hp

theorem leads_tryExperiments (hK : ∀ e v, K e v → p.experiment? e.id = some e)
    (hlate : ¬ flag.IsDecidedEarly engine.sharder p user) {ids : List String}
    (hids : ∀ id ∈ ids, id ∈ flag.experimentIds) :
    (tryExperiments engine p flag user options ids).Leads (Tended engine.sharder p user K)
      fun past result tracker =>
        Tended engine.sharder p user (flag.Joins engine.sharder p user K result) past tracker := by
  induction ids with
  | nil => exact leads_pure fun past tracker h => h.mono fun _ _ => .inl
  | cons id ids ih =>
    obtain ⟨hid, hrest⟩ := List.forall_mem_cons.mp hids
    unfold tryExperiments
    split
    · exact ih hrest
    · next e he =>
      obtain rfl := hp id e he
      refine Leads.bind (leads_tryExperiment hK hid he hlate) (fun verdict => ?_) ?_
      · cases verdict with
        | some x => exact leads_pure fun past tracker h => h
        | none => exact Leads.of_pre (ih hrest) fun past tracker h => h.mono fun _ _ => Joins.of_none
      · exact fun past f tracker h => h.mono fun _ _ hj => .inl hj.of_error

theorem leads_experimentVerdict? (hK : ∀ e v, K e v → p.experiment? e.id = some e)
    (hlate : ¬ flag.IsDecidedEarly engine.sharder p user) :
    (flag.experimentVerdict? engine p user options).Leads (Tended engine.sharder p user K)
      fun past result tracker =>
        Tended engine.sharder p user (flag.Joins engine.sharder p user K result) past tracker := by
  unfold experimentVerdict?
  split
  · exact leads_ofReasoned_bind (leads_pure fun past tracker h => h.mono fun _ _ => .inl)
  · exact leads_tryExperiments hp hK hlate fun _ h => h

/-- What a flag does to the profile: unless one of its experiments places the user and the flag serves that
variation, nothing. -/
theorem leads_deliberate (hK : ∀ e v, K e v → p.experiment? e.id = some e) :
    (flag.deliberate engine p user options).Leads (Tended engine.sharder p user K)
      fun past result tracker => Tended engine.sharder p user
        (fun e v => K e v ∨ flag.Serves engine.sharder p user result e v) past tracker := by
  rw [deliberate_eq]
  refine leads_ofReasoned_bind ?_
  cases hearly : (flag.earlyVerdict? engine.sharder p user).value with
  | some x => exact leads_pure fun past tracker h => h.mono fun _ _ => .inl
  | none =>
    have hlate : ¬ flag.IsDecidedEarly engine.sharder p user := by
      intro h
      obtain ⟨x, hx, -⟩ := exists_earlyVerdict? h
      rw [hearly] at hx
      cases hx
    refine Leads.bind (leads_experimentVerdict? hp hK hlate) (fun verdict => ?_) ?_
    · cases verdict with
      | some x =>
        refine leads_pure fun past tracker h => h.mono fun e v hjoins => ?_
        rcases hjoins with hk | ⟨_, ⟨⟩, hserves⟩
        · exact .inl hk
        · exact .inr hserves
      | none =>
        refine leads_ofReasoned_bind (x := flag.rolloutVerdict? engine.sharder p user) ?_
        exact leads_pure fun past tracker h => h.mono fun _ _ hj => .inl hj.of_none
    · exact fun past f tracker h => h.mono fun _ _ hj => .inl hj.of_error

/-- What flags do to the profile one after the other: what they serve joins the placements before. -/
theorem leads_each (hK : ∀ e v, K e v → p.experiment? e.id = some e) (flags : List Flag)
    {tracker : Option Tracker} (h : Tended engine.sharder p user K past tracker) :
    (each (flags.map fun flag => flag.deliberate engine p user options) tracker).Leads
      (fun past a => Tended engine.sharder p user (fun e v => K e v ∨
        ∃ flag o, (flag, o) ∈ flags.zip a.1 ∧ flag.Serves engine.sharder p user o.result e v) past a.2)
      past := by
  induction flags generalizing K past tracker with
  | nil => exact h.mono fun _ _ => .inl
  | cons flag flags ih =>
    refine (leads_deliberate hp hK past tracker h).bind fun past o ho => ?_
    have hK' (e : Experiment) (v : Variation)
        (hk : K e v ∨ flag.Serves engine.sharder p user o.result e v) : p.experiment? e.id = some e := by
      rcases hk with hk | hserves
      · exact hK e v hk
      · exact hserves.1.known
    refine (ih hK' ho).bind fun past a ha => ha.mono fun e v hk => ?_
    rcases hk with (hk | hserves) | ⟨flag', o', hmem, hserves⟩
    · exact .inl hk
    · exact .inr ⟨flag, o, List.mem_cons_self, hserves⟩
    · exact .inr ⟨flag', o', List.mem_cons_of_mem _ hmem, hserves⟩

end

end Flag

/-! ## Calls that leave profiles alone -/

/-- A service that keeps profiles, with states of a type. A lookup may fail, and what becomes of a save is up
to the service. -/
structure ProfileService (τ : Type) where
  lookup : String → τ → Option Profile × τ
  save : String → String → String → τ → τ

namespace ProfileService

variable {α σ τ : Type} (service : ProfileService τ)

/-- Answers the questions about profiles by the service, and the others as before. -/
def answer (handler : Plan.Handler σ) : Plan.Handler (σ × τ)
  | .profile userId, s => ((service.lookup userId s.2).1, s.1, (service.lookup userId s.2).2)
  | .saveVariation userId experimentId variationId, s =>
    ((), s.1, service.save userId experimentId variationId s.2)
  | q, s => ((handler q s.1).1, (handler q s.1).2, s.2)

/-- Replies as before. -/
def reply (reply : Bandit.Call → σ → Bandit.Reply × σ) (call : Bandit.Call) (s : σ × τ) :
    Bandit.Reply × σ × τ :=
  ((reply call s.1).1, (reply call s.1).2, s.2)

theorem answer_of_profileFree {q : Query} (hq : profileFree.allowed q) (handler : Plan.Handler σ) (s : σ)
    (t : τ) : service.answer handler q (s, t) = ((handler q s).1, (handler q s).2, t) := by
  cases q with
  | profile => exact hq.elim
  | saveVariation => exact hq.elim
  | project | forcedVariation | beginDecision | completeDecision | uuid => rfl

/-- A plan that leaves profiles alone runs as if the service was not there. -/
theorem run_of_profileFree {x : Plan α} (hx : x.Follows profileFree fun _ => True)
    (handler : Plan.Handler σ) (fetch : Bandit.Call → σ → Bandit.Reply × σ) (s : σ) (t : τ) :
    x.run (service.answer handler) (reply fetch) (s, t)
      = ((x.run handler fetch s).1, (x.run handler fetch s).2, t) := by
  induction x generalizing s with
  | done a => rfl
  | ask q next ih =>
    rw [Plan.run_ask, Plan.run_ask, service.answer_of_profileFree hx.1]
    exact ih _ (hx.2 _ trivial) _
  | fetch call next ih => exact ih _ (hx _) _

end ProfileService

theorem Engine.tracker?_of_ignoring (h : options.contains .ignoreUserProfileService = true)
    (userId : String) : engine.tracker? userId options = none := by
  unfold tracker?
  rw [h]
  simp

namespace Deliberation

/-- Without a profile nothing is asked about profiles. -/
theorem inherited_withoutProfile : Inherited fun _ x => x.Keeps profileFree (· = none) :=
  inherited_keeps (fun _ h _ => h) _

theorem keeps_serve?_withoutProfile (e : Experiment) (userId : String) (attributes : Attributes) :
    (e.serve? engine p userId attributes options).Keeps profileFree (· = none) := by
  apply inherited_withoutProfile.serve?
  · rintro _ rfl
    rfl
  · rintro v _ rfl
    rfl

theorem keeps_deliberate_withoutProfile (flag : Flag) :
    (flag.deliberate engine p user options).Keeps profileFree (· = none) :=
  inherited_withoutProfile.deliberate fun _ e _ => keeps_serve?_withoutProfile e user.id user.attributes

end Deliberation

/-! ## Calls -/

/-- How a call for a user deals with profiles. Here `K` tells which placements go with what the call comes
to. -/
structure Plan.TendsProfile {α : Type} (sharder : Sharder) (p : Project) (user : User) (options : Options)
    (K : α → Experiment → Variation → Prop) (x : Plan α) : Prop where
  tidy : ∀ {σ : Type} (handler : Handler σ) (reply : Bandit.Call → σ → Bandit.Reply × σ) (s : σ),
    Tidy sharder p user (K (x.run handler reply s).1) (x.transcript handler reply s)
  /-- If profiles are to be ignored, they are left alone. -/
  untouched : options.contains .ignoreUserProfileService = true →
    ∀ {σ : Type} (handler : Handler σ) (reply : Bandit.Call → σ → Bandit.Reply × σ) (s : σ),
      ∀ y ∈ x.transcript handler reply s, y.concernsProfile = false
  /-- Then what the call comes to does not depend on them either. -/
  indifferent : options.contains .ignoreUserProfileService = true →
    ∀ {σ τ : Type} (service : ProfileService τ) (handler : Handler σ)
      (reply : Bandit.Call → σ → Bandit.Reply × σ) (s : σ) (t : τ),
      x.run (service.answer handler) (ProfileService.reply reply) (s, t)
        = ((x.run handler reply s).1, (x.run handler reply s).2, t)

theorem Plan.TendsProfile.of_leads {α : Type} {K : α → Experiment → Variation → Prop} {x : Plan α}
    (hx : x.Leads (fun past a => Tidy sharder p user (K a) past) [])
    (hfree : options.contains .ignoreUserProfileService = true → x.Follows profileFree fun _ => True) :
    x.TendsProfile sharder p user options K where
  tidy handler reply s := by
    have h := hx.run handler reply s
    rwa [List.append_nil] at h
  untouched hignore σ handler reply s := by
    have hleads : x.Leads (fun past _ => ∀ y ∈ past, Exchange.concernsProfile y = false) [] :=
      (hfree hignore).leads (fun past y hy h => List.forall_mem_cons.mpr ⟨hy, h⟩) nofun
    have h := hleads.run handler reply s
    rwa [List.append_nil] at h
  indifferent hignore σ τ service handler reply s t :=
    service.run_of_profileFree (hfree hignore) handler reply s t

namespace Deliberation

/-- A single deliberation, with the profile saved at the end. -/
theorem tendsProfile_settle {α : Type} (K : Except Bandit.Failure α → Experiment → Variation → Prop)
    {x : Deliberation α}
    (hx : x.Leads (Tended engine.sharder p user fun _ _ => False)
      fun past result tracker => Tended engine.sharder p user (K result) past tracker)
    (hfree : x.Keeps profileFree (· = none)) :
    (x.settle (engine.tracker? user.id options)).TendsProfile engine.sharder p user options
      fun o => K o.result := by
  refine .of_leads ?_ fun hignore => ?_
  · refine (hx [] _ (.tracker? engine user options)).bind fun past o ho => ?_
    exact ho.leads_saveIfAny.bind fun past _ htidy => htidy
  · rw [Engine.tracker?_of_ignoring hignore]
    refine hfree.follows_settle ?_ rfl
    rintro _ rfl
    trivial

end Deliberation

/-- **The store of profiles is written only by fresh ordinary bucketing.** Take a call for a user that decides
a flag, some flags, or an experiment on its own, by a compiled datafile. Whatever the services and the bandits
answer, failing lookups and saves among it:

* the store is asked for the profile of the user alone, and at most once;
* everything that is saved is saved for the user, and by an experiment that has placed the user in this call:
  it is running and has no bandit, no valid variation is set for the user by the client or by the whitelist,
  the profile that has been looked up has none, the audience covers the user, and the ranges choose the
  variation. The experiment is one that the call has come to this variation by: of a flag, it is one that the
  flag lists and that neither an early stage nor a forced decision comes before.

If profiles are to be ignored, nothing is asked of the store and nothing saved, and the call comes to the same
whatever the store is. -/
theorem Engine.saves_only_placements (engine : Engine) (d : Datafile) (user : User) (options : Options) :
    let p := Project.ofDatafile d
    let tracker := engine.tracker? user.id options
    (∀ flag : Flag, ((flag.deliberate engine p user options).settle tracker).TendsProfile engine.sharder p
      user options fun o e v => flag.Serves engine.sharder p user o.result e v) ∧
    (∀ flags : List Flag, (settleAll (flags.map fun flag => flag.deliberate engine p user options)
      tracker).TendsProfile engine.sharder p user options fun os e v => ∃ flag o, (flag, o) ∈ flags.zip os ∧
        flag.Serves engine.sharder p user o.result e v) ∧
    ∀ e : Experiment, ((e.serve? engine p user.id user.attributes options).settle tracker).TendsProfile
      engine.sharder p user options fun o e' v => e' = e ∧ o.result = .ok (some ⟨v, none⟩) := by
  intro p tracker
  have hp (id : String) (e : Experiment) (he : p.experiment? id = some e) : e.id = id :=
    (Project.of_experiment? he).2
  refine ⟨fun flag => ?_, fun flags => ?_, fun e => ?_⟩
  · refine tendsProfile_settle (flag.Serves engine.sharder p user) (fun past tracker h => ?_)
      (keeps_deliberate_withoutProfile flag)
    exact (Flag.leads_deliberate hp nofun past tracker h).mono fun past o ho =>
      ho.mono fun e v hk => hk.resolve_left id
  · refine .of_leads ?_ fun hignore => ?_
    · have hstart : Tended engine.sharder p user (fun _ _ => False) [] tracker :=
        .tracker? engine user options
      refine (Flag.leads_each hp nofun flags hstart).bind fun past a ha => ?_
      have hsaves := (ha.mono fun e v hk => hk.resolve_left id).leads_saveIfAny
      exact hsaves.bind fun past _ htidy => htidy
    · unfold tracker
      rw [tracker?_of_ignoring hignore]
      refine follows_settleAll (I := (· = none)) ?_ ?_ rfl
      · intro x hx
        obtain ⟨flag, _, rfl⟩ := List.mem_map.mp hx
        exact keeps_deliberate_withoutProfile flag
      · rintro _ rfl
        trivial
  · refine tendsProfile_settle (fun result e' v => e' = e ∧ result = .ok (some ⟨v, none⟩))
      (fun past tracker h => ?_) (keeps_serve?_withoutProfile e _ _)
    exact (Experiment.leads_serve? nofun past tracker h).mono fun past o ho =>
      ho.mono fun e' v hk => hk.resolve_left id

end FlagEngine

/-! ### An experiment for everyone -/

namespace FlagEngine.Experiment.Places.Sample

def experiment : Experiment :=
  { (default : Experiment) with
    id := "x"
    key := "x"
    status := .running
    variations := [⟨"v", "on", none, []⟩]
    traffic := [⟨"v", 10000⟩] }

/-- Two flags with the same experiment. -/
def flags : List Flag :=
  [⟨"1", "f", "", ["x"], []⟩, ⟨"2", "g", "", ["x"], []⟩]

def project : Project :=
  .ofDatafile { (default : Datafile) with
    experiments := [experiment]
    flags }

def user : User :=
  ⟨"u", ∅, ∅⟩

/-- Decides both flags with the profiles kept. -/
def call : Plan (List (Outcome Verdict)) :=
  let engine : Engine := { (default : Engine) with keepsProfiles := true }
  Deliberation.settleAll (flags.map fun flag => flag.deliberate engine project user .empty)
    (engine.tracker? user.id .empty)

/-- The profile of the user is looked up and saved in a first call and looked up again in a second one. -/
example :
    let fetch : Bandit.Call → Services → Bandit.Reply × Services := fun _ s => (.error .noClient, s)
    let s := (call.run Services.answer fetch default).2
    ((call.transcript Services.answer fetch default).filter Exchange.concernsProfile).length = 2 ∧
      (s.profiles.profile "u")["x"]? = some "v" ∧
      ((call.transcript Services.answer fetch s).filter Exchange.concernsProfile).length = 1 := by
  decide +kernel

end FlagEngine.Experiment.Places.Sample
