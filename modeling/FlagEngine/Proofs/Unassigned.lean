import FlagEngine.Proofs.Bandit.Search
import FlagEngine.Proofs.FreshSaves
import FlagEngine.Services

/-!
# Users to whom nothing is assigned

If neither the client nor a whitelist sets a variation for a user in the experiments of a flag and the user's
profile has none, the experiments are left to their audiences and ranges: `Flag.result_of_unassigned` says what
verdict comes of it. What holds of the tracker and the services on the way is told by `Deliberation.Comes`.
-/

namespace FlagEngine

open Deliberation (ofReasoned ofPlan)

namespace Deliberation

/-! ## What runs come to -/

section

variable {α β σ : Type} {handler : Plan.Handler σ} {reply : Bandit.Call → σ → Bandit.Reply × σ}
  {pre mid post : Option Tracker → σ → Prop} {x : Deliberation α} {f : α → Deliberation β} {a : α} {b : β}

/-- In every run that starts as is assumed, the deliberation comes to the value, with the tracker and the
services as is asserted. -/
def Comes (handler : Plan.Handler σ) (reply : Bandit.Call → σ → Bandit.Reply × σ)
    (pre : Option Tracker → σ → Prop) (x : Deliberation α) (a : α) (post : Option Tracker → σ → Prop) : Prop :=
  ∀ tracker s, pre tracker s →
    ∃ tracker' s', x.Ends handler reply tracker s (.ok a) tracker' s' ∧ post tracker' s'

theorem Comes.bind (hx : x.Comes handler reply pre a mid) (hf : (f a).Comes handler reply mid b post) :
    (x >>= f).Comes handler reply pre b post := by
  intro tracker s h
  obtain ⟨tracker₁, s₁, hx, h⟩ := hx tracker s h
  obtain ⟨tracker₂, s₂, hf, h⟩ := hf tracker₁ s₁ h
  exact ⟨tracker₂, s₂, hx.bind hf, h⟩

theorem comes_ofReasoned (r : Reasoned α) : (ofReasoned r).Comes handler reply pre r.value pre :=
  fun tracker s h => ⟨tracker, s, ends_ofReasoned.mpr ⟨rfl, rfl, rfl⟩, h⟩

theorem comes_note (r : Reason) : (note r).Comes handler reply pre () pre :=
  comes_ofReasoned (Reasoned.note r)

theorem comes_pure (h : ∀ tracker s, pre tracker s → post tracker s) (a : α) :
    (Pure.pure a : Deliberation α).Comes handler reply pre a post :=
  fun tracker s hpre => ⟨tracker, s, ends_pure.mpr ⟨rfl, rfl, rfl⟩, h tracker s hpre⟩

theorem Comes.of_pre (hx : x.Comes handler reply mid a post)
    (h : ∀ tracker s, pre tracker s → mid tracker s) : x.Comes handler reply pre a post :=
  fun tracker s hpre => hx tracker s (h tracker s hpre)

theorem comes_record (id variationId : String) :
    (record id variationId).Comes handler reply pre () fun _ _ => True := by
  intro tracker s _
  obtain ⟨tracker', s', h⟩ := exists_ends_record handler reply id variationId tracker s
  exact ⟨tracker', s', h, trivial⟩

end

end Deliberation

/-! ## Nothing is assigned -/

section

variable {τ : Type} {service : ProfileService τ} {userId : String} {concerned : Experiment → Prop}
  {reply : Bandit.Call → Services × τ → Bandit.Reply × Services × τ} {e : Experiment}
  {engine : Engine} {p : Project} {attributes : Attributes} {options : Options}

/-- In the experiment, nothing is set for the user by the client or the whitelist, and the profile that the
store would give has no entry. -/
structure Experiment.Unassigned (service : ProfileService τ) (s : Services × τ) (userId : String)
    (e : Experiment) : Prop where
  unset : s.1.forced.variationId? userId e.id = none
  unlisted : e.whitelist.lookup userId = none
  unsaved : ∀ profile : Profile, (service.lookup userId s.2).1 = some profile → profile[e.id]? = none

/-- In some experiments, nothing is set for the user by the client, and the profile has no entry: the one that
the tracker has read, or else the one that the store would give. -/
structure Tracker.IsBlank (service : ProfileService τ) (userId : String) (concerned : Experiment → Prop)
    (tracker : Option Tracker) (s : Services × τ) : Prop where
  unset : ∀ e, concerned e → s.1.forced.variationId? userId e.id = none
  owner : ∀ t, tracker = some t → t.userId = userId
  unsaved : ∀ t, tracker = some t → ∀ e, concerned e →
    (t.loaded.getD ((service.lookup userId s.2).1.getD ∅))[e.id]? = none

namespace Deliberation

open Tracker (IsBlank)

theorem comes_forcedVariation (he : concerned e) :
    (ofPlan (Plan.query (.forcedVariation userId e.id))).Comes (service.answer Services.answer) reply
      (IsBlank service userId concerned) (none : Option String) (IsBlank service userId concerned) := by
  intro tracker s h
  refine ⟨tracker, s, ends_ofPlan.mpr ⟨?_, rfl, rfl⟩, h⟩
  exact congrArg Except.ok (h.unset e he).symm

theorem comes_saved? (he : concerned e) :
    (saved? e.id).Comes (service.answer Services.answer) reply (IsBlank service userId concerned) none
      (IsBlank service userId concerned) := by
  intro tracker s h
  cases tracker with
  | none => exact ⟨none, s, ⟨_, rfl⟩, h⟩
  | some t =>
    obtain ⟨owner, loaded, pending⟩ := t
    obtain rfl : owner = userId := h.owner _ rfl
    cases loaded with
    | some profile =>
      have hnone : profile[e.id]? = none := h.unsaved _ rfl e he
      have hends : (saved? e.id).Ends (service.answer Services.answer) reply
          (some ⟨owner, some profile, pending⟩) s (.ok profile[e.id]?)
          (some ⟨owner, some profile, pending⟩) s := ⟨[], rfl⟩
      rw [hnone] at hends
      exact ⟨_, s, hends, h⟩
    | none =>
      -- From here on the tracker has the profile, whatever becomes of the store.
      let profile := (service.lookup owner s.2).1.getD ∅
      let s' := (s.1, (service.lookup owner s.2).2)
      have hnone : profile[e.id]? = none := h.unsaved _ rfl e he
      have hends : (saved? e.id).Ends (service.answer Services.answer) reply
          (some ⟨owner, none, pending⟩) s (.ok profile[e.id]?)
          (some ⟨owner, some profile, pending⟩) s' := ⟨[], rfl⟩
      rw [hnone] at hends
      refine ⟨_, s', hends, h.unset, ?_, ?_⟩
      · rintro _ ⟨⟩
        rfl
      · rintro _ ⟨⟩ e' he'
        change profile[e'.id]? = none
        exact h.unsaved _ rfl e' he'

end Deliberation

/-! ## Experiments -/

open Deliberation
open Tracker (IsBlank)

namespace Experiment

/-- The variation that an experiment without a bandit places a user in, if its ranges place the user. -/
def placement? (sharder : Sharder) (p : Project) (e : Experiment) (userId : String) (attributes : Attributes) :
    Option Variation :=
  if e.rule.isRunning && (e.rule.admits p e.key attributes).value then
    (e.bucket? sharder p (attributes.bucketingId userId)).value
  else none

theorem comes_overridden? (he : concerned e) (hlist : e.whitelist.lookup userId = none) :
    (e.overridden? userId).Comes (service.answer Services.answer) reply (IsBlank service userId concerned) none
      (IsBlank service userId concerned) := by
  refine (comes_forcedVariation he).bind ?_
  refine (comes_ofReasoned (e.forcedVariation? userId none)).bind ?_
  have hlisted : (e.whitelisted? userId).value = none := by
    rw [value_whitelisted?, hlist]
    rfl
  exact hlisted ▸ comes_ofReasoned (e.whitelisted? userId)

theorem comes_saved? (he : concerned e) (hb : e.bandit = none) :
    (e.saved? userId).Comes (service.answer Services.answer) reply (IsBlank service userId concerned) none
      (IsBlank service userId concerned) := by
  unfold Experiment.saved?
  rw [hb]
  exact (Deliberation.comes_saved? he).bind (comes_pure (fun _ _ h => h) none)

theorem comes_targeted? (hb : e.bandit = none) (hrunning : e.rule.isRunning = true) :
    (e.targeted? engine p userId attributes options).Comes (service.answer Services.answer) reply
      (IsBlank service userId concerned)
      ((e.placement? engine.sharder p userId attributes).map (Served.mk · none))
      fun tracker s => e.placement? engine.sharder p userId attributes = none →
        IsBlank service userId concerned tracker s := by
  unfold targeted? placement?
  rw [hrunning, Bool.true_and]
  refine (comes_ofReasoned (e.rule.admits p e.key attributes)).bind ?_
  cases (e.rule.admits p e.key attributes).value with
  | false => exact (comes_note _).bind (comes_pure (fun _ _ h _ => h) none)
  | true =>
    rw [if_pos rfl, if_pos rfl, allocated?_of_ordinary hb]
    refine (comes_ofReasoned _).bind ?_
    rw [Reasoned.value_map]
    cases (e.bucket? engine.sharder p (attributes.bucketingId userId)).value with
    | none => exact (comes_note _).bind (comes_pure (fun _ _ h _ => h) none)
    | some v =>
      refine (comes_note _).bind ?_
      rw [hb]
      exact (comes_record e.id v.id).bind (comes_pure (fun _ _ _ h => nomatch h) _)

/-- An experiment in which nothing is assigned serves what its ranges place the user in. -/
theorem comes_serve? (he : concerned e) (hlist : e.whitelist.lookup userId = none) (hb : e.bandit = none) :
    (e.serve? engine p userId attributes options).Comes (service.answer Services.answer) reply
      (IsBlank service userId concerned)
      ((e.placement? engine.sharder p userId attributes).map (Served.mk · none))
      fun tracker s => e.placement? engine.sharder p userId attributes = none →
        IsBlank service userId concerned tracker s := by
  unfold serve?
  split
  · next hrunning =>
    refine (comes_overridden? he hlist).bind ?_
    refine (comes_saved? he hb).bind ?_
    exact comes_targeted? hb hrunning
  · next hrunning =>
    have hplacement : e.placement? engine.sharder p userId attributes = none := by
      simp [placement?, hrunning]
    rw [hplacement]
    exact (comes_note _).bind (comes_pure (fun _ _ h _ => h) none)

end Experiment

/-! ## Flags -/

namespace Flag

variable {flag : Flag} {user : User} {ids : List String}

/-- What an experiment comes to for a user to whom nothing is assigned. -/
def placementVerdict? (sharder : Sharder) (p : Project) (flag : Flag) (user : User) (e : Experiment) :
    Option Verdict :=
  match (user.forcedDecision? p (.ofRule flag.key e.key)).value with
  | some v => some (.featureTest e v none)
  | none => (e.placement? sharder p user.id user.attributes).map (.featureTest e · none)

/-- What the first of some experiments comes to that comes to anything. -/
def placementsVerdict? (sharder : Sharder) (p : Project) (flag : Flag) (user : User) (ids : List String) :
    Option Verdict :=
  ids.findSome? fun id => (p.experiment? id).bind (flag.placementVerdict? sharder p user)

/-- The verdict on a flag for a user to whom nothing is assigned. -/
def unassignedVerdict (sharder : Sharder) (p : Project) (flag : Flag) (user : User) : Verdict :=
  (flag.earlyVerdict? sharder p user).value.getD <|
    (flag.placementsVerdict? sharder p user flag.experimentIds).getD (flag.lastVerdict sharder p user)

theorem comes_tryExperiment (he : concerned e) (hlist : e.whitelist.lookup user.id = none)
    (hb : e.bandit = none) :
    (flag.tryExperiment engine p user options e).Comes (service.answer Services.answer) reply
      (IsBlank service user.id concerned) (flag.placementVerdict? engine.sharder p user e)
      fun tracker s => flag.placementVerdict? engine.sharder p user e = none →
        IsBlank service user.id concerned tracker s := by
  unfold tryExperiment placementVerdict?
  refine (comes_ofReasoned (user.forcedDecision? p (.ofRule flag.key e.key))).bind ?_
  cases (user.forcedDecision? p (.ofRule flag.key e.key)).value with
  | some v => exact comes_pure (fun _ _ h _ => h) _
  | none =>
    refine (e.comes_serve? he hlist hb).bind ?_
    cases e.placement? engine.sharder p user.id user.attributes with
    | some v => exact comes_pure (fun _ _ _ h => nomatch h) _
    | none => exact comes_pure (fun _ _ h _ => h rfl) none

/-- The search for an experiment comes to what the first of them places the user in. -/
theorem comes_tryExperiments
    (hids : ∀ id ∈ ids, ∀ e, p.experiment? id = some e →
      concerned e ∧ e.whitelist.lookup user.id = none ∧ e.bandit = none) :
    (tryExperiments engine p flag user options ids).Comes (service.answer Services.answer) reply
      (IsBlank service user.id concerned) (flag.placementsVerdict? engine.sharder p user ids)
      fun _ _ => True := by
  induction ids with
  | nil => exact comes_pure (fun _ _ _ => trivial) none
  | cons id ids ih =>
    obtain ⟨hid, hids⟩ := List.forall_mem_cons.mp hids
    unfold placementsVerdict?
    rw [List.findSome?_cons]
    cases he : p.experiment? id with
    | none =>
      rw [tryExperiments_cons_of_none he]
      exact ih hids
    | some e =>
      obtain ⟨hconcerned, hlist, hb⟩ := hid e he
      rw [tryExperiments_cons_of_some he]
      refine (comes_tryExperiment hconcerned hlist hb).bind ?_
      rw [Option.bind_some]
      cases hverdict : flag.placementVerdict? engine.sharder p user e with
      | some x => exact comes_pure (fun _ _ _ => trivial) _
      | none => exact (ih hids).of_pre fun _ _ h => h rfl

/-- A flag is decided by what is forced, by the holdouts, by the ranges of its experiments and by its
rollout. -/
theorem comes_deliberate
    (hids : ∀ id ∈ flag.experimentIds, ∀ e, p.experiment? id = some e →
      concerned e ∧ e.whitelist.lookup user.id = none ∧ e.bandit = none) :
    (flag.deliberate engine p user options).Comes (service.answer Services.answer) reply
      (IsBlank service user.id concerned) (flag.unassignedVerdict engine.sharder p user) fun _ _ => True := by
  rw [deliberate_eq]
  unfold unassignedVerdict
  refine (comes_ofReasoned _).bind ?_
  cases (flag.earlyVerdict? engine.sharder p user).value with
  | some x => exact comes_pure (fun _ _ _ => trivial) _
  | none =>
    have hverdict : (flag.experimentVerdict? engine p user options).Comes (service.answer Services.answer) reply
        (IsBlank service user.id concerned)
        (flag.placementsVerdict? engine.sharder p user flag.experimentIds) fun _ _ => True := by
      unfold experimentVerdict?
      split
      · next hnil =>
        rw [List.isEmpty_iff.mp hnil]
        exact (comes_note _).bind (comes_pure (fun _ _ _ => trivial) none)
      · exact comes_tryExperiments hids
    refine hverdict.bind ?_
    rw [Option.getD_none]
    cases flag.placementsVerdict? engine.sharder p user flag.experimentIds with
    | some x => exact comes_pure (fun _ _ _ => trivial) x
    | none =>
      rw [Option.getD_none]
      unfold lastVerdict
      exact (comes_ofReasoned (flag.rolloutVerdict? engine.sharder p user)).bind
        (comes_pure (fun _ _ _ => trivial) _)

/-- The experiment is one of those that the flag lists and the project has. -/
def Tries (p : Project) (flag : Flag) (e : Experiment) : Prop :=
  ∃ id ∈ flag.experimentIds, p.experiment? id = some e

/-- A flag without bandits comes to its verdict for a user to whom nothing is assigned. -/
theorem result_of_unassigned (reply : Bandit.Call → Services × τ → Bandit.Reply × Services × τ)
    (s : Services × τ) (engine : Engine) (options : Options) (hbandits : ∀ e, flag.Tries p e → e.bandit = none)
    (hunassigned : ∀ e, flag.Tries p e → e.Unassigned service s user.id) :
    (((flag.deliberate engine p user options).settle (engine.tracker? user.id options)).run
      (service.answer Services.answer) reply s).1.result
        = .ok (flag.unassignedVerdict engine.sharder p user) := by
  have hblank : IsBlank service user.id (flag.Tries p) (engine.tracker? user.id options) s := by
    refine ⟨fun e he => (hunassigned e he).unset, ?_, ?_⟩
    all_goals
      unfold Engine.tracker?
      split
    · rintro _ ⟨⟩
      rfl
    · exact nofun
    · rintro _ ⟨⟩ e he
      have hunsaved := (hunassigned e he).unsaved
      change ((service.lookup user.id s.2).1.getD ∅)[e.id]? = none
      cases hprofile : (service.lookup user.id s.2).1 with
      | none => exact Std.TreeMap.getElem?_emptyc
      | some profile => exact hunsaved profile hprofile
    · exact nofun
  have hcomes : (flag.deliberate engine p user options).Comes (service.answer Services.answer) reply
      (IsBlank service user.id (flag.Tries p)) (flag.unassignedVerdict engine.sharder p user)
      fun _ _ => True := by
    refine comes_deliberate fun id hid e he => ?_
    have htries : flag.Tries p e := ⟨id, hid, he⟩
    exact ⟨htries, (hunassigned e htries).unlisted, hbandits e htries⟩
  obtain ⟨tracker', s', ⟨reasons, hrun⟩, -⟩ := hcomes _ s hblank
  rw [run_settle, hrun]

end Flag

end

end FlagEngine
