import FlagEngine.Proofs.Rules
import FlagEngine.Proofs.Transcripts

/-!
# Placements

An experiment places a user if its ranges choose a variation and neither the client nor the whitelist nor the
profile has had one for the user: `Experiment.Places`. Only then is the profile changed. `Tended` says how a
tracker stands to what has passed in a call, and `Experiment.leads_serve?` is the step of one experiment.
-/

namespace FlagEngine

open Deliberation

variable {sharder : Sharder} {p : Project} {user : User} {K K' : Experiment → Variation → Prop}
  {past : Transcript}

/-! ## Placing a user -/

namespace Experiment

variable {e : Experiment} {v : Variation}

theorem value_forcedVariation? (e : Experiment) (userId : String) (variationId : Option String) :
    (e.forcedVariation? userId variationId).value = variationId.bind e.rule.variationById? := by
  unfold forcedVariation?
  cases variationId with
  | none => rfl
  | some id =>
    dsimp only [Option.bind_some]
    cases e.rule.variationById? id <;> rfl

theorem value_whitelisted? (e : Experiment) (userId : String) :
    (e.whitelisted? userId).value = (e.whitelist.lookup userId).bind e.rule.variationByKey? := by
  unfold whitelisted?
  cases e.whitelist.lookup userId with
  | none => rfl
  | some key =>
    dsimp only [Option.bind_some]
    cases e.rule.variationByKey? key <;> rfl

/-- Neither the client, as it has told, nor the whitelist has a valid variation for the user. -/
structure Unset (user : User) (past : Transcript) (e : Experiment) : Prop where
  unforced : ∃ answer : Option String, .asked (.forcedVariation user.id e.id) answer ∈ past ∧
    answer.bind e.rule.variationById? = none
  unlisted : (e.whitelist.lookup user.id).bind e.rule.variationByKey? = none

/-- The experiment places the user in a variation: it is running and has no bandit, nothing is set for the
user, the profile that the store has told of has no valid variation, the audience covers the user and the
ranges choose the variation. -/
structure Places (sharder : Sharder) (p : Project) (user : User) (past : Transcript) (e : Experiment)
    (v : Variation) : Prop where
  running : e.rule.isRunning = true
  ordinary : e.bandit = none
  unset : e.Unset user past
  unsaved : ∃ answer : Option Profile, .asked (.profile user.id) answer ∈ past ∧
    (answer.getD ∅)[e.id]?.bind e.rule.variationById? = none
  covered : e.rule.Covers p user.attributes
  bucketed : (e.bucket? sharder p (user.attributes.bucketingId user.id)).value = some v

theorem Unset.cons (h : e.Unset user past) (x : Exchange) : e.Unset user (x :: past) := by
  obtain ⟨⟨answer, hmem, hanswer⟩, hlist⟩ := h
  exact ⟨⟨answer, List.mem_cons_of_mem _ hmem, hanswer⟩, hlist⟩

theorem Places.cons (h : e.Places sharder p user past v) (x : Exchange) :
    e.Places sharder p user (x :: past) v := by
  obtain ⟨answer, hmem, hanswer⟩ := h.unsaved
  exact { h with
    unset := h.unset.cons x
    unsaved := ⟨answer, List.mem_cons_of_mem _ hmem, hanswer⟩ }

end Experiment

/-- One of some placements is into the variation with the given id, by the experiment with the given id. -/
def Placed (sharder : Sharder) (p : Project) (user : User) (K : Experiment → Variation → Prop)
    (past : Transcript) (experimentId variationId : String) : Prop :=
  ∃ e v, K e v ∧ e.Places sharder p user past v ∧ e.id = experimentId ∧ v.id = variationId

theorem Placed.mono {id variationId : String} (h : Placed sharder p user K past id variationId)
    (hK : ∀ e v, K e v → K' e v) : Placed sharder p user K' past id variationId := by
  obtain ⟨e, v, hk, h⟩ := h
  exact ⟨e, v, hK e v hk, h⟩

theorem Placed.cons {id variationId : String} (h : Placed sharder p user K past id variationId)
    (x : Exchange) : Placed sharder p user K (x :: past) id variationId := by
  obtain ⟨e, v, hk, hplaces, hid⟩ := h
  exact ⟨e, v, hk, hplaces.cons x, hid⟩

/-! ## The tracker of a call -/

/-- How the tracker of a call stands to what has passed. The store has been asked for the profile of the user
at most once and nothing has been saved. The profile is as the store has told but for placements, and so is
what there is to save. -/
inductive Tended (sharder : Sharder) (p : Project) (user : User) (K : Experiment → Variation → Prop)
    (past : Transcript) : Option Tracker → Prop where
  /-- Profiles are not in use. -/
  | absent : past.filter Exchange.concernsProfile = [] → Tended sharder p user K past none
  | unread : past.filter Exchange.concernsProfile = [] →
      Tended sharder p user K past (some (.ofUser user.id))
  | read {answer : Option Profile} {profile : Profile} {pending : List (String × String)} :
      past.filter Exchange.concernsProfile = [.asked (.profile user.id) answer] →
      (∀ id : String, profile[id]? = (answer.getD ∅)[id]? ∨
        ∃ variationId, profile[id]? = some variationId ∧ Placed sharder p user K past id variationId) →
      (∀ change ∈ pending, Placed sharder p user K past change.1 change.2) →
      Tended sharder p user K past (some ⟨user.id, some profile, pending⟩)

namespace Tended

variable {tracker : Option Tracker} {t : Tracker} {e : Experiment} {v : Variation}

/-- The exchanges about the profile are the same, and no placement is lost. -/
theorem map {past' : Transcript} (h : Tended sharder p user K past tracker)
    (hfilter : past'.filter Exchange.concernsProfile = past.filter Exchange.concernsProfile)
    (hplaced : ∀ id variationId, Placed sharder p user K past id variationId →
      Placed sharder p user K' past' id variationId) : Tended sharder p user K' past' tracker := by
  cases h with
  | absent hpast => exact .absent (hfilter.trans hpast)
  | unread hpast => exact .unread (hfilter.trans hpast)
  | read hpast hprofile hpending =>
    refine .read (hfilter.trans hpast) (fun id => ?_) fun change hc => hplaced _ _ (hpending change hc)
    rcases hprofile id with h | ⟨variationId, h, hid⟩
    · exact .inl h
    · exact .inr ⟨variationId, h, hplaced id variationId hid⟩

theorem mono (h : Tended sharder p user K past tracker) (hK : ∀ e v, K e v → K' e v) :
    Tended sharder p user K' past tracker :=
  h.map rfl fun _ _ hplaced => hplaced.mono hK

theorem cons {x : Exchange} (hx : x.concernsProfile = false)
    (h : Tended sharder p user K past tracker) : Tended sharder p user K (x :: past) tracker :=
  h.map (List.filter_cons_of_neg (by simp [hx])) fun _ _ hplaced => hplaced.cons x

theorem tracker? (engine : Engine) (user : User) (options : Options) :
    Tended sharder p user K [] (engine.tracker? user.id options) := by
  unfold Engine.tracker?
  split
  · exact .unread rfl
  · exact .absent rfl

/-- Whatever leaves profiles alone keeps the tracker as it should be. -/
theorem inherited (sharder : Sharder) (p : Project) (user : User) (K : Experiment → Variation → Prop) :
    Inherited fun _ x => x.Maintains (Tended sharder p user K) :=
  inherited_maintains fun _ _ _ hy h => h.cons hy

/-! ### Reading -/

theorem leads_load (h : Tended sharder p user K past (some t)) :
    t.load.Leads (fun past a => a.2.loaded = some a.1 ∧ Tended sharder p user K past (some a.2)) past := by
  cases h with
  | unread hpast =>
    intro answer
    have hasked : List.filter Exchange.concernsProfile (.asked (.profile user.id) answer :: past)
        = [.asked (.profile user.id) answer] := by
      rw [List.filter_cons_of_pos rfl, hpast]
    exact ⟨rfl, .read hasked (fun id => .inl rfl) nofun⟩
  | read hpast hprofile hpending => exact ⟨rfl, .read hpast hprofile hpending⟩

/-- The profile that has been read has the variation with this id, if any, for the experiment. -/
def Finds (id : String) (variationId : Option String) (tracker : Option Tracker) : Prop :=
  ∀ t, tracker = some t → ∃ profile : Profile, t.loaded = some profile ∧ profile[id]? = variationId

theorem leads_saved? (id : String) :
    (saved? id).Leads (Tended sharder p user K) fun past result tracker =>
      Tended sharder p user K past tracker ∧
        ∃ variationId, result = .ok variationId ∧ Finds id variationId tracker := by
  intro past tracker h
  cases tracker with
  | none => exact ⟨h, none, rfl, nofun⟩
  | some t =>
    refine Plan.Leads.bind (h.leads_load.bind ?_) fun past a ha => ha
    rintro past ⟨profile, t'⟩ ⟨hloaded, h⟩
    refine ⟨h, profile[id]?, rfl, ?_⟩
    rintro _ ⟨⟩
    exact ⟨profile, hloaded, rfl⟩

/-! ### Changing -/

/-- If the profile has no valid variation for an experiment, then neither had the store, as long as the
placements so far are by other experiments. -/
theorem unsaved {profile : Profile} (h : Tended sharder p user K past (some t))
    (hloaded : t.loaded = some profile) (hK : ∀ e' v, K e' v → e'.id = e.id → e' = e)
    (hnone : profile[e.id]?.bind e.rule.variationById? = none) :
    ∃ answer : Option Profile, .asked (.profile user.id) answer ∈ past ∧
      (answer.getD ∅)[e.id]?.bind e.rule.variationById? = none := by
  cases h with
  | unread => cases hloaded
  | @read answer _ _ hpast hprofile =>
    cases hloaded
    have hmem : Exchange.asked (.profile user.id) answer ∈ past.filter Exchange.concernsProfile := by
      rw [hpast]
      exact List.mem_singleton_self _
    refine ⟨answer, (List.mem_filter.mp hmem).1, ?_⟩
    rcases hprofile e.id with heq | ⟨variationId, hsome, e', v, hk, hplaces, hid, rfl⟩
    · rwa [← heq]
    · obtain rfl : e' = e := hK e' v hk hid
      rw [hsome, Option.bind_some, Rule.variationById?, List.find?_eq_none] at hnone
      exact absurd (beq_self_eq_true v.id) (hnone v (Experiment.mem_of_bucket? hplaces.bucketed))

theorem change {profile : Profile} (h : Tended sharder p user K past (some t))
    (hloaded : t.loaded = some profile) (hplaces : e.Places sharder p user past v)
    (hK : ∀ e v, K e v → K' e v) (hv : K' e v) :
    Tended sharder p user K' past (some (t.change profile e.id v.id)) := by
  have hplaced : Placed sharder p user K' past e.id v.id := ⟨e, v, hv, hplaces, rfl, rfl⟩
  cases h.mono hK with
  | unread => cases hloaded
  | @read answer _ pending hpast hprofile hpending =>
    cases hloaded
    have hinsert (id : String) : (profile.insert e.id v.id)[id]? = (answer.getD ∅)[id]? ∨
        ∃ variationId, (profile.insert e.id v.id)[id]? = some variationId ∧
          Placed sharder p user K' past id variationId := by
      rw [Std.TreeMap.getElem?_insert]
      split
      · next he =>
        obtain rfl : e.id = id := Std.LawfulEqCmp.compare_eq_iff_eq.mp he
        exact .inr ⟨v.id, rfl, hplaced⟩
      · exact hprofile id
    unfold Tracker.change
    dsimp only
    split
    · exact .read hpast hinsert hpending
    · refine .read hpast hinsert fun change hc => ?_
      rcases List.mem_append.mp hc with hc | hc
      · exact hpending change (List.mem_filter.mp hc).1
      · cases List.mem_singleton.mp hc
        exact hplaced

end Tended

/-! ## One experiment -/

namespace Experiment

variable {engine : Engine} {options : Options} {e : Experiment} {v : Variation}
  {variationId : Option String}

/-- The placements so far, and that into what the experiment has come to. -/
def Joins (K : Experiment → Variation → Prop) (e : Experiment)
    (result : Except Bandit.Failure (Option Served)) (e' : Experiment) (v : Variation) : Prop :=
  K e' v ∨ e' = e ∧ result = .ok (some ⟨v, none⟩)

theorem leads_overridden? :
    (e.overridden? user.id).Leads (Tended sharder p user K) fun past result tracker =>
      Tended sharder p user K past tracker ∧ (result = .ok none → e.Unset user past) := by
  have hquery : (ofPlan (Plan.query (.forcedVariation user.id e.id))).Leads (Tended sharder p user K)
      fun past result tracker => Tended sharder p user K past tracker ∧
        ∃ answer : Option String, result = .ok answer ∧
          .asked (.forcedVariation user.id e.id) answer ∈ past :=
    fun past tracker h answer => ⟨h.cons rfl, answer, rfl, List.mem_cons_self⟩
  refine Leads.bind hquery (fun variationId => ?_) ?_
  · refine leads_ofReasoned_bind (x := e.forcedVariation? user.id variationId) ?_
    rw [value_forcedVariation?]
    cases hforced : Option.bind variationId e.rule.variationById? with
    | some v => exact leads_pure fun past tracker h => ⟨h.1, nofun⟩
    | none =>
      rintro past tracker ⟨h, _, ⟨⟩, hmem⟩
      refine ⟨h, fun hnone => ⟨⟨variationId, hmem, hforced⟩, ?_⟩⟩
      rw [← value_whitelisted?]
      exact Except.ok.inj hnone
  · rintro past f tracker ⟨h, _, ⟨⟩, _⟩

theorem leads_saved? (hb : e.bandit = none) :
    (e.saved? user.id).Leads (Tended sharder p user K) fun past result tracker =>
      Tended sharder p user K past tracker ∧ (result = .ok none → ∃ variationId : Option String,
        variationId.bind e.rule.variationById? = none ∧ Tended.Finds e.id variationId tracker) := by
  unfold Experiment.saved?
  rw [hb]
  refine Leads.bind (Tended.leads_saved? e.id) (fun variationId => ?_) ?_
  · split
    · exact leads_ofReasoned_bind (leads_pure fun past tracker h => ⟨h.1, nofun⟩)
    · next hnone =>
      refine leads_pure ?_
      rintro past tracker ⟨h, _, ⟨⟩, hfinds⟩
      exact ⟨h, fun _ => ⟨variationId, hnone, hfinds⟩⟩
  · rintro past f tracker ⟨h, _, ⟨⟩, _⟩

theorem leads_record (hrunning : e.rule.isRunning = true) (hb : e.bandit = none)
    (hcovers : e.rule.Covers p user.attributes)
    (hbucket : (e.bucket? sharder p (user.attributes.bucketingId user.id)).value = some v)
    (hK : ∀ e' v, K e' v → e'.id = e.id → e' = e)
    (hnone : variationId.bind e.rule.variationById? = none) :
    (record e.id v.id).Leads
      (fun past tracker => (Tended sharder p user K past tracker ∧ Tended.Finds e.id variationId tracker) ∧
        e.Unset user past)
      fun past result tracker => result = .ok () ∧
        Tended sharder p user (e.Joins K (.ok (some ⟨v, none⟩))) past tracker := by
  rintro past tracker ⟨⟨h, hfinds⟩, hunset⟩
  cases tracker with
  | none => exact ⟨rfl, h.mono fun _ _ => .inl⟩
  | some t =>
    obtain ⟨profile, hloaded, rfl⟩ := hfinds t rfl
    have hplaces : e.Places sharder p user past v :=
      ⟨hrunning, hb, hunset, h.unsaved hloaded hK hnone, hcovers, hbucket⟩
    have hrecord : record e.id v.id (some t)
        = .done ⟨.ok (), some (t.change profile e.id v.id), []⟩ := by
      rw [record, Tracker.record, Tracker.load_of_loaded hloaded]
      rfl
    rw [hrecord]
    exact ⟨rfl, h.change hloaded hplaces (fun _ _ => .inl) (.inr ⟨rfl, rfl⟩)⟩

theorem allocated?_of_ordinary (hb : e.bandit = none) (userId : String) (attributes : Attributes) :
    e.allocated? engine p userId attributes options
      = ofReasoned (Option.map (fun v => ⟨v, none⟩) <$>
          e.bucket? engine.sharder p (attributes.bucketingId userId)) := by
  unfold allocated?
  rw [hb]
  rfl

theorem leads_targeted? (hrunning : e.rule.isRunning = true) (hb : e.bandit = none)
    (hK : ∀ e' v, K e' v → e'.id = e.id → e' = e)
    (hnone : variationId.bind e.rule.variationById? = none) :
    (e.targeted? engine p user.id user.attributes options).Leads
      (fun past tracker => (Tended engine.sharder p user K past tracker ∧
        Tended.Finds e.id variationId tracker) ∧ e.Unset user past)
      fun past result tracker => Tended engine.sharder p user (e.Joins K result) past tracker := by
  unfold targeted?
  refine leads_ofReasoned_bind ?_
  cases hadmits : (e.rule.admits p e.key user.attributes).value with
  | false => exact leads_ofReasoned_bind (leads_pure fun past tracker h => h.1.1.mono fun _ _ => .inl)
  | true =>
    rw [if_pos rfl, allocated?_of_ordinary hb]
    refine leads_ofReasoned_bind ?_
    rw [Reasoned.value_map]
    cases hbucket : (e.bucket? engine.sharder p (user.attributes.bucketingId user.id)).value with
    | none => exact leads_ofReasoned_bind (leads_pure fun past tracker h => h.1.1.mono fun _ _ => .inl)
    | some v =>
      refine leads_ofReasoned_bind ?_
      simp only [hb, Option.isNone_none, if_true]
      have hrecord := leads_record hrunning hb (Rule.admits_eq_true.mp hadmits) hbucket hK hnone
      exact Leads.bind hrecord (fun _ => leads_pure fun past tracker h => h.2)
        fun past f tracker h => nomatch h.1

/-- What an experiment does to the profile: unless it places the user and serves that variation, nothing. -/
theorem leads_serve? (hK : ∀ e' v, K e' v → e'.id = e.id → e' = e) :
    (e.serve? engine p user.id user.attributes options).Leads (Tended engine.sharder p user K)
      fun past result tracker => Tended engine.sharder p user (e.Joins K result) past tracker := by
  cases hb : e.bandit with
  | some b =>
    have hkeeps : (e.serve? engine p user.id user.attributes options).Maintains
        (Tended engine.sharder p user K) :=
      (Tended.inherited engine.sharder p user K).serve?_of_bandit hb
    exact hkeeps.leads fun past result tracker h => h.mono fun _ _ => .inl
  | none =>
    unfold serve?
    split
    · next hrunning =>
      refine Leads.bind leads_overridden? (fun overridden => ?_)
        fun past f tracker h => h.1.mono fun _ _ => .inl
      cases overridden with
      | some v => exact leads_pure fun past tracker h => h.1.mono fun _ _ => .inl
      | none =>
        have hsaved : (e.saved? user.id).Leads
            (fun past tracker => Tended engine.sharder p user K past tracker ∧ e.Unset user past) _ :=
          (leads_saved? hb).frame fun past y h => h.cons y
        refine Leads.of_pre (Leads.bind hsaved (fun saved => ?_) fun past f tracker h =>
          h.1.1.mono fun _ _ => .inl) fun past tracker h => ⟨h.1, h.2 rfl⟩
        cases saved with
        | some v => exact leads_pure fun past tracker h => h.1.1.mono fun _ _ => .inl
        | none =>
          rintro past tracker ⟨⟨h, hmissing⟩, hunset⟩
          obtain ⟨variationId, hnone, hfinds⟩ := hmissing rfl
          exact leads_targeted? hrunning hb hK hnone past tracker ⟨⟨h, hfinds⟩, hunset⟩
    · exact leads_ofReasoned_bind (leads_pure fun past tracker h => h.mono fun _ _ => .inl)

end Experiment

/-! ## Saving at the end -/

/-- In what has passed, the store has been asked for the profile of the user alone and once at most, and has
been told of placements alone. -/
structure Tidy (sharder : Sharder) (p : Project) (user : User) (K : Experiment → Variation → Prop)
    (past : Transcript) : Prop where
  saved : ∀ userId experimentId variationId answer,
    .asked (.saveVariation userId experimentId variationId) answer ∈ past →
      userId = user.id ∧ Placed sharder p user K past experimentId variationId
  looked : ∀ userId answer, .asked (.profile userId) answer ∈ past → userId = user.id
  once : past.countP Exchange.isLookup ≤ 1

namespace Tidy

theorem of_tended {tracker : Option Tracker} (h : Tended sharder p user K past tracker) :
    Tidy sharder p user K past := by
  obtain ⟨lookups, hpast, hlength, hlookups⟩ : ∃ lookups, past.filter Exchange.concernsProfile = lookups ∧
      lookups.length ≤ 1 ∧ ∀ x ∈ lookups, ∃ answer, x = .asked (.profile user.id) answer := by
    cases h with
    | absent hpast => exact ⟨[], hpast, Nat.zero_le _, nofun⟩
    | unread hpast => exact ⟨[], hpast, Nat.zero_le _, nofun⟩
    | @read answer _ _ hpast =>
      exact ⟨_, hpast, Nat.le_refl _, fun x hx => ⟨answer, List.mem_singleton.mp hx⟩⟩
  have hlookup {x : Exchange} (hx : x ∈ past) (hc : x.concernsProfile = true) :
      ∃ answer, x = .asked (.profile user.id) answer := by
    apply hlookups
    rw [← hpast]
    exact List.mem_filter.mpr ⟨hx, hc⟩
  refine ⟨fun _ _ _ _ hx => ?_, fun _ _ hx => ?_, ?_⟩
  · obtain ⟨answer, heq⟩ := hlookup hx rfl
    cases heq
  · obtain ⟨answer, heq⟩ := hlookup hx rfl
    cases heq
    rfl
  · calc past.countP Exchange.isLookup
        ≤ past.countP Exchange.concernsProfile :=
          List.countP_mono_left fun _ _ => Exchange.concernsProfile_of_isLookup
      _ = lookups.length := by rw [List.countP_eq_length_filter, hpast]
      _ ≤ 1 := hlength

theorem save {id variationId : String} (h : Tidy sharder p user K past)
    (hplaced : Placed sharder p user K past id variationId)
    (answer : (Query.saveVariation user.id id variationId).Answer) :
    Tidy sharder p user K (.asked (.saveVariation user.id id variationId) answer :: past) where
  saved userId id' variationId' answer' hmem := by
    rcases List.mem_cons.mp hmem with heq | hmem
    · cases heq
      exact ⟨rfl, hplaced.cons _⟩
    · obtain ⟨huser, hplaced'⟩ := h.saved userId id' variationId' answer' hmem
      exact ⟨huser, hplaced'.cons _⟩
  looked userId answer' hmem := by
    rcases List.mem_cons.mp hmem with heq | hmem
    · cases heq
    · exact h.looked userId answer' hmem
  once := by
    rw [List.countP_cons_of_neg (by simp [Exchange.isLookup])]
    exact h.once

theorem leads_saveAll {pending : List (String × String)} (h : Tidy sharder p user K past)
    (hpending : ∀ change ∈ pending, Placed sharder p user K past change.1 change.2) :
    (Tracker.saveAll user.id pending).Leads (fun past _ => Tidy sharder p user K past) past := by
  induction pending generalizing past with
  | nil => exact h
  | cons change pending ih =>
    obtain ⟨hchange, hpending⟩ := List.forall_mem_cons.mp hpending
    intro answer
    exact ih (h.save hchange answer) fun change hc => (hpending change hc).cons _

end Tidy

/-- Saving what has changed. -/
theorem Tended.leads_saveIfAny {tracker : Option Tracker} (h : Tended sharder p user K past tracker) :
    (Tracker.saveIfAny tracker).Leads (fun past _ => Tidy sharder p user K past) past := by
  have htidy := Tidy.of_tended h
  cases h with
  | absent => exact htidy
  | unread => exact htidy
  | read _ _ hpending => exact htidy.leads_saveAll hpending

end FlagEngine
