import FlagEngine.Proofs.Calls

/-!
# Stickiness

A call that reads from the profile of a user that the user is in a variation of an experiment saves no
other one: `Engine.follows_carryOut`. This takes projects that have the variation.
-/

namespace FlagEngine

/-- Wherever the project has the experiment, it has the variation. -/
def Project.Offers (p : Project) (experimentId variationId : String) : Prop :=
  ∀ id x, p.experiment? id = some x → x.id = experimentId → ∃ v ∈ x.variations, v.id = variationId

/-- To keep a user in a variation of an experiment. -/
def sticking (userId experimentId variationId : String) : Discipline where
  told
    | .project, answer => ∀ p, answer = some p → p.Offers experimentId variationId
    | .profile userId', answer =>
      userId' = userId → (answer.getD ∅)[experimentId]? = some variationId
    | _, _ => True
  allowed
    | .saveVariation userId' experimentId' variationId' =>
      userId' = userId → experimentId' = experimentId → variationId' = variationId
    | _ => True

/-- What a tracker has read, and what it is going to save, agree with a variation of an experiment. -/
structure Tracker.Agrees (t : Tracker) (experimentId variationId : String) : Prop where
  loaded : ∀ profile, t.loaded = some profile → profile[experimentId]? = some variationId
  pending : ∀ id, (experimentId, id) ∈ t.pending → id = variationId

/-- The tracker, if it is the one of the user, keeps the user in a variation of an experiment. -/
def Sticks (userId experimentId variationId : String) (tracker : Option Tracker) : Prop :=
  ∀ t, tracker = some t → t.userId = userId → t.Agrees experimentId variationId

variable {u e v : String}

theorem sticks_tracker? (engine : Engine) (userId : String) (options : Options) :
    Sticks u e v (engine.tracker? userId options) := by
  intro t h _
  unfold Engine.tracker? at h
  split at h
  · cases h
    refine ⟨fun profile hp => ?_, fun id hi => ?_⟩
    · cases hp
    · cases hi
  · cases h

/-! ## The tracker -/

namespace Tracker

variable {t : Tracker}

theorem follows_load (ht : Sticks u e v (some t)) :
    t.load.Follows (sticking u e v) fun a =>
      a.2.userId = t.userId ∧ a.2.loaded = some a.1 ∧ Sticks u e v (some a.2) := by
  unfold load
  cases hl : t.loaded with
  | some profile => exact ⟨rfl, hl, ht⟩
  | none =>
    refine ⟨trivial, fun answer ha => ⟨rfl, rfl, ?_⟩⟩
    rintro t' ⟨⟩ hu
    refine ⟨?_, (ht t rfl hu).pending⟩
    rintro profile ⟨⟩
    exact ha hu

theorem sticks_change {profile : Profile} {experimentId variationId : String}
    (ht : Sticks u e v (some t)) (hl : t.loaded = some profile)
    (hw : t.userId = u → experimentId = e → variationId = v) :
    Sticks u e v (some (t.change profile experimentId variationId)) := by
  rintro _ ⟨⟩ hu
  have huser : (t.change profile experimentId variationId).userId = t.userId := by
    unfold change
    split <;> rfl
  rw [huser] at hu
  obtain ⟨hloaded, hpending⟩ := ht t rfl hu
  have hinsert : (profile.insert experimentId variationId)[e]? = some v := by
    rw [Std.TreeMap.getElem?_insert]
    split
    · next h => rw [hw hu (Std.LawfulEqCmp.compare_eq_iff_eq.mp h)]
    · exact hloaded profile hl
  unfold change
  split
  · refine ⟨?_, hpending⟩
    rintro _ ⟨⟩
    exact hinsert
  · refine ⟨?_, fun id hi => ?_⟩
    · rintro _ ⟨⟩
      exact hinsert
    · rcases List.mem_append.mp hi with hi | hi
      · exact hpending id (List.mem_filter.mp hi).1
      · cases List.mem_singleton.mp hi
        exact hw hu rfl

theorem follows_saved? (ht : Sticks u e v (some t)) (id : String) :
    (t.saved? id).Follows (sticking u e v) fun a =>
      Sticks u e v (some a.2) ∧ (a.2.userId = u → id = e → a.1 = some v) := by
  refine (follows_load ht).bind ?_
  rintro ⟨profile, t'⟩ ⟨_, hl, hs⟩
  refine ⟨hs, fun hu he => ?_⟩
  rw [he]
  exact (hs t' rfl hu).loaded profile hl

theorem follows_record {experimentId variationId : String} (ht : Sticks u e v (some t))
    (hw : t.userId = u → experimentId = e → variationId = v) :
    (t.record experimentId variationId).Follows (sticking u e v) fun t' => Sticks u e v (some t') := by
  refine (follows_load ht).bind ?_
  rintro ⟨profile, t'⟩ ⟨hu, hl, hs⟩
  exact sticks_change hs hl (hu ▸ hw)

theorem follows_saveAll {userId : String} {pending : List (String × String)}
    (h : userId = u → ∀ id, (e, id) ∈ pending → id = v) :
    (saveAll userId pending).Follows (sticking u e v) fun _ => True := by
  induction pending with
  | nil => trivial
  | cons change rest ih =>
    obtain ⟨experimentId, variationId⟩ := change
    refine ⟨fun hu he => ?_, fun _ _ => ih fun hu id hi => h hu id (List.mem_cons_of_mem _ hi)⟩
    subst he
    exact h hu variationId List.mem_cons_self

theorem follows_saveIfAny {tracker : Option Tracker} (h : Sticks u e v tracker) :
    (saveIfAny tracker).Follows (sticking u e v) fun _ => True := by
  cases tracker with
  | none => trivial
  | some t => exact follows_saveAll fun hu id => (h t rfl hu).pending id

end Tracker

/-! ## Experiments -/

/-- The tracker is that of another user, or the experiment is another one. -/
def Apart (userId experimentId id : String) (tracker : Option Tracker) : Prop :=
  ∀ t, tracker = some t → t.userId = userId → id ≠ experimentId

namespace Deliberation

theorem follows_saved? (id : String) :
    (saved? id).Follows (sticking u e v) (Sticks u e v) fun result tracker =>
      Sticks u e v tracker ∧ ∃ variationId, result = .ok variationId ∧
        ∀ t, tracker = some t → t.userId = u → id = e → variationId = some v := by
  intro tracker ht
  cases tracker with
  | none =>
    refine ⟨ht, none, rfl, ?_⟩
    rintro t ⟨⟩
  | some t =>
    refine (Tracker.follows_saved? ht id).bind ?_
    rintro ⟨variationId, t'⟩ ⟨hs, hv⟩
    refine ⟨hs, variationId, rfl, ?_⟩
    rintro _ ⟨⟩
    exact hv

theorem follows_record {id variationId : String} :
    (record id variationId).Follows (sticking u e v)
      (fun tracker => Sticks u e v tracker ∧ Apart u e id tracker) fun _ => Sticks u e v := by
  rintro tracker ⟨hs, ha⟩
  cases tracker with
  | none => exact hs
  | some t =>
    refine (Tracker.follows_record hs fun hu he => (ha t rfl hu he).elim).bind ?_
    exact fun t' h => h

end Deliberation

theorem inherited_sticking (I : Option Tracker → Prop) :
    Inherited fun _ x => x.Keeps (sticking u e v) I := by
  refine Deliberation.inherited_keeps (fun q hq _ => ?_) I
  cases q with
  | saveVariation => exact hq.elim
  | project | forcedVariation | profile | beginDecision | completeDecision | uuid => trivial

namespace Experiment

open Deliberation

variable {x : Experiment} {engine : Engine} {p : Project} {userId : String} {attributes : Attributes}
  {options : Options}

/-- A user who is saved in a variation of the experiment is found there. -/
theorem follows_saved? (ho : x.id = e → ∃ w ∈ x.variations, w.id = v) :
    (x.saved? userId).Follows (sticking u e v) (Sticks u e v) fun result tracker =>
      Sticks u e v tracker ∧
        (result = .ok none → x.bandit = none → Apart u e x.id tracker) := by
  unfold saved?
  split
  · next hb =>
    refine fun tracker ht => ⟨ht, fun _ hn => ?_⟩
    rw [hn] at hb
    cases hb
  · refine Follows.bind (Deliberation.follows_saved? x.id) (fun variationId => ?_) ?_
    · split
      · next w hw =>
        rintro tracker ⟨hs, -⟩
        refine ⟨hs, fun h => ?_⟩
        cases h
      · next hw =>
        rintro tracker ⟨hs, _, ⟨⟩, hv⟩
        refine ⟨hs, fun _ _ t ht hu he => ?_⟩
        obtain ⟨w, hmem, hid⟩ := ho he
        rw [hv t ht hu he, Option.bind_some, Rule.variationById?, List.find?_eq_none] at hw
        exact hw w hmem (by simp [hid])
    · rintro f tracker ⟨hs, _, ⟨⟩, _⟩

/-- Nobody who is saved in a variation comes this far. -/
theorem follows_targeted? :
    (x.targeted? engine p userId attributes options).Follows (sticking u e v)
      (fun tracker => Sticks u e v tracker ∧ (x.bandit = none → Apart u e x.id tracker))
      fun _ => Sticks u e v := by
  refine Follows.bind (keeps_ofReasoned _) (fun admitted => ?_) fun _ _ h => h.1
  split
  · refine Follows.bind (inherited_sticking _).allocated? (fun served => ?_) fun _ _ h => h.1
    cases served with
    | none => exact fun tracker h => h.1
    | some served =>
      refine Follows.bind (keeps_note _) (fun _ => ?_) fun _ _ h => h.1
      by_cases hb : x.bandit.isNone = true
      · have hrecord : (record x.id served.variation.id).Follows (sticking u e v)
            (fun tracker => Sticks u e v tracker ∧ (x.bandit = none → Apart u e x.id tracker))
            fun _ => Sticks u e v :=
          fun tracker h => Deliberation.follows_record tracker ⟨h.1, h.2 (Option.isNone_iff_eq_none.mp hb)⟩
        simp only [hb, if_true]
        exact Follows.bind hrecord (fun _ => keeps_pure _) fun _ _ h => h
      · simp only [hb]
        exact fun tracker h => h.1
  · exact fun tracker h => h.1

theorem keeps_serve? (ho : x.id = e → ∃ w ∈ x.variations, w.id = v) :
    (x.serve? engine p userId attributes options).Keeps (sticking u e v) (Sticks u e v) := by
  unfold serve?
  split
  · refine Keeps.bind (inherited_sticking _).overridden? fun overridden => ?_
    split
    · exact keeps_pure _
    · refine Follows.bind (follows_saved? ho) (fun saved => ?_) fun _ _ h => h.1
      split
      · exact fun tracker h => h.1
      · rintro tracker ⟨hs, ha⟩
        exact follows_targeted? tracker ⟨hs, ha rfl⟩
  · exact Keeps.bind (keeps_note _) fun _ => keeps_pure _

end Experiment

/-! ## Calls -/

theorem governs_sticking (engine : Engine) : Governs (sticking u e v) (Sticks u e v) engine where
  allowed q hq _ := by
    cases q with
    | saveVariation => exact hq.elim
    | project | forcedVariation | profile | beginDecision | completeDecision | uuid => trivial
  started := sticks_tracker? engine
  saved _ := Tracker.follows_saveIfAny

theorem Engine.follows_carryOut (engine : Engine) (errand : Errand) :
    (engine.carryOut errand).Follows (sticking u e v) fun _ => True := by
  rw [carryOut_eq_ask]
  refine ⟨trivial, fun project hp => (governs_sticking engine).follows_given (fun p hproject => ?_) errand⟩
  exact fun id x hx _ _ _ => Experiment.keeps_serve? (hp p hproject id x hx)

end FlagEngine
