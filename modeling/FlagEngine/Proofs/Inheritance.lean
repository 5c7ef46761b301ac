import FlagEngine.Decision.Flag

/-!
# Inheritance

Properties that a deliberation has if its parts have them. For such a property, only the questions about
the profile and the bandits have to be looked at: the rest of a flag is walked here once and for all. Where
consulting a bandit always has the property, only the questions about the profile are left.
-/

namespace FlagEngine

open Deliberation (ofReasoned ofPlan)

/-- The property holds of the parts of a deliberation, save the bandits and the questions about the profile,
and is passed on to the whole. -/
structure Composed (C : (α : Type) → Deliberation α → Prop) : Prop where
  ofReasoned {α : Type} (x : Reasoned α) : C α (ofReasoned x)
  fail {α : Type} (r : Reason) (f : Bandit.Failure) : C α (Deliberation.fail r f)
  forced (userId experimentId : String) :
    C (Option String) (ofPlan (Plan.query (.forcedVariation userId experimentId)))
  bind {α β : Type} {x : Deliberation α} {f : α → Deliberation β} :
    C α x → (∀ a, C β (f a)) → C β (x >>= f)

/-- The property holds of the bandits, too. -/
structure Inherited (C : (α : Type) → Deliberation α → Prop) : Prop extends Composed C where
  consult (p : Project) (userId : String) (attributes : Attributes) (ruleId : String)
    (options : Bandit.CacheOptions) :
    C (Except Bandit.Failure Bandit.Choice) (ofPlan (Bandit.consult p userId attributes ruleId options))

variable {C : (α : Type) → Deliberation α → Prop} {engine : Engine} {p : Project} {x : Experiment}
  {userId : String} {attributes : Attributes} {options : Options} {flag : Flag} {user : User}

namespace Composed

theorem pure (h : Composed C) {α : Type} (a : α) : C α (Pure.pure a) :=
  h.ofReasoned (Pure.pure a)

theorem note (h : Composed C) (r : Reason) : C Unit (Deliberation.note r) :=
  h.ofReasoned (Reasoned.note r)

/-- A value that is given with its reasons is known. -/
theorem ofReasoned_bind (h : Composed C) {α β : Type} {r : Reasoned α} {f : α → Deliberation β}
    (hf : C β (f r.value)) : C β (Deliberation.ofReasoned r >>= f) := by
  have hknown : C β (Deliberation.ofReasoned r >>= fun _ => f r.value) :=
    h.bind (h.ofReasoned r) fun _ => hf
  exact hknown

/-! ## Experiments -/

theorem overridden? (h : Composed C) : C (Option Variation) (x.overridden? userId) := by
  refine h.bind (h.forced userId x.id) fun variationId => ?_
  refine h.bind (h.ofReasoned _) fun forced => ?_
  cases forced with
  | some v => exact h.pure _
  | none => exact h.ofReasoned _

theorem saved? (h : Composed C) (hs : C (Option String) (Deliberation.saved? x.id)) :
    C (Option Variation) (x.saved? userId) := by
  unfold Experiment.saved?
  split
  · exact h.pure _
  · refine h.bind hs fun variationId => ?_
    split
    · exact h.bind (h.note _) fun _ => h.pure _
    · exact h.pure _

section

-- The bandit is consulted only if the group of the experiment lets the user in.
variable (hc : (x.passesGroup engine.sharder p (attributes.bucketingId userId)).value = true →
  C _ (ofPlan (Bandit.consult p userId attributes x.id options.cacheOptions)))

include hc

theorem chosen? (h : Composed C) {b : Experiment.Bandit} :
    C (Option Served) (x.chosen? engine p b userId attributes options) := by
  refine h.ofReasoned_bind (r := x.passesGroup engine.sharder p (attributes.bucketingId userId)) ?_
  split
  · next hgroup =>
    split
    · split
      · refine h.bind (hc hgroup) fun choice => ?_
        cases choice with
        | error f => exact h.fail _ _
        | ok choice =>
          dsimp only
          split
          · exact h.pure _
          · exact h.bind (h.note _) fun _ => h.pure _
      · exact h.fail _ _
    · exact h.bind (h.note _) fun _ => h.pure _
  · exact h.pure _

theorem allocated? (h : Composed C) :
    C (Option Served) (x.allocated? engine p userId attributes options) := by
  unfold Experiment.allocated?
  split
  · exact h.chosen? hc
  · exact h.bind (h.ofReasoned _) fun _ => h.pure _

theorem targeted? (h : Composed C) (hr : ∀ v, C Unit (Deliberation.record x.id v)) :
    C (Option Served) (x.targeted? engine p userId attributes options) := by
  refine h.bind (h.ofReasoned _) fun admitted => ?_
  split
  · refine h.bind (h.allocated? hc) fun served => ?_
    cases served with
    | none => exact h.bind (h.note _) fun _ => h.pure _
    | some served =>
      refine h.bind (h.note _) fun _ => ?_
      split
      · exact h.bind (hr _) fun _ => h.pure _
      · exact h.pure _
  · exact h.bind (h.note _) fun _ => h.pure _

theorem serve? (h : Composed C) (hs : C (Option String) (Deliberation.saved? x.id))
    (hr : ∀ v, C Unit (Deliberation.record x.id v)) :
    C (Option Served) (x.serve? engine p userId attributes options) := by
  unfold Experiment.serve?
  split
  · refine h.bind h.overridden? fun overridden => ?_
    split
    · exact h.pure _
    · refine h.bind (h.saved? hs) fun saved => ?_
      split
      · exact h.pure _
      · exact h.targeted? hc hr
  · exact h.bind (h.note _) fun _ => h.pure _

end

/-! ## Flags -/

theorem tryExperiment (h : Composed C)
    (hx : C (Option Served) (x.serve? engine p user.id user.attributes options)) :
    C (Option Verdict) (flag.tryExperiment engine p user options x) := by
  refine h.bind (h.ofReasoned _) fun forced => ?_
  split
  · exact h.pure _
  · exact h.bind hx fun _ => h.pure _

theorem tryExperiments (h : Composed C)
    (hp : ∀ id x, p.experiment? id = some x →
      C (Option Served) (x.serve? engine p user.id user.attributes options)) (ids : List String) :
    C (Option Verdict) (Flag.tryExperiments engine p flag user options ids) := by
  induction ids with
  | nil => exact h.pure _
  | cons id ids ih =>
    unfold Flag.tryExperiments
    split
    · exact ih
    · next x hx =>
      refine h.bind (h.tryExperiment (hp id x hx)) fun verdict => ?_
      split
      · exact h.pure _
      · exact ih

theorem experimentVerdict? (h : Composed C)
    (hp : ∀ id x, p.experiment? id = some x →
      C (Option Served) (x.serve? engine p user.id user.attributes options)) :
    C (Option Verdict) (flag.experimentVerdict? engine p user options) := by
  unfold Flag.experimentVerdict?
  split
  · exact h.bind (h.note _) fun _ => h.pure _
  · exact h.tryExperiments hp _

/-- The property holds of a flag if it holds of the experiments of the project. -/
theorem deliberate (h : Composed C)
    (hp : ∀ id x, p.experiment? id = some x →
      C (Option Served) (x.serve? engine p user.id user.attributes options)) :
    C Verdict (flag.deliberate engine p user options) := by
  refine h.bind (h.ofReasoned _) fun forced => ?_
  split
  · exact h.pure _
  · refine h.bind (h.ofReasoned _) fun holdout => ?_
    split
    · exact h.pure _
    · refine h.bind (h.experimentVerdict? hp) fun verdict => ?_
      split
      · exact h.pure _
      · exact h.bind (h.ofReasoned _) fun _ => h.pure _

end Composed

/-! ## Bandits that may be consulted -/

namespace Inherited

theorem allocated? (h : Inherited C) :
    C (Option Served) (x.allocated? engine p userId attributes options) :=
  h.toComposed.allocated? fun _ => h.consult ..

theorem serve? (h : Inherited C) (hs : C (Option String) (Deliberation.saved? x.id))
    (hr : ∀ v, C Unit (Deliberation.record x.id v)) :
    C (Option Served) (x.serve? engine p userId attributes options) :=
  h.toComposed.serve? (fun _ => h.consult ..) hs hr

/-- An experiment with a bandit puts no questions about the profile. -/
theorem serve?_of_bandit (h : Inherited C) {b : Experiment.Bandit} (hb : x.bandit = some b) :
    C (Option Served) (x.serve? engine p userId attributes options) := by
  unfold Experiment.serve?
  split
  · refine h.bind h.overridden? fun overridden => ?_
    split
    · exact h.pure _
    · unfold Experiment.saved? Experiment.targeted?
      simp only [hb, Option.isSome_some, if_true, Option.isNone_some, Bool.false_eq_true, if_false]
      refine h.bind (h.pure _) fun saved => ?_
      split
      · exact h.pure _
      · refine h.bind (h.ofReasoned _) fun admitted => ?_
        split
        · refine h.bind h.allocated? fun served => ?_
          split
          · exact h.bind (h.note _) fun _ => h.bind (h.pure _) fun _ => h.pure _
          · exact h.bind (h.note _) fun _ => h.pure _
        · exact h.bind (h.note _) fun _ => h.pure _
  · exact h.bind (h.note _) fun _ => h.pure _

end Inherited

end FlagEngine
