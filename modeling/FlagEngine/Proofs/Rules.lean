import FlagEngine.Decision.Rollout
import FlagEngine.Holdouts

/-!
# What rules come to

A rule covers a user if its conditions are true, and allocates the user to the variation that its ranges
name. What the stages of a decision find is told in these terms: a forced decision by
`User.forcedDecision?_eq_some`, a holdout by `Holdout.serve?_eq_some`, and a rule of a rollout by
`Rollout.tryRule_eq_served`. Which rollout this is for a flag is `Flag.walkedRollout?`.
-/

namespace FlagEngine

namespace Rule

/-- The conditions of the rule are true for the attributes, and not merely unknown. -/
def Covers (p : Project) (r : Rule) (attributes : Attributes) : Prop :=
  (r.targeting.evaluateM (Condition.Leaf.truth p attributes)).value = .yes

/-- The ranges of the rule allocate the bucketing id to one of its variations. -/
def Allocates (sharder : Sharder) (r : Rule) (bucketingId : String) (v : Variation) : Prop :=
  ∃ id, sharder.bucket? bucketingId r.id r.traffic = some id ∧ r.variationById? id = some v

variable {sharder : Sharder} {p : Project} {r : Rule} {n bucketingId id key : String}
  {attributes : Attributes} {v : Variation}

theorem mem_of_variationById? (h : r.variationById? id = some v) : v ∈ r.variations :=
  List.mem_of_find?_eq_some h

theorem mem_of_variationByKey? (h : r.variationByKey? key = some v) : v ∈ r.variations :=
  List.mem_of_find?_eq_some h

theorem Allocates.mem (h : r.Allocates sharder bucketingId v) : v ∈ r.variations := by
  obtain ⟨id, _, hv⟩ := h
  exact mem_of_variationById? hv

theorem Allocates.traffic_ne_nil (h : r.Allocates sharder bucketingId v) : r.traffic ≠ [] := by
  obtain ⟨id, hid, _⟩ := h
  intro hnil
  rw [hnil] at hid
  cases hid

theorem admits_eq_true : (r.admits p n attributes).value = true ↔ r.Covers p attributes :=
  beq_iff_eq

theorem bucket?_eq_some :
    (r.bucket? sharder bucketingId).value = some v ↔ r.Allocates sharder bucketingId v := by
  unfold bucket?
  split
  · next hnil =>
    refine ⟨nofun, fun h => ?_⟩
    exact (List.ne_nil_of_mem h.mem (List.isEmpty_iff.mp hnil)).elim
  · split
    · next hnil => exact ⟨nofun, fun h => (h.traffic_ne_nil (List.isEmpty_iff.mp hnil)).elim⟩
    · unfold Allocates
      cases sharder.bucket? bucketingId r.id r.traffic with
      | none => exact ⟨nofun, fun ⟨_, h, _⟩ => nomatch h⟩
      | some id =>
        simp only [Option.some.injEq, exists_eq_left']
        cases r.variationById? id <;> simp

end Rule

theorem Experiment.mem_of_bucket? {sharder : Sharder} {p : Project} {e : Experiment} {bucketingId : String}
    {v : Variation} (h : (e.bucket? sharder p bucketingId).value = some v) : v ∈ e.variations := by
  unfold bucket? at h
  rw [Reasoned.value_bind] at h
  split at h
  · exact (Rule.bucket?_eq_some.mp h).mem
  · cases h

/-! ## Forced decisions -/

/-- The user forces a decision at the point for a variation that the project has there. -/
def User.Forces (u : User) (p : Project) (point : DecisionPoint) (v : Variation) : Prop :=
  ∃ key, u.forced[point]? = some key ∧ p.flagVariation? point.flagKey key = some v

theorem User.forcedDecision?_eq_some {u : User} {p : Project} {point : DecisionPoint} {v : Variation} :
    (u.forcedDecision? p point).value = some v ↔ u.Forces p point v := by
  unfold forcedDecision? Forces
  cases u.forced[point]? with
  | none => simp
  | some key =>
    simp only [Option.some.injEq, exists_eq_left']
    cases p.flagVariation? point.flagKey key <;> simp

/-! ## Holdouts -/

namespace Holdout

variable {sharder : Sharder} {p : Project} {h : Holdout} {flagId userId : String}
  {attributes : Attributes} {v : Variation}

theorem serve?_eq_some :
    (h.serve? sharder p userId attributes).value = some v ↔
      h.rule.isRunning = true ∧ h.rule.Covers p attributes ∧
        h.rule.Allocates sharder (attributes.bucketingId userId) v := by
  unfold serve?
  split
  · next hr =>
    rw [Bool.not_eq_true'] at hr
    exact ⟨nofun, fun ⟨hrunning, _⟩ => nomatch hr.symm.trans hrunning⟩
  · next hr =>
    rw [Bool.not_eq_true', Bool.not_eq_false] at hr
    split
    · next hnil =>
      refine ⟨nofun, fun ⟨_, _, ha⟩ => ?_⟩
      rcases Bool.or_eq_true_iff.mp hnil with hnil | hnil
      · exact (List.ne_nil_of_mem ha.mem (List.isEmpty_iff.mp hnil)).elim
      · exact (ha.traffic_ne_nil (List.isEmpty_iff.mp hnil)).elim
    · rw [Reasoned.value_bind, ← Rule.admits_eq_true (n := h.key), ← Rule.bucket?_eq_some]
      simp only [hr, true_and]
      cases (h.rule.admits p h.key attributes).value with
      | false => simp
      | true =>
        simp only [if_true, Reasoned.value_bind, true_and]
        cases (h.rule.bucket? sharder (attributes.bucketingId userId)).value <;> simp

theorem of_first? {hs : List Holdout}
    (hv : (first? sharder p flagId userId attributes hs).value = some (h, v)) :
    h ∈ hs ∧ h.appliesTo flagId = true ∧ (h.serve? sharder p userId attributes).value = some v := by
  induction hs with
  | nil => cases hv
  | cons h' hs ih =>
    have later (hv : (first? sharder p flagId userId attributes hs).value = some (h, v)) :
        h ∈ h' :: hs ∧ h.appliesTo flagId = true ∧
          (h.serve? sharder p userId attributes).value = some v :=
      ⟨List.mem_cons_of_mem _ (ih hv).1, (ih hv).2⟩
    unfold first? at hv
    split at hv
    · next happlies =>
      rw [Reasoned.value_bind] at hv
      cases hs' : (h'.serve? sharder p userId attributes).value with
      | none =>
        rw [hs'] at hv
        exact later hv
      | some w =>
        rw [hs'] at hv
        cases hv
        exact ⟨List.mem_cons_self, happlies, hs'⟩
    · exact later hv

end Holdout

/-! ## Rollouts -/

namespace Rollout

variable {sharder : Sharder} {p : Project} {flagKey name : String} {user : User} {rule : Experiment}
  {v : Variation}

theorem tryRule_eq_served :
    (tryRule sharder p flagKey user rule name).value = .served v ↔
      user.Forces p (.ofRule flagKey rule.key) v ∨
        (∀ w, ¬ user.Forces p (.ofRule flagKey rule.key) w) ∧ rule.rule.Covers p user.attributes ∧
          rule.rule.Allocates sharder (user.attributes.bucketingId user.id) v := by
  simp only [← User.forcedDecision?_eq_some, ← Rule.admits_eq_true (n := name), ← Rule.bucket?_eq_some]
  unfold tryRule
  rw [Reasoned.value_bind]
  cases (user.forcedDecision? p (.ofRule flagKey rule.key)).value with
  | some w => simp
  | none =>
    simp only [Reasoned.value_bind]
    cases (rule.rule.admits p name user.attributes).value with
    | false => simp
    | true =>
      simp only [if_true, Reasoned.value_bind]
      cases (rule.rule.bucket? sharder (user.attributes.bucketingId user.id)).value <;> simp

theorem of_tryRules {number : Nat} {rules : List Experiment}
    (h : (tryRules sharder p flagKey user number rules).value = some (rule, v)) :
    rule ∈ rules ∧ ∃ name, (tryRule sharder p flagKey user rule name).value = .served v := by
  induction rules generalizing number with
  | nil => cases h
  | cons r rest ih =>
    unfold tryRules at h
    rw [Reasoned.value_bind] at h
    split at h
    · next w hw =>
      cases h
      exact ⟨List.mem_cons_self, _, hw⟩
    · exact ⟨List.mem_cons_of_mem _ (ih h).1, (ih h).2⟩
    · split at h
      · cases h
      · next last hlast =>
        rw [Reasoned.value_bind, Reasoned.value_bind] at h
        split at h
        · next w hw =>
          cases h
          exact ⟨List.mem_cons_of_mem _ (List.mem_of_getLast? hlast), _, hw⟩
        · cases h
        · cases h

end Rollout

namespace Flag

/-- The rollout that is tried for a flag. Of its id, white space at either end does not count. -/
def walkedRollout? (p : Project) (flag : Flag) : Option Rollout :=
  let rolloutId := Text.trim flag.rolloutId
  if rolloutId.isEmpty then none else p.rollout? rolloutId

theorem value_rolloutVerdict? (sharder : Sharder) (p : Project) (flag : Flag) (user : User) :
    (flag.rolloutVerdict? sharder p user).value
      = (flag.walkedRollout? p).bind fun rollout =>
          (Rollout.tryRules sharder p flag.key user 1 rollout.rules).value.map fun served =>
            .rollout served.1 served.2 := by
  unfold rolloutVerdict? walkedRollout?
  dsimp only
  split
  · rfl
  · cases p.rollout? (Text.trim flag.rolloutId) with
    | none => rfl
    | some rollout =>
      dsimp only [Option.bind_some]
      split
      · next hnil =>
        rw [List.isEmpty_iff.mp hnil]
        rfl
      · rfl

end Flag

end FlagEngine
