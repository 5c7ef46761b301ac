import FlagEngine.Proofs.Conditions.Expansion

/-!
# Learning more

What is not known at a leaf can make the value of a tree unknown, but not wrong. Leaves are open for want of an
attribute or of an audience, or because they are malformed; `Condition.learning_keeps_verdicts` says that no
verdict is reversed by what they turn out to be.
-/

namespace FlagEngine.Condition

/-- Something is missing to evaluate the leaf of a rule's expansion. A test for the mere existence of an
attribute can do without it. -/
inductive Leaf.IsOpen (attributes : Attributes) : Leaf → Prop where
  | missing {t : Test} {name : String} :
      t.name = some name → attributes[name]? = none → t.matching? ≠ some .exists → IsOpen attributes (.test t)
  /-- A reference inside an audience. -/
  | audience (id : String) : IsOpen attributes (.audience id)
  /-- An unknown audience is among them. -/
  | malformed (json : Json) : IsOpen attributes (.malformed json)

variable {attributes : Attributes}

/-- Without its attribute a test has no outcome. -/
theorem Test.evaluate_of_missing {t : Test} {name : String} (hname : t.name = some name)
    (hmissing : attributes[name]? = none) (hexists : t.matching? ≠ some .exists) :
    ∃ fault, t.evaluate attributes = .error fault := by
  unfold evaluate
  split
  · exact ⟨_, rfl⟩
  · rw [hname]
    cases hmatching : t.matching? with
    | none => exact ⟨_, rfl⟩
    | some matching => cases matching <;> simp_all

theorem Leaf.IsOpen.evaluate_eq_unknown {l : Leaf} (h : l.IsOpen attributes) :
    l.evaluate attributes = .unknown := by
  cases h with
  | missing hname hmissing hexists =>
    obtain ⟨fault, hfault⟩ := Test.evaluate_of_missing hname hmissing hexists
    simp only [evaluate, hfault]
  | audience | malformed => rfl

/-- **Learning more never reverses a verdict.** Let two evaluations answer alike at every leaf that is known in
the first one. If the first one comes to a verdict, the second one comes to the same. So whatever the open leaves
of a rule are worth, the value of the rule is unknown, or it is the value that the rule would have with all of
them answered. -/
theorem learning_keeps_verdicts :
    (∀ (c : Condition) (leaf leaf' : Leaf → Reasoned Truth),
      (∀ l, c.HasLeaf l → (leaf l).value ≠ .unknown → (leaf' l).value = (leaf l).value) →
      (c.evaluateM leaf).value ≠ .unknown → (c.evaluateM leaf').value = (c.evaluateM leaf).value) ∧
    ∀ (p : Project) (r : Rule) (attributes : Attributes) (assign : Leaf → Truth),
      (∀ l, (r.expanded p).HasLeaf l → ¬ l.IsOpen attributes → assign l = l.evaluate attributes) →
      (r.targeting.evaluateM (Leaf.truth p attributes)).value = .unknown ∨
        (r.targeting.evaluateM (Leaf.truth p attributes)).value = (r.expanded p).valueUnder assign := by
  constructor
  · intro c leaf leaf' h
    rw [value_evaluateM, value_evaluateM]
    exact valueUnder_learnsTo h
  · intro p r attributes assign h
    rw [Rule.value_targeting, evaluate_eq_valueUnder, or_iff_not_imp_left]
    refine fun hknown => (valueUnder_learnsTo (fun l hl hvalue => ?_) hknown).symm
    exact h l hl fun hopen => hvalue hopen.evaluate_eq_unknown

namespace Leaf.IsOpen.Sample

open Rule.Expansion.Sample (reference domestic project)

def abroad : Attributes :=
  Std.TreeMap.ofList [("country", Attribute.string "fr")]

/-- Asks for an audience that does not exist, too. -/
def rule : Rule :=
  { (default : Rule) with
    conditions := some (.branch .and [reference "4", domestic, .branch .not [reference "1"]]) }

/-- Answers all that is open. -/
def hopeful : Leaf → Truth
  | .test t => (Leaf.test t).evaluate abroad
  | _ => .yes

theorem hopeful_eq {l : Leaf} (h : ¬ l.IsOpen abroad) : hopeful l = l.evaluate abroad := by
  cases l with
  | test t => rfl
  | audience id => exact (h (.audience id)).elim
  | malformed json => exact (h (.malformed json)).elim

end Leaf.IsOpen.Sample

open Leaf.IsOpen in
/-- The rule does not match a user from abroad, however the audiences that it lacks would turn out. -/
theorem learning_keeps_verdicts_of_one_test :
    (Sample.rule.targeting.evaluateM
        (Leaf.truth Rule.Expansion.Sample.project Sample.abroad)).value = .no ∧
      (Sample.rule.expanded Rule.Expansion.Sample.project).valueUnder Sample.hopeful = .no := by
  have hvalue : (Sample.rule.targeting.evaluateM
      (Leaf.truth Rule.Expansion.Sample.project Sample.abroad)).value = .no := by decide +kernel
  refine ⟨hvalue, ?_⟩
  have hkept := learning_keeps_verdicts.2 Rule.Expansion.Sample.project Sample.rule Sample.abroad
    Sample.hopeful fun _ _ hopen => Sample.hopeful_eq hopen
  rw [hvalue] at hkept
  rcases hkept with h | h
  · cases h
  · exact h.symm

end FlagEngine.Condition
