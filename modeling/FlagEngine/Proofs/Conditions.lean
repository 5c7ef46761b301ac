import FlagEngine.Condition.Tree

/-!
# Evaluating conditions

The value of a tree depends on the values of its leaves, `Condition.evaluateM_congr`, and the outcome of
a test on the attribute that it names, `Condition.Test.evaluate_congr`.
-/

namespace FlagEngine.Condition

/-- The leaf occurs in the tree. -/
inductive HasLeaf (l : Leaf) : Condition → Prop where
  | leaf : HasLeaf l (.leaf l)
  | branch {op : Operator} {operands : List Condition} {c : Condition} :
      c ∈ operands → c.HasLeaf l → HasLeaf l (.branch op operands)

/-- A test in the tree is about the attribute with the name. -/
def Tests (c : Condition) (name : String) : Prop :=
  ∃ t : Test, c.HasLeaf (.test t) ∧ t.name = some name

/-- What passes from the operands to a branch holds of all trees. -/
@[elab_as_elim]
theorem inductionOn {P : Condition → Prop} (c : Condition) (leaf : ∀ l, P (.leaf l))
    (branch : ∀ op operands, (∀ c ∈ operands, P c) → P (.branch op operands)) : P c :=
  @Condition.rec P (fun operands => ∀ c ∈ operands, P c) leaf branch (fun _ h => nomatch h)
    (fun _ _ hc hcs => List.forall_mem_cons.mpr ⟨hc, hcs⟩) c

variable {m : Type → Type} [Monad m] {leaf leaf' : Leaf → m Truth}

theorem allM_congr {operands : List Condition}
    (h : ∀ c ∈ operands, evaluateM leaf c = evaluateM leaf' c) :
    allM leaf operands = allM leaf' operands := by
  induction operands with
  | nil => rfl
  | cons c cs ih =>
    obtain ⟨hc, hcs⟩ := List.forall_mem_cons.mp h
    rw [allM, allM, hc, ih hcs]

theorem anyM_congr {operands : List Condition}
    (h : ∀ c ∈ operands, evaluateM leaf c = evaluateM leaf' c) :
    anyM leaf operands = anyM leaf' operands := by
  induction operands with
  | nil => rfl
  | cons c cs ih =>
    obtain ⟨hc, hcs⟩ := List.forall_mem_cons.mp h
    rw [anyM, anyM, hc, ih hcs]

/-- A tree has the same value for leaves with the same values. -/
theorem evaluateM_congr {c : Condition} (h : ∀ l, c.HasLeaf l → leaf l = leaf' l) :
    evaluateM leaf c = evaluateM leaf' c := by
  induction c using inductionOn with
  | leaf l => exact h l .leaf
  | branch op operands ih =>
    have ih (c : Condition) (hc : c ∈ operands) : evaluateM leaf c = evaluateM leaf' c :=
      ih c hc fun l hl => h l (.branch hc hl)
    cases op with
    | and => exact allM_congr ih
    | or =>
      rw [evaluateM, evaluateM, anyM_congr ih]
    | not =>
      cases operands with
      | nil => rfl
      | cons c cs => rw [evaluateM, evaluateM, ih c List.mem_cons_self]

namespace Test

variable {t : Test} {a a' : Attributes}

/-- A test has the same outcome for users who agree on the attribute that it names. -/
theorem evaluate_congr (h : ∀ name, t.name = some name → a[name]? = a'[name]?) :
    t.evaluate a = t.evaluate a' := by
  unfold evaluate
  cases t.matching? with
  | none => rfl
  | some matching =>
    cases hname : t.name with
    | none => rfl
    | some name => cases matching <;> simp only [h name hname]

end Test

end FlagEngine.Condition
