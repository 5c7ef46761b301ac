import FlagEngine.Proofs.Conditions
import FlagEngine.Reason
import Mathlib.Data.List.Forall2
import Mathlib.Order.Bounds.Basic

/-!
# Conditions in strong Kleene logic

Under an assignment of truth values to leaves a tree has the value `Condition.valueUnder`. A branch is worth
what its operator makes of the values of all its operands, `Condition.valueUnder_branch`, although not all of
them are evaluated, and whatever the leaves do besides answering: `Condition.answers_evaluateM`. What is known
of lists of truth values thereby holds of trees. `Condition.follows_kleene` puts the laws together.

Knowledge is ordered as well: an unknown value may become anything by learning more, and a known one stays.
Trees keep to this order, `Condition.valueUnder_learnsTo`.
-/

namespace FlagEngine

namespace Truth

/-- Unknown stands between false and true. -/
def rank : Truth → Nat
  | .no => 0
  | .unknown => 1
  | .yes => 2

theorem rank_injective : Function.Injective rank := by
  intro v w h
  cases v <;> cases w <;> simp_all [rank]

instance : PartialOrder Truth := .lift rank rank_injective

instance : DecidableLE Truth := fun v w => Nat.decLe v.rank w.rank

variable {u v v' w w' : Truth}

theorem le_and : u ≤ v.and w ↔ u ≤ v ∧ u ≤ w := by
  cases u <;> cases v <;> cases w <;> decide

theorem and_eq_or (v w : Truth) : v.and w = v ∨ v.and w = w := by
  cases v <;> cases w <;> decide

theorem not_le_comm : v.not ≤ w ↔ w.not ≤ v := by
  cases v <;> cases w <;> decide

@[simp] theorem and_yes (v : Truth) : v.and .yes = v := by
  cases v <;> rfl

/-! ## Knowledge -/

/-- The one value may turn out to be the other by learning more: what is known stays. -/
def LearnsTo (v w : Truth) : Prop :=
  v ≠ .unknown → w = v

namespace LearnsTo

theorem refl (v : Truth) : v.LearnsTo v :=
  fun _ => rfl

theorem not (h : v.LearnsTo w) : v.not.LearnsTo w.not := by
  cases v <;> cases w <;> simp_all [LearnsTo, Truth.not]

theorem and (h : v.LearnsTo v') (hw : w.LearnsTo w') : (v.and w).LearnsTo (v'.and w') := by
  cases v <;> cases w <;> cases v' <;> cases w' <;> simp_all [LearnsTo, Truth.and]

theorem or (h : v.LearnsTo v') (hw : w.LearnsTo w') : (v.or w).LearnsTo (v'.or w') := by
  have hdual := (h.not.and hw.not).not
  rwa [Truth.not_and, Truth.not_and, Truth.not_not, Truth.not_not, Truth.not_not, Truth.not_not] at hdual

end LearnsTo

end Truth

namespace Condition

/-! ## Operators -/

namespace Operator

/-- What an operator makes of the values of its operands. -/
def apply : Operator → List Truth → Truth
  | _, [] => .yes
  | .and, vs => vs.foldr Truth.and .yes
  | .or, vs => vs.foldr Truth.or .no
  | .not, v :: _ => v.not

variable {vs ws : List Truth}

theorem apply_and_cons (v : Truth) (vs : List Truth) : apply .and (v :: vs) = v.and (apply .and vs) := by
  cases vs <;> rfl

theorem isLeast_apply_and (h : vs ≠ []) : IsLeast {v | v ∈ vs} (apply .and vs) := by
  induction vs with
  | nil => exact (h rfl).elim
  | cons v vs ih =>
    rcases eq_or_ne vs [] with rfl | hvs
    · simp [apply, IsLeast]
    · obtain ⟨hmem, hle⟩ := ih hvs
      rw [apply_and_cons]
      constructor
      · rcases Truth.and_eq_or v (apply .and vs) with hv | hv <;> rw [hv]
        · exact List.mem_cons_self
        · exact List.mem_cons_of_mem v hmem
      · intro u hu
        obtain ⟨hv, hrest⟩ := Truth.le_and.mp (le_refl (v.and (apply .and vs)))
        rcases List.mem_cons.mp hu with rfl | hu
        · exact hv
        · exact hrest.trans (hle hu)

theorem not_foldr_and (vs : List Truth) :
    (vs.foldr Truth.and .yes).not = (vs.map Truth.not).foldr Truth.or .no := by
  induction vs with
  | nil => rfl
  | cons v vs ih => rw [List.foldr_cons, Truth.not_and, ih, List.map_cons, List.foldr_cons]

theorem not_apply_and (h : vs ≠ []) : (apply .and vs).not = apply .or (vs.map .not) := by
  cases vs with
  | nil => exact (h rfl).elim
  | cons v vs => exact not_foldr_and (v :: vs)

theorem not_apply_or (h : vs ≠ []) : (apply .or vs).not = apply .and (vs.map .not) := by
  have hmap : vs.map Truth.not ≠ [] := by simpa using h
  have hvs : (vs.map Truth.not).map Truth.not = vs := by simp [Function.comp_def]
  calc (apply .or vs).not
    _ = (apply .or ((vs.map .not).map .not)).not := by rw [hvs]
    _ = apply .and (vs.map .not) := by rw [← not_apply_and hmap, Truth.not_not]

/-- The dual of `isLeast_apply_and`. -/
theorem isGreatest_apply_or (h : vs ≠ []) : IsGreatest {v | v ∈ vs} (apply .or vs) := by
  have hmap : vs.map Truth.not ≠ [] := by simpa using h
  obtain ⟨hmem, hle⟩ := isLeast_apply_and hmap
  rw [← not_apply_or h] at hmem hle
  constructor
  · obtain ⟨v, hv, hnot⟩ := List.mem_map.mp hmem
    have heq : v = apply .or vs := by rw [← Truth.not_not v, hnot, Truth.not_not]
    exact heq ▸ hv
  · intro v hv
    have hnot : (apply .or vs).not ≤ v.not := hle (List.mem_map_of_mem hv)
    rwa [Truth.not_le_comm, Truth.not_not] at hnot

/-- The order of the operands is of no account, save for `not`. -/
theorem apply_perm {op : Operator} (hop : op ≠ .not) (h : vs.Perm ws) : op.apply vs = op.apply ws := by
  rcases eq_or_ne vs [] with rfl | hvs
  · rw [h.nil_eq]
  · have hws : ws ≠ [] := fun hws => hvs (hws ▸ h).eq_nil
    have hmem : {v | v ∈ vs} = {v | v ∈ ws} := Set.ext fun v => h.mem_iff
    cases op with
    | and => exact (hmem ▸ isLeast_apply_and hvs).unique (isLeast_apply_and hws)
    | or => exact (hmem ▸ isGreatest_apply_or hvs).unique (isGreatest_apply_or hws)
    | not => exact (hop rfl).elim

theorem foldr_learnsTo {f : Truth → Truth → Truth} {unit : Truth}
    (hf : ∀ {v v' w w'}, v.LearnsTo v' → w.LearnsTo w' → (f v w).LearnsTo (f v' w'))
    (h : List.Forall₂ Truth.LearnsTo vs ws) : (vs.foldr f unit).LearnsTo (ws.foldr f unit) := by
  induction h with
  | nil => exact .refl unit
  | cons hv _ ih => exact hf hv ih

theorem apply_learnsTo {op : Operator} (h : List.Forall₂ Truth.LearnsTo vs ws) :
    (op.apply vs).LearnsTo (op.apply ws) := by
  cases h with
  | nil => exact .refl _
  | cons hv hvs =>
    cases op with
    | and => exact foldr_learnsTo .and (.cons hv hvs)
    | or => exact foldr_learnsTo .or (.cons hv hvs)
    | not => exact hv.not

end Operator

end Condition

/-! ## Actions that answer -/

section

variable {m : Type → Type} [Monad m] {α β : Type} {x : m α} {a : α} {b : β}

/-- The action answers with the value, whatever else it does. -/
def Answers (x : m α) (a : α) : Prop :=
  (fun _ => a) <$> x = x

variable [LawfulMonad m]

theorem Answers.pure (a : α) : Answers (Pure.pure a : m α) a :=
  map_pure _ a

theorem Answers.bind {f : α → m β} (hx : Answers x a) (hf : Answers (f a) b) : Answers (x >>= f) b := by
  have hbind : x >>= f = x >>= fun _ => f a := by
    calc x >>= f
      _ = ((fun _ => a) <$> x) >>= f := by rw [hx]
      _ = x >>= fun _ => f a := bind_map_left _ _ _
  unfold Answers
  rw [hbind, map_bind, hf]

end

theorem Reasoned.answers_iff {α : Type} {x : Reasoned α} {a : α} : Answers x a ↔ x.value = a := by
  constructor
  · intro h
    rw [← h]
    rfl
  · rintro rfl
    exact id_map x

namespace Condition

/-! ## Values -/

/-- The value of a tree whose leaves have the assigned values. -/
def valueUnder (assign : Leaf → Truth) (c : Condition) : Truth :=
  Id.run (evaluateM (m := Id) (fun l => pure (assign l)) c)

section

variable {m : Type → Type} [Monad m] [LawfulMonad m] {leaf : Leaf → m Truth} {f : Condition → Truth}
  {operands : List Condition}

theorem answers_allM (h : ∀ c ∈ operands, Answers (evaluateM leaf c) (f c)) :
    Answers (allM leaf operands) ((operands.map f).foldr Truth.and .yes) := by
  induction operands with
  | nil => exact .pure _
  | cons c cs ih =>
    obtain ⟨hc, hcs⟩ := List.forall_mem_cons.mp h
    rw [allM, List.map_cons, List.foldr_cons]
    refine hc.bind ?_
    -- After a false operand the rest is skipped, and false is the least value anyway.
    cases f c with
    | no => exact Truth.no_and _ ▸ .pure _
    | unknown | yes => exact (ih hcs).bind (.pure _)

theorem answers_anyM (h : ∀ c ∈ operands, Answers (evaluateM leaf c) (f c)) :
    Answers (anyM leaf operands) ((operands.map f).foldr Truth.or .no) := by
  induction operands with
  | nil => exact .pure _
  | cons c cs ih =>
    obtain ⟨hc, hcs⟩ := List.forall_mem_cons.mp h
    rw [anyM, List.map_cons, List.foldr_cons]
    refine hc.bind ?_
    cases f c with
    | yes => exact Truth.yes_or _ ▸ .pure _
    | no | unknown => exact (ih hcs).bind (.pure _)

/-- The operands that are skipped would not have changed the value. -/
theorem answers_branch {op : Operator} (h : ∀ c ∈ operands, Answers (evaluateM leaf c) (f c)) :
    Answers (evaluateM leaf (.branch op operands)) (op.apply (operands.map f)) := by
  cases operands with
  | nil => cases op <;> exact .pure _
  | cons c cs =>
    cases op with
    | and => exact answers_allM h
    | or => exact answers_anyM h
    | not => exact (h c List.mem_cons_self).bind (.pure _)

end

variable {assign assign' : Leaf → Truth} {c c' : Condition}

@[simp] theorem valueUnder_leaf (l : Leaf) : valueUnder assign (.leaf l) = assign l := rfl

/-- A branch is worth what its operator makes of the values of all its operands. -/
theorem valueUnder_branch (op : Operator) (operands : List Condition) :
    valueUnder assign (.branch op operands) = op.apply (operands.map (valueUnder assign)) :=
  (answers_branch (m := Id) (f := valueUnder assign) fun _ _ => rfl).symm

/-- The value is the same whatever the leaves do besides answering. -/
theorem answers_evaluateM {m : Type → Type} [Monad m] [LawfulMonad m] {leaf : Leaf → m Truth}
    (h : ∀ l, c.HasLeaf l → Answers (leaf l) (assign l)) :
    Answers (evaluateM leaf c) (c.valueUnder assign) := by
  induction c using inductionOn with
  | leaf l => exact h l .leaf
  | branch op operands ih =>
    rw [valueUnder_branch]
    exact answers_branch fun c hc => ih c hc fun l hl => h l (.branch hc hl)

theorem value_evaluateM {leaf : Leaf → Reasoned Truth} :
    (evaluateM leaf c).value = c.valueUnder fun l => (leaf l).value :=
  Reasoned.answers_iff.mp (answers_evaluateM fun _ _ => Reasoned.answers_iff.mpr rfl)

/-- A tree knows no less if its leaves do not. -/
theorem valueUnder_learnsTo (h : ∀ l, c.HasLeaf l → (assign l).LearnsTo (assign' l)) :
    (c.valueUnder assign).LearnsTo (c.valueUnder assign') := by
  induction c using inductionOn with
  | leaf l => exact h l .leaf
  | branch op operands ih =>
    rw [valueUnder_branch, valueUnder_branch]
    refine Operator.apply_learnsTo ?_
    rw [List.forall₂_map_left_iff, List.forall₂_map_right_iff, List.forall₂_same]
    exact fun c hc => ih c hc fun l hl => h l (.branch hc hl)

/-! ## Laws -/

/-- The laws of strong Kleene logic for the values of trees, all operands of a branch taken into account. -/
structure IsKleene (assign : Leaf → Truth) (f : Condition → Truth) : Prop where
  leaf : ∀ l, f (.leaf l) = assign l
  empty : ∀ op, f (.branch op []) = .yes
  and : ∀ operands, operands ≠ [] → IsLeast {v | ∃ c ∈ operands, f c = v} (f (.branch .and operands))
  or : ∀ operands, operands ≠ [] → IsGreatest {v | ∃ c ∈ operands, f c = v} (f (.branch .or operands))
  not : ∀ c ignored, f (.branch .not (c :: ignored)) = (f c).not

theorem isKleene_valueUnder (assign : Leaf → Truth) : IsKleene assign (valueUnder assign) where
  leaf := valueUnder_leaf
  empty op := valueUnder_branch op []
  and operands h := by
    have hmap : operands.map (valueUnder assign) ≠ [] := by simpa using h
    rw [valueUnder_branch]
    simpa only [List.mem_map] using Operator.isLeast_apply_and hmap
  or operands h := by
    have hmap : operands.map (valueUnder assign) ≠ [] := by simpa using h
    rw [valueUnder_branch]
    simpa only [List.mem_map] using Operator.isGreatest_apply_or hmap
  not c ignored := valueUnder_branch .not (c :: ignored)

/-- The laws leave no choice. -/
theorem IsKleene.unique {f g : Condition → Truth} (hf : IsKleene assign f) (hg : IsKleene assign g) :
    f = g := by
  funext c
  induction c using inductionOn with
  | leaf l => rw [hf.leaf, hg.leaf]
  | branch op operands ih =>
    rcases eq_or_ne operands [] with rfl | h
    · rw [hf.empty, hg.empty]
    · have hvalues : {v | ∃ c ∈ operands, f c = v} = {v | ∃ c ∈ operands, g c = v} :=
        Set.ext fun v => exists_congr fun c => and_congr_right fun hc => by rw [ih c hc]
      cases op with
      | and => exact (hvalues ▸ hf.and operands h).unique (hg.and operands h)
      | or => exact (hvalues ▸ hf.or operands h).unique (hg.or operands h)
      | not =>
        cases operands with
        | nil => exact (h rfl).elim
        | cons c ignored => rw [hf.not, hg.not, ih c List.mem_cons_self]

/-- The second tree is the first one with operands of `and` and `or` in another order, at any depth. -/
inductive Reordered : Condition → Condition → Prop where
  | refl (c : Condition) : Reordered c c
  | trans {a b c : Condition} : Reordered a b → Reordered b c → Reordered a c
  | branch {op : Operator} {operands operands' : List Condition} :
      op ≠ .not → operands.Perm operands' → Reordered (.branch op operands) (.branch op operands')
  | operand {op : Operator} {c c' : Condition} (before after : List Condition) :
      Reordered c c' → Reordered (.branch op (before ++ c :: after)) (.branch op (before ++ c' :: after))

theorem Reordered.valueUnder_eq (h : Reordered c c') : c.valueUnder assign = c'.valueUnder assign := by
  induction h with
  | refl c => rfl
  | trans _ _ ih ih' => exact ih.trans ih'
  | branch hop hperm =>
    rw [valueUnder_branch, valueUnder_branch, Operator.apply_perm hop (hperm.map _)]
  | operand before after _ ih =>
    rw [valueUnder_branch, valueUnder_branch, List.map_append, List.map_append, List.map_cons, List.map_cons, ih]

def negation (c : Condition) : Condition :=
  .branch .not [c]

theorem valueUnder_negation : c.negation.valueUnder assign = (c.valueUnder assign).not :=
  valueUnder_branch .not [c]

theorem map_valueUnder_negation (operands : List Condition) :
    (operands.map negation).map (valueUnder assign) = (operands.map (valueUnder assign)).map .not := by
  rw [List.map_map, List.map_map]
  exact List.map_congr_left fun _ _ => valueUnder_negation

theorem valueUnder_not_and {operands : List Condition} (h : operands ≠ []) (ignored : List Condition) :
    valueUnder assign (.branch .not (.branch .and operands :: ignored))
      = valueUnder assign (.branch .or (operands.map negation)) := by
  rw [(isKleene_valueUnder assign).not, valueUnder_branch, valueUnder_branch, map_valueUnder_negation,
    Operator.not_apply_and (by simpa using h)]

theorem valueUnder_not_or {operands : List Condition} (h : operands ≠ []) (ignored : List Condition) :
    valueUnder assign (.branch .not (.branch .or operands :: ignored))
      = valueUnder assign (.branch .and (operands.map negation)) := by
  rw [(isKleene_valueUnder assign).not, valueUnder_branch, valueUnder_branch, map_valueUnder_negation,
    Operator.not_apply_or (by simpa using h)]

/-- **Trees follow strong Kleene logic.** Under any assignment of truth values to leaves the values of trees obey
Kleene's laws, and as these leave no choice, nothing is changed by operands that are skipped. The value is the
same whatever the leaves do besides answering, and in whatever order the operands of `and` and `or` stand; and
`not` can be moved inwards. -/
theorem follows_kleene (assign : Leaf → Truth) :
    IsKleene assign (valueUnder assign) ∧
    (∀ f, IsKleene assign f → f = valueUnder assign) ∧
    (∀ (m : Type → Type) [Monad m] [LawfulMonad m] (leaf : Leaf → m Truth) (c : Condition),
      (∀ l, c.HasLeaf l → Answers (leaf l) (assign l)) →
      Answers (evaluateM leaf c) (c.valueUnder assign)) ∧
    (∀ c c', Reordered c c' → c.valueUnder assign = c'.valueUnder assign) ∧
    ∀ operands ignored, operands ≠ [] →
      valueUnder assign (.branch .not (.branch .and operands :: ignored))
        = valueUnder assign (.branch .or (operands.map negation)) ∧
      valueUnder assign (.branch .not (.branch .or operands :: ignored))
        = valueUnder assign (.branch .and (operands.map negation)) := by
  have hlaws : IsKleene assign (valueUnder assign) := isKleene_valueUnder assign
  refine ⟨hlaws, ?_, ?_, ?_, ?_⟩
  · intro f hf
    exact hf.unique hlaws
  · intro m _ _ leaf c hleaf
    exact answers_evaluateM hleaf
  · intro c c' hreordered
    exact hreordered.valueUnder_eq
  · intro operands ignored h
    exact ⟨valueUnder_not_and h ignored, valueUnder_not_or h ignored⟩

namespace IsKleene.Sample

def answer : Leaf → Truth
  | .audience "t" => .yes
  | .audience "f" => .no
  | _ => .unknown

/-- Answers and leaves a trace. -/
def leaf (l : Leaf) : Reasoned Truth := do
  Reasoned.note (.malformedCondition l.toJson)
  return answer l

def reference (id : String) : Condition :=
  .leaf (.audience id)

def early : Condition :=
  .branch .and [reference "u", reference "f", reference "t"]

def late : Condition :=
  .branch .and [reference "t", reference "u", reference "f"]

theorem reordered : Reordered (.branch .or [early, early.negation]) (.branch .or [late.negation, early]) := by
  have hperm : List.Perm ([reference "u", reference "f"] ++ [reference "t"]) _ := List.perm_append_comm
  have hnegation : Reordered early.negation late.negation := .operand [] [] (.branch nofun hperm)
  exact .trans (.operand [early] [] hnegation) (.branch nofun (.swap ..))

end IsKleene.Sample

open IsKleene in
/-- Of three operands the last one is skipped in the one order and none in the other. -/
theorem follows_kleene_of_three :
    (evaluateM Sample.leaf Sample.early).reasons.length = 2 ∧
      (evaluateM Sample.leaf Sample.late).reasons.length = 3 ∧
      Answers (evaluateM Sample.leaf Sample.early) .no ∧
      valueUnder Sample.answer (.branch .or [Sample.late.negation, Sample.early]) = .yes := by
  obtain ⟨-, -, hanswers, hreordered, -⟩ := follows_kleene Sample.answer
  have hleaf (l : Leaf) : Answers (Sample.leaf l) (Sample.answer l) := Reasoned.answers_iff.mpr rfl
  refine ⟨rfl, rfl, hanswers Reasoned Sample.leaf Sample.early fun l _ => hleaf l, ?_⟩
  rw [← hreordered _ _ Sample.reordered]
  rfl

end Condition

end FlagEngine
