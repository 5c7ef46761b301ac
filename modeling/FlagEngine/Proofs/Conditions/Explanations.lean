import FlagEngine.Proofs.Conditions.Expansion

/-!
# Explained conditions

The value of a tree comes from the leaves that are visited, `Condition.visited`, and the reasons of a tree are
those of its visited leaves, `Condition.reasons_evaluateM`. A rule visits leaves of its own and leaves of the
audiences that it refers to. `Rule.explains_unknowns` says that among these the unknown ones, and no others, give
a reason each, so that a rule whose value is unknown tells why.
-/

namespace FlagEngine

theorem Reasoned.reasons_map {α β : Type} (f : α → β) (x : Reasoned α) : (f <$> x).reasons = x.reasons :=
  List.append_nil _

namespace Condition

/-! ## Visited leaves -/

mutual

/-- The leaves that are looked at if leaves have the assigned values, in this order: those of `and` up to its
first false operand, those of `or` up to its first true one, and those of the one operand of `not`. -/
def visited (assign : Leaf → Truth) : Condition → List Leaf
  | .leaf l => [l]
  | .branch .and operands => visitedUpTo assign .no operands
  | .branch .or operands => visitedUpTo assign .yes operands
  | .branch .not [] => []
  | .branch .not (c :: _) => visited assign c

/-- The visited leaves of operands up to the first one with the given value. -/
def visitedUpTo (assign : Leaf → Truth) (last : Truth) : List Condition → List Leaf
  | [] => []
  | c :: cs => visited assign c ++ if c.valueUnder assign = last then [] else visitedUpTo assign last cs

end

section

variable {leaf : Leaf → Reasoned Truth} {operands : List Condition}

theorem reasons_allM
    (h : ∀ c ∈ operands, (evaluateM leaf c).reasons
      = (c.visited fun l => (leaf l).value).flatMap fun l => (leaf l).reasons) :
    (allM leaf operands).reasons
      = (visitedUpTo (fun l => (leaf l).value) .no operands).flatMap fun l => (leaf l).reasons := by
  induction operands with
  | nil => rfl
  | cons c cs ih =>
    obtain ⟨hc, hcs⟩ := List.forall_mem_cons.mp h
    rw [allM, Reasoned.reasons_bind, visitedUpTo, List.flatMap_append, hc, value_evaluateM]
    refine congrArg _ ?_
    cases c.valueUnder fun l => (leaf l).value with
    | no => rfl
    | unknown | yes => simp [Reasoned.reasons_map, ih hcs]

theorem reasons_anyM
    (h : ∀ c ∈ operands, (evaluateM leaf c).reasons
      = (c.visited fun l => (leaf l).value).flatMap fun l => (leaf l).reasons) :
    (anyM leaf operands).reasons
      = (visitedUpTo (fun l => (leaf l).value) .yes operands).flatMap fun l => (leaf l).reasons := by
  induction operands with
  | nil => rfl
  | cons c cs ih =>
    obtain ⟨hc, hcs⟩ := List.forall_mem_cons.mp h
    rw [anyM, Reasoned.reasons_bind, visitedUpTo, List.flatMap_append, hc, value_evaluateM]
    refine congrArg _ ?_
    cases c.valueUnder fun l => (leaf l).value with
    | yes => rfl
    | no | unknown => simp [Reasoned.reasons_map, ih hcs]

/-- A tree gives the reasons of the leaves that it visits. -/
theorem reasons_evaluateM (leaf : Leaf → Reasoned Truth) (c : Condition) :
    (evaluateM leaf c).reasons
      = (c.visited fun l => (leaf l).value).flatMap fun l => (leaf l).reasons := by
  induction c using inductionOn with
  | leaf l => simp [evaluateM, visited]
  | branch op operands ih =>
    cases op with
    | and => exact reasons_allM ih
    | or =>
      cases operands with
      | nil => rfl
      | cons c cs => exact reasons_anyM ih
    | not =>
      cases operands with
      | nil => rfl
      | cons c cs =>
        rw [evaluateM, bind_pure_comp, Reasoned.reasons_map, visited, ih c List.mem_cons_self]

end

/-! ## Unknown leaves -/

variable {assign : Leaf → Truth} {c : Condition} {operands : List Condition}

/-- The operands have a value other than the last one, and it comes from one that is visited. -/
theorem exists_visitedUpTo {last : Truth} {f : Truth → Truth → Truth} {unit : Truth}
    (hunit : unit ≠ .unknown) (hlast : ∀ v, f last v = last) (hne : last ≠ .unknown)
    (hf : ∀ v w, f v w = .unknown → v = .unknown ∨ w = .unknown)
    (ih : ∀ c ∈ operands, c.valueUnder assign = .unknown → ∃ l ∈ c.visited assign, assign l = .unknown)
    (h : (operands.map (valueUnder assign)).foldr f unit = .unknown) :
    ∃ l ∈ visitedUpTo assign last operands, assign l = .unknown := by
  induction operands with
  | nil => exact (hunit h).elim
  | cons c cs ih' =>
    obtain ⟨hc, hcs⟩ := List.forall_mem_cons.mp ih
    rw [List.map_cons, List.foldr_cons] at h
    rw [visitedUpTo]
    have hgoes : c.valueUnder assign ≠ last := by
      intro hv
      rw [hv, hlast] at h
      exact hne h
    rw [if_neg hgoes]
    rcases hf _ _ h with hv | hrest
    · obtain ⟨l, hl, hunknown⟩ := hc hv
      exact ⟨l, List.mem_append_left _ hl, hunknown⟩
    · obtain ⟨l, hl, hunknown⟩ := ih' hcs hrest
      exact ⟨l, List.mem_append_right _ hl, hunknown⟩

/-- What is unknown about a tree is so for a leaf that it visits. -/
theorem exists_visited (h : c.valueUnder assign = .unknown) : ∃ l ∈ c.visited assign, assign l = .unknown := by
  induction c using inductionOn with
  | leaf l => exact ⟨l, List.mem_cons_self, h⟩
  | branch op operands ih =>
    rw [valueUnder_branch] at h
    cases operands with
    | nil => cases op <;> cases h
    | cons c cs =>
      cases op with
      | and =>
        refine exists_visitedUpTo (show Truth.yes ≠ .unknown from nofun) Truth.no_and nofun (fun v w => ?_) ih h
        cases v <;> cases w <;> simp [Truth.and]
      | or =>
        refine exists_visitedUpTo (show Truth.no ≠ .unknown from nofun) Truth.yes_or nofun (fun v w => ?_) ih h
        cases v <;> cases w <;> simp [Truth.or]
      | not =>
        have hc : c.valueUnder assign = .unknown := by
          have hnot : (c.valueUnder assign).not.not = Truth.unknown.not := congrArg Truth.not h
          rwa [Truth.not_not] at hnot
        exact ih c List.mem_cons_self hc

end Condition

/-! ## Rules -/

open Condition (Leaf)

/-- A leaf that is visited for a rule. -/
structure Visit where
  /-- The audience that the leaf is in, unless it is one of the rule's own. -/
  audienceId : Option String
  leaf : Leaf

namespace Visit

/-- Nothing is known at the leaf: a test without an outcome, a reference that leads nowhere, or a malformed
leaf. -/
def IsUnknown (attributes : Attributes) (v : Visit) : Prop :=
  v.leaf.evaluate attributes = .unknown

instance (attributes : Attributes) (v : Visit) : Decidable (v.IsUnknown attributes) :=
  inferInstanceAs (Decidable (_ = _))

/-- The reason for a leaf at which nothing is known. -/
inductive Explains (attributes : Attributes) : Visit → Reason → Prop where
  | test (audienceId : Option String) {t : Condition.Test} {fault : Condition.Test.Fault} :
      t.evaluate attributes = .error fault → Explains attributes ⟨audienceId, .test t⟩ (.testFault t fault)
  | unknownAudience (id : String) : Explains attributes ⟨none, .audience id⟩ (.unknownAudience id)
  | nestedAudience (id nested : String) :
      Explains attributes ⟨some id, .audience nested⟩ (.nestedAudience id nested)
  | malformed (audienceId : Option String) (json : Json) :
      Explains attributes ⟨audienceId, .malformed json⟩ (.malformedCondition json)

/-- The reasons go with the unknown ones among the visits, one with each and in the same order. -/
def Explained (attributes : Attributes) (visits : List Visit) (reasons : List Reason) : Prop :=
  List.Forall₂ (Explains attributes) (visits.filter (·.IsUnknown attributes)) reasons

variable {attributes : Attributes} {audienceId : Option String} {v : Visit} {x : Reason}

theorem Explains.isError (h : v.Explains attributes x) : x.isError = false := by
  cases h <;> rfl

theorem explained_of_unknown (hv : v.IsUnknown attributes) (h : v.Explains attributes x) :
    Explained attributes [v] [x] := by
  unfold Explained
  rw [List.filter_cons_of_pos (by simpa using hv)]
  exact .cons h .nil

theorem explained_test (t : Condition.Test) :
    Explained attributes [⟨audienceId, .test t⟩] (t.truth attributes).reasons := by
  unfold Condition.Test.truth
  cases h : t.evaluate attributes with
  | ok b =>
    have hknown : ¬ IsUnknown attributes ⟨audienceId, .test t⟩ := by
      cases b <;> simp [IsUnknown, Leaf.evaluate, h, Truth.ofBool]
    unfold Explained
    rw [List.filter_cons_of_neg (by simpa using hknown)]
    exact .nil
  | error fault =>
    have hunknown : IsUnknown attributes ⟨audienceId, .test t⟩ := by
      simp [IsUnknown, Leaf.evaluate, h]
    exact explained_of_unknown hunknown (.test audienceId h)

theorem explained_truthWithin (id : String) (l : Leaf) :
    Explained attributes [⟨some id, l⟩] (l.truthWithin attributes id).reasons := by
  cases l with
  | test t => exact explained_test t
  | audience nested => exact explained_of_unknown rfl (.nestedAudience id nested)
  | malformed json => exact explained_of_unknown rfl (.malformed _ json)

private theorem exists_related {α β : Type} {R : α → β → Prop} {as : List α} {bs : List β} {b : β}
    (h : List.Forall₂ R as bs) (hb : b ∈ bs) : ∃ a ∈ as, R a b := by
  induction h with
  | nil => cases hb
  | @cons a _ _ _ hab _ ih =>
    rcases List.mem_cons.mp hb with rfl | hb
    · exact ⟨a, List.mem_cons_self, hab⟩
    · obtain ⟨a', ha', hr⟩ := ih hb
      exact ⟨a', List.mem_cons_of_mem a ha', hr⟩

theorem Explained.isError {visits : List Visit} {reasons : List Reason}
    (h : Explained attributes visits reasons) (hx : x ∈ reasons) : x.isError = false := by
  obtain ⟨v, -, hv⟩ := exists_related h hx
  exact hv.isError

/-- Nothing is passed over. -/
theorem Explained.exists_reason {visits : List Visit} {reasons : List Reason}
    (h : Explained attributes visits reasons) (hv : v ∈ visits) (hunknown : v.IsUnknown attributes) :
    ∃ x ∈ reasons, v.Explains attributes x := by
  have hmem : v ∈ visits.filter (·.IsUnknown attributes) := List.mem_filter.mpr ⟨hv, decide_eq_true hunknown⟩
  have hflip : List.Forall₂ (flip (Explains attributes)) reasons (visits.filter (·.IsUnknown attributes)) :=
    List.Forall₂.flip h
  exact exists_related hflip hmem

theorem Explained.flatMap {α : Type} {visits : α → List Visit} {reasons : α → List Reason}
    (h : ∀ a, Explained attributes (visits a) (reasons a)) (as : List α) :
    Explained attributes (as.flatMap visits) (as.flatMap reasons) := by
  unfold Explained
  rw [List.filter_flatMap]
  induction as with
  | nil => exact .nil
  | cons a as ih => exact List.rel_append (h a) ih

end Visit

/-- What is visited in place of a leaf of a rule: for a reference to an audience, leaves of its conditions. -/
def Condition.Leaf.visits (p : Project) (attributes : Attributes) : Leaf → List Visit
  | .audience id =>
    match p.audience? id with
    | some a => (a.conditions.visited (Leaf.evaluate attributes)).map (⟨some id, ·⟩)
    | none => [⟨none, .audience id⟩]
  | l => [⟨none, l⟩]

/-- The leaves that are visited to evaluate the conditions of a rule. -/
def Rule.visits (p : Project) (r : Rule) (attributes : Attributes) : List Visit :=
  (r.targeting.visited fun l => (l.resolve p).evaluate attributes).flatMap (Leaf.visits p attributes)

section

variable {p : Project} {r : Rule} {attributes : Attributes}

/-- The reasons of an audience are those of the leaves that are visited in it. -/
theorem Condition.Leaf.explained_truth (l : Leaf) :
    Visit.Explained attributes (l.visits p attributes) (l.truth p attributes).reasons := by
  cases l with
  | test t => exact Visit.explained_test t
  | audience id =>
    simp only [visits, truth]
    cases p.audience? id with
    | none => exact Visit.explained_of_unknown rfl (.unknownAudience id)
    | some a =>
      have hassign : (fun l : Leaf => (l.truthWithin attributes id).value) = Leaf.evaluate attributes :=
        funext fun l => value_truthWithin id l
      dsimp only
      rw [reasons_evaluateM, hassign, List.map_eq_flatMap]
      exact Visit.Explained.flatMap (fun l => Visit.explained_truthWithin id l) _
  | malformed json => exact Visit.explained_of_unknown rfl (.malformed none json)

theorem Rule.explained_targeting (p : Project) (r : Rule) (attributes : Attributes) :
    Visit.Explained attributes (r.visits p attributes)
      (r.targeting.evaluateM (Leaf.truth p attributes)).reasons := by
  have hassign : (fun l : Leaf => (l.truth p attributes).value) = fun l => (l.resolve p).evaluate attributes :=
    funext fun l => l.value_truth
  rw [Condition.reasons_evaluateM, hassign]
  exact Visit.Explained.flatMap (fun l => l.explained_truth) _

/-- A leaf whose value is unknown comes down to a visit at which nothing is known. -/
theorem Condition.Leaf.exists_isUnknown {l : Leaf} (h : (l.resolve p).evaluate attributes = .unknown) :
    ∃ v ∈ l.visits p attributes, v.IsUnknown attributes := by
  cases l with
  | test t => exact ⟨_, List.mem_cons_self, h⟩
  | audience id =>
    simp only [visits, resolve] at h ⊢
    cases ha : p.audience? id with
    | none => exact ⟨_, List.mem_cons_self, rfl⟩
    | some a =>
      rw [ha] at h
      obtain ⟨l, hl, hunknown⟩ := exists_visited h
      exact ⟨⟨some id, l⟩, List.mem_map_of_mem hl, hunknown⟩
  | malformed json => exact ⟨_, List.mem_cons_self, rfl⟩

theorem Rule.exists_isUnknown (h : (r.expanded p).evaluate attributes = .unknown) :
    ∃ v ∈ r.visits p attributes, v.IsUnknown attributes := by
  rw [expanded, Condition.evaluate_eq_valueUnder, Condition.valueUnder_substitute] at h
  obtain ⟨l, hl, hunknown⟩ := Condition.exists_visited h
  obtain ⟨v, hv, hopen⟩ := Leaf.exists_isUnknown hunknown
  exact ⟨v, List.mem_flatMap.mpr ⟨l, hl, hv⟩, hopen⟩

end

/-- **No silent unknown.** A tree looks at the leaves that it visits, each in its turn, and at no others. To find
out whether a rule matches adds to the reasons so far: one for each visited leaf at which nothing is known, be it
the rule's own or in an audience that the rule refers to, none for the other leaves and none for the references,
and at last the value of the rule. None of them is an error. If the value is unknown, one of them explains it. -/
theorem Rule.explains_unknowns {α : Type} (before : Reasoned α) (p : Project) (r : Rule) (name : String)
    (attributes : Attributes) :
    let value := (r.expanded p).evaluate attributes
    (∀ (leaf : Leaf → Reasoned Truth) (c : Condition),
      (c.evaluateM leaf).reasons = (c.visited fun l => (leaf l).value).flatMap fun l => (leaf l).reasons) ∧
    (r.admits p name attributes).value = (value == .yes) ∧
    ∃ explanations,
      (before >>= fun _ => r.admits p name attributes).reasons
        = before.reasons ++ (explanations ++ [.audiences name value]) ∧
      Visit.Explained attributes (r.visits p attributes) explanations ∧
      (∀ x ∈ explanations ++ [.audiences name value], x.isError = false) ∧
      (value = .unknown →
        ∃ v ∈ r.visits p attributes, ∃ x ∈ explanations, v.IsUnknown attributes ∧ v.Explains attributes x) := by
  intro value
  have hvalue : (r.targeting.evaluateM (Leaf.truth p attributes)).value = value := value_targeting p r attributes
  have hexplained := r.explained_targeting p attributes
  refine ⟨Condition.reasons_evaluateM, congrArg (· == Truth.yes) hvalue, _, ?_, hexplained, ?_, ?_⟩
  · rw [Reasoned.reasons_bind, admits, Reasoned.reasons_bind, hvalue]
    rfl
  · intro x hx
    rcases List.mem_append.mp hx with hx | hx
    · exact hexplained.isError hx
    · rw [List.mem_singleton.mp hx]
      rfl
  · intro hunknown
    obtain ⟨v, hv, hopen⟩ := exists_isUnknown hunknown
    obtain ⟨x, hx, hxv⟩ := hexplained.exists_reason hv hopen
    exact ⟨v, hv, x, hx, hopen, hxv⟩

open Rule.Expansion in
/-- Of a user nothing is known, and the rule visits four audiences, one of which does not exist. -/
theorem Rule.explains_unknowns_of_stranger :
    (Sample.rule.visits Sample.project ∅).length = 5 ∧
      ∃ v ∈ Sample.rule.visits Sample.project ∅,
        ∃ x ∈ (Sample.rule.admits Sample.project "rule" ∅).reasons, v.Explains ∅ x := by
  have hunknown : (Sample.rule.expanded Sample.project).evaluate ∅ = .unknown := by decide +kernel
  obtain ⟨-, -, explanations, hreasons, -, -, hexplains⟩ :=
    explains_unknowns (pure ()) Sample.project Sample.rule "rule" ∅
  obtain ⟨v, hv, x, hx, -, hvx⟩ := hexplains hunknown
  have hmem : x ∈ (Sample.rule.admits Sample.project "rule" ∅).reasons := by
    change (Sample.rule.admits Sample.project "rule" ∅).reasons = explanations ++ _ at hreasons
    rw [hreasons]
    exact List.mem_append_left _ hx
  exact ⟨by decide +kernel, v, hv, x, hmem, hvx⟩

end FlagEngine
