import FlagEngine.Proofs.Versions.Reflexivity

/-!
# Tests that differ in their relation

A test finds what it has to compare without a look at its matching, `Condition.Test.evaluate_matchedBy`, and the
comparison looks at the relation last. So tests of one attribute against one value that ask for different relations
all fail for the same reason, or they tell the same order: `Condition.Test.relations_coherent`. This is so for
versions, and also for numbers, where equality is asked for by the matching that compares values of any kind exactly.
-/

namespace FlagEngine.Condition

/-- The name of the matching that compares numbers. Equality has the one for values of any kind. -/
def Relation.numberName : Relation → String
  | .eq => "exact"
  | .gt => "gt"
  | .ge => "ge"
  | .lt => "lt"
  | .le => "le"

/-- The matching that compares numbers. -/
def Relation.numberMatching : Relation → Matching
  | .eq => .exact
  | .gt => .number .gt
  | .ge => .number .ge
  | .lt => .number .lt
  | .le => .number .le

namespace Test

/-- The test with another matching. -/
def matchedBy (t : Test) (word : String) : Test := { t with matching := some word }

/-- The test with a number as its value. -/
def against (t : Test) (n : Json.Number) : Test := { t with value := some (.number n) }

/-- What a test compares: an attribute of the user, and its own value. -/
structure Comparands where
  name : String
  expected : Attribute
  actual : Attribute

/-- What there is to compare, or why there is nothing. -/
def comparands (t : Test) (attributes : Attributes) : Except Fault Comparands :=
  if t.kind ≠ some "custom_attribute" then .error .unknownKind
  else
    match t.name with
    | none => .error .unnamed
    | some name =>
      match attributes[name]?, t.expected? with
      | none, _ => .error (.missing name)
      | some _, none => .error .unsupportedValue
      | some .null, some _ => .error (.null name)
      | some actual, some expected => .ok ⟨name, expected, actual⟩

/-- Outcomes for the five relations that fit together: a common fault, or the truth of each relation, where the value
of the attribute is one of equal to, greater than and less than the value of the test. -/
inductive Coherent (outcome : Relation → Except Fault Bool) : Prop where
  | fails (f : Fault) (h : ∀ r, outcome r = .error f)
  | ordered (eq gt lt : Bool) (honce : [eq, gt, lt].count true = 1) (heq : outcome .eq = .ok eq)
      (hgt : outcome .gt = .ok gt) (hlt : outcome .lt = .ok lt) (hge : outcome .ge = .ok !lt)
      (hle : outcome .le = .ok !gt)

variable {t : Test} {attributes : Attributes} {name word : String} {matching : Matching} {k : Json.Number}
  {outcome : Relation → Except Fault Bool} {o : Ordering} {r : Relation} {x : Binary64} {c : Comparands}

theorem coherent_of_order (h : ∀ r, outcome r = .ok (r.holds o)) : Coherent outcome :=
  .ordered (o == .eq) (o == .gt) (o == .lt) (by cases o <;> rfl) (h .eq) (h .gt) (h .lt) (h .ge) (h .le)

theorem ofName?_versionName (r : Relation) : Matching.ofName? r.versionName = some (.version r) := by
  cases r <;> rfl

theorem ofName?_numberName (r : Relation) : Matching.ofName? r.numberName = some r.numberMatching := by
  cases r <;> rfl

theorem numberMatching_ne_exists (r : Relation) : r.numberMatching ≠ .exists := by
  cases r <;> decide

/-! ## Up to the comparison -/

theorem evaluate_matchedBy (t : Test) (attributes : Attributes) (hword : Matching.ofName? word = some matching)
    (hexists : matching ≠ .exists) :
    (t.matchedBy word).evaluate attributes =
      (t.comparands attributes).bind fun c => compare c.name matching c.expected c.actual := by
  have hmatching : (t.matchedBy word).matching? = some matching := hword
  have hname : (t.matchedBy word).name = t.name := rfl
  have hkind : (t.matchedBy word).kind = t.kind := rfl
  have hexpected : (t.matchedBy word).expected? = t.expected? := rfl
  rw [evaluate, comparands, hmatching, hname, hkind, hexpected]
  split
  · rfl
  · cases t.name with
    | none => rfl
    | some name =>
      cases matching with
      | «exists» => exact absurd rfl hexists
      | exact | substring | number | version =>
        dsimp only
        cases attributes[name]? with
        | none => rfl
        | some actual => cases t.expected? <;> cases actual <;> rfl

/-- Against whatever number, the attribute is the same, and so is what is wrong with it. -/
theorem comparands_against (t : Test) (attributes : Attributes) :
    (∃ f, ∀ k, (t.against k).comparands attributes = .error f) ∨
      ∃ name actual, ∀ k, (t.against k).comparands attributes = .ok ⟨name, .number k.toBinary64, actual⟩ := by
  have hname (k : Json.Number) : (t.against k).name = t.name := rfl
  have hkind (k : Json.Number) : (t.against k).kind = t.kind := rfl
  have hexpected (k : Json.Number) : (t.against k).expected? = some (.number k.toBinary64) := rfl
  simp only [comparands, hname, hkind, hexpected]
  split
  · exact .inl ⟨_, fun _ => rfl⟩
  · cases t.name with
    | none => exact .inl ⟨_, fun _ => rfl⟩
    | some name =>
      dsimp only
      cases attributes[name]? with
      | none => exact .inl ⟨_, fun _ => rfl⟩
      | some actual =>
        cases actual with
        | null => exact .inl ⟨_, fun _ => rfl⟩
        | string | number | boolean => exact .inr ⟨name, _, fun _ => rfl⟩

theorem evaluate_against (k : Json.Number) (t : Test) (r : Relation) (attributes : Attributes) :
    ((t.against k).matchedBy r.numberName).evaluate attributes =
      ((t.against k).comparands attributes).bind fun c => compare c.name r.numberMatching c.expected c.actual :=
  evaluate_matchedBy _ attributes (ofName?_numberName r) (numberMatching_ne_exists r)

/-! ## The comparison -/

theorem coherent_compare_version (name : String) (expected actual : Attribute) :
    Coherent fun r => compare name (.version r) expected actual := by
  cases expected with
  | string target =>
    cases actual with
    | string version =>
      cases horder : Version.compareTexts? version target with
      | none => exact .fails (.notVersion name) fun r => by rw [compare, horder]
      | some o => exact coherent_of_order fun r => by rw [compare, horder]
    | number | boolean | null => exact .fails (.wrongKind name _) fun _ => rfl
  | number | boolean | null => exact .fails .unsupportedValue fun _ => rfl

/-- Numbers are compared as counts of units, if both are small enough. -/
theorem compare_numberMatching (name : String) (r : Relation) (x : Binary64) (actual : Attribute) :
    compare name r.numberMatching (.number x) actual =
      match x.comparable?, actual with
      | none, _ => .error .unsupportedValue
      | some a, .number y =>
        match y.comparable? with
        | some b => .ok (r.holds (Ord.compare b a))
        | none => .error (.outOfRange name)
      | some _, _ => .error (.wrongKind name actual.kind) := by
  -- equality is tested as such and not by way of the order
  have hequal (a b : Int) : (a == b) = Relation.eq.holds (Ord.compare b a) := by
    rw [Relation.holds, Bool.eq_iff_iff, beq_iff_eq, beq_iff_eq, Std.compare_eq_iff_eq, eq_comm]
  cases actual with
  | number y =>
    cases r <;> cases hx : x.comparable? <;> cases hy : y.comparable? <;>
      simp only [Relation.numberMatching, compare, Attribute.number?, Option.bind_some, hequal, hx, hy]
  | string | boolean | null =>
    cases r <;> cases hx : x.comparable? <;>
      simp only [Relation.numberMatching, compare, Attribute.number?, Option.bind_some, hx]

theorem coherent_compare_number (name : String) (x : Binary64) (actual : Attribute) :
    Coherent fun r => compare name r.numberMatching (.number x) actual := by
  simp only [compare_numberMatching]
  cases x.comparable? with
  | none => exact .fails .unsupportedValue fun _ => rfl
  | some a =>
    cases actual with
    | number y =>
      cases hy : y.comparable? with
      | none => exact .fails (.outOfRange name) fun _ => by simp only [hy]
      | some b => exact coherent_of_order (o := Ord.compare b a) fun _ => by simp only [hy]
    | string | boolean | null => exact .fails (.wrongKind name _) fun _ => rfl

/-- **The relations of one comparison are coherent.** The five tests of versions, for whatever attribute and value,
fail for one reason, or exactly one of equal, greater and less holds, greater or equal is the negation of less, and
less or equal the negation of greater. So do the five tests of numbers, for whatever attribute and number. -/
theorem relations_coherent (t : Test) (attributes : Attributes) :
    Coherent (fun r => (t.matchedBy r.versionName).evaluate attributes) ∧
      ∀ k : Json.Number, Coherent fun r => ((t.against k).matchedBy r.numberName).evaluate attributes := by
  constructor
  · have hversion (r : Relation) := evaluate_matchedBy t attributes (ofName?_versionName r) nofun
    simp only [hversion]
    cases t.comparands attributes with
    | error f => exact .fails f fun _ => rfl
    | ok c => exact coherent_compare_version c.name c.expected c.actual
  · intro k
    simp only [evaluate_against]
    rcases comparands_against t attributes with ⟨f, hf⟩ | ⟨name, actual, hc⟩
    · rw [hf k]
      exact .fails f fun _ => rfl
    · rw [hc k]
      exact coherent_compare_number name k.toBinary64 actual

end Test

end FlagEngine.Condition
