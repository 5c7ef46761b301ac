import FlagEngine.Condition.Test
import FlagEngine.Proofs.Versions.Comparison

/-!
# Versions compared with themselves

A version is equal to itself as long as its numbers fit 64 bits. One with a number that does not fit is less than
itself, `Version.compareTexts?_self`, and a test that asks for the very version of the user goes by that.
-/

namespace FlagEngine

/-! ## Tests of versions -/

namespace Condition

/-- The name of the matching that compares versions. -/
def Relation.versionName : Relation → String
  | .eq => "semver_eq"
  | .gt => "semver_gt"
  | .ge => "semver_ge"
  | .lt => "semver_lt"
  | .le => "semver_le"

/-- The test asks how a version relates to the target. -/
structure Test.AsksVersion (t : Test) (name : String) (r : Relation) (target : String) : Prop where
  kind : t.kind = some "custom_attribute"
  name : t.name = some name
  matching : t.matching = some r.versionName
  value : t.value = some (.string target)

theorem Test.AsksVersion.evaluate_eq {t : Test} {name : String} {r : Relation} {target version : String}
    {attributes : Attributes} {o : Ordering} (h : t.AsksVersion name r target)
    (hversion : attributes[name]? = some (.string version)) (ho : Version.compareTexts? version target = some o) :
    t.evaluate attributes = .ok (r.holds o) := by
  have hmatching : t.matching? = some (.version r) := by
    rw [Test.matching?, h.matching]
    cases r <;> rfl
  have hexpected : t.expected? = some (.string target) := by
    rw [Test.expected?, h.value]
    rfl
  simp [Test.evaluate, h.kind, hmatching, h.name, hversion, hexpected, Test.compare, ho]

end Condition

/-! ## One version twice -/

namespace Version

/-- Every part that is a numeral fits 64 bits, be it in the core or the suffix. -/
def Fits (v : Version) : Prop :=
  ∀ part ∈ v.parts, isNumeral part = true → Literal.ofDigits part < numberLimit

variable {s : String} {v : Version}

instance : Decidable v.Fits :=
  inferInstanceAs (Decidable (∀ part ∈ v.parts, isNumeral part = true → Literal.ofDigits part < numberLimit))

theorem compareParts_self (preRelease : Bool) (parts : List (List Char)) :
    compareParts preRelease preRelease parts parts
      = if ∀ part ∈ parts, isNumeral part = true → Literal.ofDigits part < numberLimit then .eq else .lt := by
  induction parts with
  | nil => cases preRelease <;> rfl
  | cons part parts ih =>
    by_cases hpart : isNumeral part = true
    · have hnumber := number?_of_isNumeral hpart
      by_cases hfits : Literal.ofDigits part < numberLimit
      · rw [if_pos hfits] at hnumber
        rw [compareParts_of_some hpart hnumber hnumber, Nat.compare_eq_eq.mpr rfl, Ordering.eq_then, ih]
        simp only [List.forall_mem_cons, hfits, implies_true, true_and]
      · -- all parts before this one are equal, so that it decides
        rw [if_neg hfits] at hnumber
        rw [compareParts_of_none hpart (.inl hnumber), if_neg]
        exact fun h => hfits (h part (.head _) hpart)
    · have hsame : compare part part = .eq := Std.ReflCmp.compare_self
      rw [compareParts, if_neg hpart, hsame]
      simp only [ih, List.forall_mem_cons, hpart, false_implies, true_and, Bool.false_eq_true]

theorem compareTexts?_self (h : ofChars? s.toList = some v) :
    compareTexts? s s = some (if v.Fits then .eq else .lt) := by
  rw [compareTexts?_of_some h h, compareTo, compareParts_self]
  rfl

/-- **A version is equal to itself exactly if it fits**, and otherwise it is less than itself. If the version of a user
is the very text of a test, then those relations hold that allow for this order. -/
theorem equal_to_itself_iff_fits {s : String} {v : Version} (h : ofChars? s.toList = some v) :
    (compareTexts? s s = some .eq ↔ v.Fits) ∧ (compareTexts? s s = some .lt ↔ ¬ v.Fits) ∧
    ∀ (t : Condition.Test) (name : String) (r : Condition.Relation) (attributes : Attributes),
      t.AsksVersion name r s → attributes[name]? = some (.string s) →
      t.evaluate attributes = .ok ((if v.Fits then [.eq, .ge, .le] else [.lt, .le]).contains r) := by
  have hself := compareTexts?_self h
  refine ⟨?_, ?_, fun t name r attributes ht hversion => ?_⟩
  · rw [hself]
    by_cases hfits : v.Fits <;> simp [hfits]
  · rw [hself]
    by_cases hfits : v.Fits <;> simp [hfits]
  · rw [ht.evaluate_eq hversion hself]
    by_cases hfits : v.Fits
    · rw [if_pos hfits, if_pos hfits]
      cases r <;> rfl
    · rw [if_neg hfits, if_neg hfits]
      cases r <;> rfl

namespace Sample

def test (r : Condition.Relation) (target : String) : Condition.Test where
  name := some "v"
  kind := some "custom_attribute"
  matching := some r.versionName
  value := some (.string target)

def attributes (version : String) : Attributes :=
  (∅ : Attributes).insert "v" (.string version)

theorem asksVersion_test (r : Condition.Relation) (target : String) : (test r target).AsksVersion "v" r target :=
  ⟨rfl, rfl, rfl, rfl⟩

theorem getElem?_attributes (version : String) : (attributes version)["v"]? = some (.string version) := by
  simp [attributes]

end Sample

/-- The largest number that fits, in a pre-release. -/
theorem equal_to_itself_iff_fits_of_largest :
    ∃ v, ofChars? "18446744073709551615.0-rc.1".toList = some v ∧
      compareTexts? "18446744073709551615.0-rc.1" "18446744073709551615.0-rc.1" = some .eq ∧
      (Sample.test .eq "18446744073709551615.0-rc.1").evaluate (Sample.attributes "18446744073709551615.0-rc.1")
        = .ok true := by
  obtain ⟨v, hv, hfits⟩ : ∃ v, ofChars? "18446744073709551615.0-rc.1".toList = some v ∧ v.Fits :=
    ⟨_, rfl, by decide⟩
  obtain ⟨hequal, -, htest⟩ := equal_to_itself_iff_fits hv
  refine ⟨v, hv, hequal.mpr hfits, ?_⟩
  rw [htest _ "v" .eq _ (Sample.asksVersion_test ..) (Sample.getElem?_attributes _), if_pos hfits]
  rfl

/-- The first number that does not fit is a version, which is less than itself. -/
theorem less_than_itself :
    (∃ v, ofChars? "18446744073709551616".toList = some v) ∧
      compareTexts? "18446744073709551616" "18446744073709551616" = some .lt ∧
      (Sample.test .eq "18446744073709551616").evaluate (Sample.attributes "18446744073709551616") = .ok false := by
  obtain ⟨v, hv, hlarge⟩ : ∃ v, ofChars? "18446744073709551616".toList = some v ∧ ¬ v.Fits :=
    ⟨_, rfl, by decide⟩
  have hless : compareTexts? "18446744073709551616" "18446744073709551616" = some .lt := by
    rw [compareTexts?_self hv, if_neg hlarge]
  refine ⟨⟨v, hv⟩, hless, ?_⟩
  rw [(Sample.asksVersion_test .eq _).evaluate_eq (Sample.getElem?_attributes _) hless]
  rfl

end Version

end FlagEngine
