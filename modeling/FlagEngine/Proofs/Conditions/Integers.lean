import FlagEngine.Proofs.Conditions.Operators
import FlagEngine.Proofs.Json.Written
import FlagEngine.Proofs.Rounding
import Mathlib.Data.List.TakeWhile

/-!
# Tests against integers

An integer of 64 bits in a JSON text is taken for the nearest binary64 number, and tests compare with that as long as
it is of magnitude at most `2 ^ 53`. So integers up to there are compared exactly, and those beyond are refused, save
the very next one on either side, which is taken for `2 ^ 53` or its negative. This is
`Condition.Test.compares_or_refuses_integers`.
-/

namespace FlagEngine

/-! ## Literals -/

namespace Json

/-- Digits without a leading zero, unless there is just a zero. -/
structure IsWhole (ds : List Char) : Prop where
  ne_nil : ds ≠ []
  isDigit : ∀ c ∈ ds, c.isDigit = true
  length_eq_one : ds.head? = some '0' → ds.length = 1

/-- The text is a literal of the integer. Zero may have a sign. -/
inductive SpellsInteger : List Char → Int → Prop where
  | plain {ds} (h : IsWhole ds) : SpellsInteger ds (Literal.ofDigits ds)
  | signed {ds} (h : IsWhole ds) : SpellsInteger ('-' :: ds) (-(Literal.ofDigits ds : Int))

variable {ds cs : List Char} {n : Int} {s : String}

theorem unsignedNumeral_of_isWhole (negative : Bool) (h : IsWhole ds) :
    Document.unsignedNumeral negative ds = some (⟨negative, ds.map (·.toNat - 48), [], none⟩, []) := by
  have hdigits : Document.digits ds = (ds.map (·.toNat - 48), []) := by
    unfold Document.digits
    rw [List.takeWhile_eq_self_iff.mpr h.isDigit, List.dropWhile_eq_nil_iff.mpr h.isDigit]
  have hguard : ds.map (·.toNat - 48) ≠ [] ∧
      ((ds.map (·.toNat - 48)).head? = some 0 → (ds.map (·.toNat - 48)).length = 1) := by
    refine ⟨by simpa using h.ne_nil, fun hzero => ?_⟩
    rw [List.length_map]
    refine h.length_eq_one ?_
    obtain ⟨d, rest, rfl⟩ := List.exists_cons_of_ne_nil h.ne_nil
    have hlower := (Literal.toNat_of_isDigit (h.isDigit d (.head _))).1
    have hcode : d.toNat - 48 = 0 := by simpa using hzero
    have hd : d = '0' := Char.toNat_inj.mp (Nat.le_antisymm (Nat.sub_eq_zero_iff_le.mp hcode) hlower)
    rw [hd]
    rfl
  unfold Document.unsignedNumeral
  rw [hdigits]
  dsimp only
  rw [(Option.guard_eq_some' ()).mpr hguard]
  rfl

theorem toNumber?_of_isWhole (negative : Bool) (hlt : Literal.ofDigits ds < 0x10000000000000000) :
    (⟨negative, ds.map (·.toNat - 48), [], none⟩ : Numeral).toNumber? =
      if negative = false then some (.int (Literal.ofDigits ds))
      else if Literal.ofDigits ds ≠ 0 ∧ Literal.ofDigits ds ≤ 0x8000000000000000 then
        some (.int (-(Literal.ofDigits ds : Int)))
      else (Binary64.Finite.ofRatio? true (Numeral.scale (Literal.ofDigits ds) 0) 1).map .float := by
  have haccumulate : Numeral.accumulate 0 (ds.map (·.toNat - 48)) = (Literal.ofDigits ds, []) := by
    have hfold : (ds.map (·.toNat - 48)).foldl (fun n d => n * 10 + d) 0 = Literal.ofDigits ds := by
      rw [List.foldl_map]
      rfl
    rw [Numeral.accumulate_of_lt (by rwa [hfold]), hfold]
  unfold Numeral.toNumber?
  rw [haccumulate]
  cases negative <;> simp [Numeral.accumulate]

theorem ofText?_of_numeral {m : Numeral} {k : Number} (hm : Document.numeral s.toList = some (m, []))
    (hk : m.toNumber? = some k) : ofText? s = some (.number k) := by
  have hvalue : Document.value (2 * s.toList.length + 2) s.toList = some (.number m, []) := Document.value_number hm
  have hdocument : Document.ofText? s = some (.number m) := by
    unfold Document.ofText?
    dsimp only
    rw [hvalue]
    rfl
  rw [ofText?, hdocument]
  exact congrArg (Option.map Json.number) hk

/-- What is read for zero with a sign is equal to zero. -/
theorem exists_ofRatio?_zero :
    ∃ x, Binary64.Finite.ofRatio? true 0 1 = some x ∧ (Binary64.finite x).comparable? = some 0 := by
  have hround : roundSignificant 0 1 = 0 := significant_zero.roundSignificant_eq
  unfold Binary64.Finite.ofRatio?
  simp [hround, Binary64.limit_pos, Binary64.comparable?, Binary64.Finite.toInt]

/-- An integer that fits 64 bits is read as itself. The exception is zero with a sign, which is no integer but equal
to one. -/
theorem exists_ofText?_of_spellsInteger (h : SpellsInteger s.toList n) (hlower : -0x8000000000000000 ≤ n)
    (hupper : n < 0x10000000000000000) :
    ∃ k, ofText? s = some (.number k) ∧ k.toBinary64.comparable? = (Binary64.ofInt n).comparable? := by
  generalize hcs : s.toList = cs at h
  cases h with
  | plain h =>
    have hread := toNumber?_of_isWhole false (Int.ofNat_lt.mp hupper)
    obtain ⟨d, rest, rfl⟩ := List.exists_cons_of_ne_nil h.ne_nil
    have hd : d ≠ '-' := by
      have hdigit := h.isDigit d (.head _)
      rintro rfl
      cases hdigit
    have hnumeral : Document.numeral s.toList = some (⟨false, (d :: rest).map (·.toNat - 48), [], none⟩, []) := by
      rw [hcs]
      unfold Document.numeral
      split
      · next hcons => exact absurd (List.cons.inj hcons).1 hd
      · exact unsignedNumeral_of_isWhole false h
    exact ⟨_, ofText?_of_numeral hnumeral hread, rfl⟩
  | @signed ds h =>
    have hread : (⟨true, ds.map (·.toNat - 48), [], none⟩ : Numeral).toNumber? = _ :=
      toNumber?_of_isWhole true (by omega)
    have hnumeral : Document.numeral s.toList = some (⟨true, ds.map (·.toNat - 48), [], none⟩, []) := by
      rw [hcs]
      exact unsignedNumeral_of_isWhole true h
    rw [if_neg (by decide)] at hread
    by_cases hzero : Literal.ofDigits ds = 0
    · obtain ⟨x, hx, hcomparable⟩ := exists_ofRatio?_zero
      have hscale : Numeral.scale 0 0 = 0 := by
        simp [Numeral.scale, Magnitude.ofNat, roundSignificant, roundDiv]
      rw [hzero, if_neg (by simp), hscale, hx] at hread
      refine ⟨_, ofText?_of_numeral hnumeral hread, ?_⟩
      have hinteger : (Binary64.ofInt 0).comparable? = some 0 := by
        rw [Binary64.comparable?_ofInt, if_pos (by decide), Int.zero_mul]
      rw [hzero, Int.natCast_zero, Int.neg_zero, hinteger]
      exact hcomparable
    · rw [if_pos ⟨hzero, by omega⟩] at hread
      exact ⟨_, ofText?_of_numeral hnumeral hread, rfl⟩

end Json

namespace Condition

/-! ## Comparisons -/

/-- What the relation says of two integers. -/
def Relation.relates : Relation → Int → Int → Bool
  | .eq, m, n => m = n
  | .gt, m, n => n < m
  | .ge, m, n => n ≤ m
  | .lt, m, n => m < n
  | .le, m, n => m ≤ n

variable {r : Relation} {m n : Int}

theorem Relation.holds_compare (r : Relation) (m n : Int) : r.holds (Ord.compare m n) = r.relates m n := by
  rw [Bool.eq_iff_iff]
  cases r <;> simp [holds, relates, Std.compare_eq_lt, Std.compare_eq_gt]

theorem Relation.relates_mul_right {k : Int} (hk : 0 < k) : r.relates (m * k) (n * k) = r.relates m n := by
  cases r <;> simp [relates, Int.mul_lt_mul_right hk, Int.mul_le_mul_right hk, Int.mul_eq_mul_right_iff hk.ne']

namespace Test

variable {t : Test} {k l : Json.Number} {attributes : Attributes} {name : String}

/-- All that matters of the number is what it is compared as. -/
theorem evaluate_against_congr (h : k.toBinary64.comparable? = l.toBinary64.comparable?) (t : Test) (r : Relation)
    (attributes : Attributes) :
    ((t.against k).matchedBy r.numberName).evaluate attributes
      = ((t.against l).matchedBy r.numberName).evaluate attributes := by
  rw [evaluate_against, evaluate_against]
  rcases comparands_against t attributes with ⟨f, hf⟩ | ⟨name, actual, hc⟩
  · rw [hf, hf]
  · rw [hc, hc]
    dsimp only [Except.bind]
    rw [compare_numberMatching, compare_numberMatching, h]

/-- A number that cannot be compared is refused, if nothing is wrong before. -/
theorem evaluate_against_of_none (h : k.toBinary64.comparable? = none) (t : Test) (r : Relation)
    (attributes : Attributes) : ∃ f, ((t.against k).matchedBy r.numberName).evaluate attributes = .error f := by
  rw [evaluate_against]
  rcases comparands_against t attributes with ⟨f, hf⟩ | ⟨name, actual, hc⟩
  · exact ⟨f, by rw [hf]; rfl⟩
  · refine ⟨.unsupportedValue, ?_⟩
    rw [hc]
    dsimp only [Except.bind]
    rw [compare_numberMatching, h]

theorem evaluate_against_of_some {x : Binary64} {a b : Int} (hkind : t.kind = some "custom_attribute")
    (hname : t.name = some name) (hactual : attributes[name]? = some (.number x))
    (ha : k.toBinary64.comparable? = some a) (hb : x.comparable? = some b) (r : Relation) :
    ((t.against k).matchedBy r.numberName).evaluate attributes = .ok (r.relates b a) := by
  have hc : (t.against k).comparands attributes = .ok ⟨name, .number k.toBinary64, .number x⟩ := by
    have hkind' : (t.against k).kind = some "custom_attribute" := hkind
    have hname' : (t.against k).name = some name := hname
    have hexpected : (t.against k).expected? = some (.number k.toBinary64) := rfl
    rw [comparands, if_neg (not_not_intro hkind'), hname']
    dsimp only
    rw [hactual, hexpected]
  rw [evaluate_against, hc]
  dsimp only [Except.bind]
  rw [compare_numberMatching, ha]
  dsimp only
  rw [hb]
  dsimp only
  rw [Relation.holds_compare]

/-- **Integers are compared exactly or refused**, but for the two next to `2 ^ 53` and its negative. Let a test of
numbers have the literal of an integer of 64 bits as its value. If the integer is of magnitude more than `2 ^ 53 + 1`,
the test has no outcome for any user. At `2 ^ 53 + 1` its outcomes are those for `2 ^ 53` with the same sign. Up to
`2 ^ 53` it compares attributes that are integers in the same range with it. -/
theorem compares_or_refuses_integers {s : String} {n : Int} (hs : Json.SpellsInteger s.toList n)
    (hlower : -0x8000000000000000 ≤ n) (hupper : n < 0x10000000000000000) :
    ∃ k, Json.ofText? s = some (.number k) ∧ ∀ (t : Test) (r : Relation) (attributes : Attributes),
      (0x20000000000001 < n.natAbs →
        ∃ f, ((t.against k).matchedBy r.numberName).evaluate attributes = .error f) ∧
      (n.natAbs = 0x20000000000001 →
        ((t.against k).matchedBy r.numberName).evaluate attributes
          = ((t.against (.int (n.sign * 0x20000000000000))).matchedBy r.numberName).evaluate attributes) ∧
      (n.natAbs ≤ 0x20000000000000 → t.kind = some "custom_attribute" →
        ∀ (name : String) (m : Int), t.name = some name → m.natAbs ≤ 0x20000000000000 →
          attributes[name]? = some (.number (.ofInt m)) →
          ((t.against k).matchedBy r.numberName).evaluate attributes = .ok (r.relates m n)) := by
  obtain ⟨k, hread, hk⟩ := Json.exists_ofText?_of_spellsInteger hs hlower hupper
  refine ⟨k, hread, fun t r attributes => ⟨fun hlarge => ?_, fun htie => ?_, fun hn hkind name m hname hm hactual => ?_⟩⟩
  · refine evaluate_against_of_none ?_ t r attributes
    rw [hk, Binary64.comparable?_ofInt, if_neg (by omega), if_neg (by omega)]
  · refine evaluate_against_congr ?_ t r attributes
    have hsign : (n.sign * 0x20000000000000).natAbs ≤ 0x20000000000000 := by
      rw [Int.natAbs_mul, Int.natAbs_sign_of_ne_zero (by rintro rfl; simp at htie)]
      decide
    rw [hk, Binary64.comparable?_ofInt, if_neg (by omega), if_pos htie, Json.Number.toBinary64,
      Binary64.comparable?_ofInt, if_pos hsign]
  · rw [Binary64.comparable?_ofInt, if_pos hn] at hk
    have hm' : (Binary64.ofInt m).comparable? = some (m * Binary64.one) := by
      rw [Binary64.comparable?_ofInt, if_pos hm]
    rw [evaluate_against_of_some hkind hname hactual hk hm',
      Relation.relates_mul_right (Int.natCast_pos.mpr Binary64.one_pos)]

namespace Sample

def ofInteger : Test where
  name := some "n"
  kind := some "custom_attribute"
  matching := none
  value := none

def integer (m : Int) : Attributes :=
  (∅ : Attributes).insert "n" (.number (.ofInt m))

theorem getElem?_integer (m : Int) : (integer m)["n"]? = some (.number (.ofInt m)) := by
  simp [integer]

end Sample

/-- The last integer that is compared, and the second one after it. -/
theorem compares_or_refuses_integers_of_last :
    (∃ k, Json.ofText? "-9007199254740992" = some (.number k) ∧
      ((Sample.ofInteger.against k).matchedBy "gt").evaluate (Sample.integer (-9007199254740991)) = .ok true) ∧
    ∃ k, Json.ofText? "9007199254740994" = some (.number k) ∧
      ∃ f, ((Sample.ofInteger.against k).matchedBy "exact").evaluate (Sample.integer 9007199254740994) = .error f := by
  have hlast : Json.SpellsInteger "-9007199254740992".toList (-9007199254740992) :=
    .signed ⟨by decide, List.all_eq_true.mp (by decide), by decide⟩
  have hbeyond : Json.SpellsInteger "9007199254740994".toList 9007199254740994 :=
    .plain ⟨by decide, List.all_eq_true.mp (by decide), by decide⟩
  obtain ⟨k, hread, hk⟩ := compares_or_refuses_integers hlast (by decide) (by decide)
  obtain ⟨k', hread', hk'⟩ := compares_or_refuses_integers hbeyond (by decide) (by decide)
  obtain ⟨-, -, hcompares⟩ := hk Sample.ofInteger .gt (Sample.integer (-9007199254740991))
  obtain ⟨hrefuses, -, -⟩ := hk' Sample.ofInteger .eq (Sample.integer 9007199254740994)
  exact ⟨⟨k, hread, hcompares (by decide) rfl "n" _ rfl (by decide) (Sample.getElem?_integer _)⟩, k', hread',
    hrefuses (by decide)⟩

/-- The integer in between is not refused but taken for the one before it. -/
theorem equal_to_next_integer :
    Json.ofText? "9007199254740993" = some (.number (.int 9007199254740993)) ∧
      ((Sample.ofInteger.against (.int 9007199254740993)).matchedBy "exact").evaluate
        (Sample.integer 9007199254740992) = .ok true := by
  have hexpected : (Json.Number.int 9007199254740993).toBinary64.comparable?
      = some ((9007199254740992 : Int) * Binary64.one) := by
    rw [Json.Number.toBinary64, Binary64.comparable?_ofInt, if_neg (by decide), if_pos (by decide),
      Int.sign_eq_one_of_pos (by decide), Int.one_mul]
  have hactual : (Binary64.ofInt 9007199254740992).comparable? = some ((9007199254740992 : Int) * Binary64.one) := by
    rw [Binary64.comparable?_ofInt, if_pos (by decide)]
  have hevaluate := evaluate_against_of_some (t := Sample.ofInteger) rfl rfl (Sample.getElem?_integer _) hexpected
    hactual .eq
  rw [Relation.relates, decide_eq_true rfl] at hevaluate
  have hnumber : (Json.Number.int 9007199254740993).ReadsBack := Json.Number.readsBack_int ⟨by decide, by decide⟩
  exact ⟨Json.ofText?_of_numeral hnumber.1 hnumber.2, hevaluate⟩

end Test

end Condition

end FlagEngine
