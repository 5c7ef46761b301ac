import FlagEngine.Number.Binary64
import Mathlib.Data.Nat.Log

/-!
# Rounding integers

A magnitude of at most 53 significant bits is rounded to itself, `Significant.roundSignificant_eq`, and what is not
less than it is not rounded to less, `Significant.le_roundSignificant`. So the integers that a binary64 number of
magnitude up to `2 ^ 53` is nearest to are those of that magnitude, which are rounded to themselves, and one more on
either side: `Binary64.comparable?_ofInt`.
-/

namespace FlagEngine

variable {n b c num den : Nat}

theorem roundDiv_of_dvd (hpos : 0 < den) (h : den ∣ num) : roundDiv num den = num / den := by
  simp [roundDiv, Nat.mod_eq_zero_of_dvd h, hpos]

theorem roundDiv_mul_right (hpos : 0 < c) (num den : Nat) : roundDiv (num * c) (den * c) = roundDiv num den := by
  have htwice : 2 * (num * c % (den * c)) = 2 * (num % den) * c := by
    rw [Nat.mul_mod_mul_right, Nat.mul_assoc]
  simp only [roundDiv, htwice, Nat.mul_div_mul_right _ _ hpos, Nat.mul_lt_mul_right hpos]

theorem log2_mul_two_pow (h : n ≠ 0) (k : Nat) : (n * Nat.pow 2 k).log2 = n.log2 + k := by
  rw [Nat.pow_eq, Nat.log2_eq_iff (Nat.mul_ne_zero h (Nat.two_pow_pos k).ne'), Nat.add_right_comm, Nat.pow_add, Nat.pow_add]
  exact ⟨Nat.mul_le_mul_right _ (Nat.log2_self_le h), Nat.mul_lt_mul_of_pos_right Nat.lt_log2_self (Nat.two_pow_pos k)⟩

theorem roundSignificant_one (n : Nat) :
    roundSignificant n 1 = roundDiv n (Nat.pow 2 (spareBits n)) * Nat.pow 2 (spareBits n) := by
  simp [roundSignificant]

theorem Significant.roundSignificant_eq (h : Significant n) : roundSignificant n 1 = n := by
  rw [roundSignificant_one, roundDiv_of_dvd (two_pow_pos _) h, Nat.div_mul_cancel h]

/-- Rounding does not pass a magnitude that can be shown. -/
theorem Significant.le_roundSignificant (hb : Significant b) (h : b ≤ n) : b ≤ roundSignificant n 1 := by
  rw [roundSignificant_one, Nat.pow_eq]
  refine Nat.le_trans ?_ (Nat.mul_le_mul_right _ (le_roundDiv n (2 ^ spareBits n)))
  have hlog : b.log2 ≤ n.log2 := by
    rw [Nat.log2_eq_log_two, Nat.log2_eq_log_two]
    exact Nat.log_mono_right h
  rcases Nat.lt_or_ge (spareBits b) (spareBits n) with hlt | hge
  · -- the power of two below `n` is not less than `b`
    rw [spareBits, spareBits] at hlt
    have hspare : n.log2 = 52 + spareBits n := by rw [spareBits]; omega
    have hpow : 2 ^ 52 * 2 ^ spareBits n ≤ n := by
      rw [← Nat.pow_add, ← hspare]
      exact Nat.log2_self_le (by rintro rfl; simp at hlt)
    have hbelow : b < 2 ^ 52 * 2 ^ spareBits n := by
      rw [← Nat.pow_add, ← hspare]
      exact Nat.lt_of_lt_of_le Nat.lt_log2_self (Nat.pow_le_pow_right (by decide) (by omega))
    refine Nat.le_trans (Nat.le_of_lt hbelow) (Nat.mul_le_mul_right _ ?_)
    exact (Nat.le_div_iff_mul_le (Nat.two_pow_pos _)).mpr hpow
  · have hspare : spareBits b = spareBits n := by
      rw [spareBits, spareBits] at hge ⊢
      omega
    rw [Significant, hspare] at hb
    obtain ⟨k, rfl⟩ := hb
    rw [Nat.pow_eq, Nat.mul_comm] at h ⊢
    exact Nat.mul_le_mul_right _ ((Nat.le_div_iff_mul_le (Nat.two_pow_pos _)).mpr h)

/-- Magnitudes of 53 bits and more are rounded alike at every scale. -/
theorem roundSignificant_mul_two_pow (h : 52 ≤ n.log2) (k : Nat) :
    roundSignificant (n * Nat.pow 2 k) 1 = roundSignificant n 1 * Nat.pow 2 k := by
  have hne : n ≠ 0 := by
    rintro rfl
    simp at h
  have hspare : spareBits (n * Nat.pow 2 k) = spareBits n + k := by
    rw [spareBits, spareBits, log2_mul_two_pow hne]
    omega
  have hpow : Nat.pow 2 (spareBits n + k) = Nat.pow 2 (spareBits n) * Nat.pow 2 k := Nat.pow_add ..
  rw [roundSignificant_one, roundSignificant_one, hspare, hpow, roundDiv_mul_right (two_pow_pos k), Nat.mul_assoc]

namespace Binary64

theorem exists_one_eq_two_pow : ∃ k l, one = Nat.pow 2 k ∧ limit = Nat.pow 2 l * Nat.pow 2 k ∧ 53 < l := by
  -- for any exponents, so that the powers are not computed
  have hone (k m : Nat) (h : k = m) : Nat.pow 2 k = Nat.pow 2 m := by rw [h]
  have hlimit (k l m : Nat) (h : k = l + m) : Nat.pow 2 k = Nat.pow 2 l * Nat.pow 2 m := by
    rw [h]
    exact Nat.pow_add ..
  unfold one limit
  refine ⟨1074, 1024, ?_, ?_, by decide⟩
  · apply hone
    rfl
  · apply hlimit
    rfl

theorem one_pos : 0 < one := by
  unfold one
  apply two_pow_pos

/-- Integers up to `2 ^ 53` are numbers of the format. -/
theorem roundSignificant_mul_one (h : n ≤ 0x20000000000000) : roundSignificant (n * one) 1 = n * one := by
  obtain ⟨k, -, hk, -⟩ := exists_one_eq_two_pow
  rw [hk]
  exact (significant_mul_two_pow h).roundSignificant_eq

/-- The next integer is half way between two numbers, of which the lesser is the even one. -/
theorem roundSignificant_tie : roundSignificant (0x20000000000001 * one) 1 = exactLimit := by
  have htie : roundSignificant 0x20000000000001 1 = 0x20000000000000 := by decide
  obtain ⟨k, -, hk, -⟩ := exists_one_eq_two_pow
  rw [exactLimit, hk, roundSignificant_mul_two_pow (by decide), htie]

/-- All further integers are nearest to numbers past `2 ^ 53`. -/
theorem exactLimit_lt_roundSignificant (h : 0x20000000000001 < n) : exactLimit < roundSignificant (n * one) 1 := by
  have hnext : Significant 0x20000000000002 := by decide
  have hlog : 52 ≤ n.log2 := (Nat.le_log2 (by omega)).mpr (by omega)
  obtain ⟨k, -, hk, -⟩ := exists_one_eq_two_pow
  rw [exactLimit, hk, roundSignificant_mul_two_pow hlog]
  have hle := hnext.le_roundSignificant h
  exact Nat.mul_lt_mul_of_pos_right (Nat.lt_of_succ_lt hle) (two_pow_pos k)

theorem exactLimit_lt_limit : exactLimit < limit := by
  obtain ⟨k, l, hone, hlimit, hl⟩ := exists_one_eq_two_pow
  rw [exactLimit, hone, hlimit]
  have hpow : Nat.pow 2 53 < Nat.pow 2 l := Nat.pow_lt_pow_right (by decide) hl
  exact Nat.mul_lt_mul_of_pos_right hpow (two_pow_pos k)

theorem comparable?_ofRatio (negative : Bool) (num : Nat) :
    (ofRatio negative num 1).comparable? =
      if roundSignificant num 1 ≤ exactLimit then
        some (if negative then -(roundSignificant num 1 : Int) else roundSignificant num 1)
      else none := by
  unfold ofRatio Finite.ofRatio?
  by_cases hlimit : roundSignificant num 1 < limit
  · simp only [hlimit, dite_true]
    rfl
  · have hlarge : ¬ roundSignificant num 1 ≤ exactLimit := fun h => hlimit (Nat.lt_of_le_of_lt h exactLimit_lt_limit)
    simp only [hlimit, hlarge, dite_false, if_false]
    rfl

theorem signed_eq_sign_mul {n : Int} {k : Nat} (h : n = 0 → k = 0) :
    (if decide (n < 0) = true then -(k : Int) else k) = n.sign * k := by
  rcases Int.lt_trichotomy n 0 with hneg | rfl | hpos
  · simp [hneg, Int.sign_eq_neg_one_of_neg hneg]
  · simp [h rfl]
  · simp [Int.sign_eq_one_of_pos hpos, Int.lt_asymm hpos]

/-- The number nearest to an integer can be compared if the integer is of magnitude at most `2 ^ 53`, and is equal to
it then. The next integer on either side is taken for `2 ^ 53` or its negative. -/
theorem comparable?_ofInt (n : Int) :
    (ofInt n).comparable? =
      if n.natAbs ≤ 0x20000000000000 then some (n * one)
      else if n.natAbs = 0x20000000000001 then some (n.sign * 0x20000000000000 * one)
      else none := by
  rw [ofInt, comparable?_ofRatio]
  by_cases hsmall : n.natAbs ≤ 0x20000000000000
  · have hle : n.natAbs * one ≤ exactLimit := Nat.mul_le_mul_right one hsmall
    rw [roundSignificant_mul_one hsmall, if_pos hle, if_pos hsmall, signed_eq_sign_mul (by rintro rfl; simp),
      Int.natCast_mul, ← Int.mul_assoc, Int.sign_mul_natAbs]
  rw [if_neg hsmall]
  by_cases htie : n.natAbs = 0x20000000000001
  · have hne : n ≠ 0 := by
      rintro rfl
      simp at htie
    rw [htie, roundSignificant_tie, if_pos (Nat.le_refl _), if_pos rfl, signed_eq_sign_mul (absurd · hne), exactLimit,
      Int.natCast_mul, ← Int.mul_assoc]
    rfl
  · rw [if_neg htie, if_neg (Nat.not_le_of_lt (exactLimit_lt_roundSignificant (by omega)))]

end Binary64

end FlagEngine
