/-!
# Rounding

A quotient rounded to the nearest integer, and to the nearest magnitude with 53 significant bits.
In both a half goes to the even neighbour.
-/

namespace FlagEngine

/-- The quotient `num / den` rounded to the nearest integer, a half going to the even neighbour. -/
def roundDiv (num den : Nat) : Nat :=
  let quotient := num / den
  let twice := 2 * (num % den)
  if twice < den then quotient
  else if den < twice then quotient + 1
  else if quotient % 2 = 0 then quotient
  else quotient + 1

theorem roundDiv_le_succ (num den : Nat) : roundDiv num den ≤ num / den + 1 := by
  simp only [roundDiv]
  split
  · omega
  · split
    · omega
    · split <;> omega

theorem le_roundDiv (num den : Nat) : num / den ≤ roundDiv num den := by
  simp only [roundDiv]
  split
  · omega
  · split
    · omega
    · split <;> omega

/-- The number of low bits that a magnitude of 53 significant bits cannot show. -/
def spareBits (n : Nat) : Nat :=
  n.log2 - 52

/-- The quotient `num / den` rounded to 53 significant bits, a half going to the even neighbour. -/
def roundSignificant (num den : Nat) : Nat :=
  let spare := spareBits (num / den)
  roundDiv num (den * Nat.pow 2 spare) * Nat.pow 2 spare

/-- A natural number with at most 53 significant bits. -/
def Significant (n : Nat) : Prop :=
  Nat.pow 2 (spareBits n) ∣ n

instance (n : Nat) : Decidable (Significant n) :=
  inferInstanceAs (Decidable (Nat.pow 2 (spareBits n) ∣ n))

theorem significant_zero : Significant 0 := by
  simp [Significant]

theorem two_pow_pos (k : Nat) : 0 < Nat.pow 2 k :=
  Nat.two_pow_pos k

theorem significant_mul_two_pow {m s : Nat} (hm : m ≤ 0x20000000000000) :
    Significant (m * Nat.pow 2 s) := by
  rw [Nat.pow_eq]
  rcases Nat.eq_zero_or_pos m with rfl | hpos
  · simpa using significant_zero
  rcases Nat.lt_or_eq_of_le hm with hlt | rfl
  · have hne : m * 2 ^ s ≠ 0 := Nat.mul_ne_zero (by omega) (by simp)
    have hlog : (m * 2 ^ s).log2 < 53 + s := by
      rw [Nat.log2_lt hne, Nat.pow_add]
      exact Nat.mul_lt_mul_of_pos_right hlt (Nat.two_pow_pos s)
    refine Nat.dvd_trans (Nat.pow_dvd_pow 2 ?_) (Nat.dvd_mul_left _ _)
    simp only [spareBits]; omega
  · rw [show 0x20000000000000 = 2 ^ 53 from rfl, ← Nat.pow_add, Significant]
    refine Nat.pow_dvd_pow 2 ?_
    simp only [spareBits, Nat.log2_two_pow]; omega

theorem significant_roundSignificant (num den : Nat) : Significant (roundSignificant num den) := by
  simp only [roundSignificant]
  refine significant_mul_two_pow (Nat.le_trans (roundDiv_le_succ ..) ?_)
  rw [← Nat.div_div_eq_div_mul]
  have hq : num / den < 2 ^ (spareBits (num / den) + 53) := by
    refine Nat.lt_of_lt_of_le Nat.lt_log2_self (Nat.pow_le_pow_right (by omega) ?_)
    simp only [spareBits]; omega
  have : num / den / 2 ^ spareBits (num / den) < 2 ^ 53 := by
    rw [Nat.div_lt_iff_lt_mul (Nat.two_pow_pos _), ← Nat.pow_add, Nat.add_comm]
    exact hq
  rw [Nat.pow_eq]
  omega

end FlagEngine
