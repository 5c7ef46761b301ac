import FlagEngine.Number.Decimal
import FlagEngine.Proofs.Rounding
import Mathlib.Algebra.Order.Field.Rat
import Mathlib.Tactic.FieldSimp
import Mathlib.Tactic.Ring

/-!
# Shortest decimals

A magnitude is nearest to its shortest decimal, `Decimal.rounds_shortest`, whether one of the decimals with few digits
was found to read back or the exact one was taken. As rounding depends on the value alone, `Rounds.unique`, decimals of
the same value belong to the same magnitude.
-/

namespace FlagEngine

variable {num den num' den' units units' fuel : Nat} {v : ℚ} {d : Decimal}

/-! ## Rounding -/

theorem roundDiv_eq_or (num den : Nat) : roundDiv num den = num / den ∨ roundDiv num den = num / den + 1 := by
  have hle := roundDiv_le_succ num den
  have hge := le_roundDiv num den
  omega

theorem roundDiv_congr (hden : 0 < den) (hden' : 0 < den') (h : num * den' = num' * den) :
    roundDiv num den = roundDiv num' den' := by
  rw [← roundDiv_mul_right hden' num den, h, Nat.mul_comm den den', roundDiv_mul_right hden]

/-- Equal quotients are rounded alike. -/
theorem roundSignificant_congr (hden : 0 < den) (hden' : 0 < den') (h : num * den' = num' * den) :
    roundSignificant num den = roundSignificant num' den' := by
  have hquotient : num / den = num' / den' := by
    rw [← Nat.mul_div_mul_right num den hden', h, Nat.mul_comm den den', Nat.mul_div_mul_right num' den' hden]
  simp only [roundSignificant, hquotient]
  congr 1
  apply roundDiv_congr
  · exact Nat.mul_pos hden (two_pow_pos _)
  · exact Nat.mul_pos hden' (two_pow_pos _)
  · rw [← Nat.mul_assoc, ← Nat.mul_assoc, h]

/-- The magnitude of `units` is the one nearest to a value. -/
def Rounds (v : ℚ) (units : Nat) : Prop :=
  ∃ num den : Nat, 0 < den ∧ v = num / den ∧ roundSignificant (num * Binary64.one) den = units

theorem Rounds.unique (h : Rounds v units) (h' : Rounds v units') : units = units' := by
  obtain ⟨num, den, hden, rfl, hround⟩ := h
  obtain ⟨num', den', hden', hvalue, hround'⟩ := h'
  have hcross : num * den' = num' * den := by
    rw [div_eq_div_iff (Nat.cast_ne_zero.mpr hden.ne') (Nat.cast_ne_zero.mpr hden'.ne')] at hvalue
    exact_mod_cast hvalue
  rw [← hround, ← hround']
  apply roundSignificant_congr hden hden'
  rw [Nat.mul_right_comm, hcross, Nat.mul_right_comm]

/-- A magnitude of the format is nearest to itself. -/
theorem rounds_of_significant (h : Significant units) (hden : 0 < den) (heq : num * Binary64.one = units * den) :
    Rounds (num / den) units := by
  refine ⟨num, den, hden, rfl, ?_⟩
  calc roundSignificant (num * Binary64.one) den
      = roundSignificant units 1 := roundSignificant_congr hden Nat.one_pos (by rw [Nat.mul_one, heq])
    _ = units := h.roundSignificant_eq

/-! ## Values of decimals -/

namespace Decimal

/-- The number that a decimal stands for. -/
def value (d : Decimal) : ℚ :=
  d.digits * 10 ^ d.exponent

theorem value_eq_div (d : Decimal) :
    d.value = (d.digits * Nat.pow 10 d.exponent.toNat : Nat) / (Nat.pow 10 (-d.exponent).toNat : Nat) := by
  obtain ⟨digits, exponent⟩ := d
  cases exponent with
  | ofNat n => simp [value]
  | negSucc n =>
    have hwhole : (Int.negSucc n).toNat = 0 := rfl
    simp [value, hwhole, zpow_negSucc, div_eq_mul_inv]

theorem value_of_places {exponent : Int} {n : Nat} (digits : Nat) (h : exponent = -n) :
    (⟨digits, exponent⟩ : Decimal).value = digits / (Nat.pow 10 n : Nat) := by
  simp [value, h, zpow_neg, div_eq_mul_inv]

theorem value_eq_zero_iff : d.value = 0 ↔ d.digits = 0 := by
  simp [value, zpow_ne_zero]

theorem value_strip (fuel : Nat) (d : Decimal) : (strip fuel d).value = d.value := by
  induction fuel generalizing d with
  | zero => rfl
  | succ fuel ih =>
    rw [strip]
    split
    · next hzero =>
      obtain ⟨k, hk⟩ := Nat.dvd_of_mod_eq_zero hzero
      rw [ih]
      simp only [value, hk, Nat.mul_div_cancel_left k (by decide : 0 < 10)]
      rw [zpow_add_one₀ (by norm_num)]
      push_cast
      ring
    · rfl

/-- The shortcuts for small and large exponents are taken only to where the range ends. -/
theorem toUnits_of_ne_zero (hne : d.toUnits ≠ 0) (hlt : d.toUnits < Binary64.limit) :
    d.toUnits = roundSignificant (d.digits * Nat.pow 10 d.exponent.toNat * Binary64.one)
      (Nat.pow 10 (-d.exponent).toNat) := by
  unfold toUnits at hne hlt ⊢
  by_cases hdigits : d.digits = 0
  · rw [if_pos hdigits] at hne
    exact (hne rfl).elim
  rw [if_neg hdigits] at hne hlt ⊢
  by_cases hlarge : 400 < d.exponent
  · rw [if_pos hlarge] at hlt
    exact (Nat.lt_irrefl _ hlt).elim
  rw [if_neg hlarge] at hne ⊢
  by_cases hsmall : 3 * d.exponent + d.digits.log2 + 1076 ≤ 0
  · rw [if_pos hsmall] at hne
    exact (hne rfl).elim
  rw [if_neg hsmall]

theorem rounds_of_toUnits_eq (h : d.toUnits = units) (hne : units ≠ 0) (hlt : units < Binary64.limit) :
    Rounds d.value units := by
  have hround := toUnits_of_ne_zero (h.trans_ne hne) (h.trans_lt hlt)
  rw [h] at hround
  refine ⟨_, _, ?_, value_eq_div d, hround.symm⟩
  exact Nat.pow_pos (by decide)

theorem readsBack_iff : readsBack units d = true ↔ d.toUnits = units :=
  beq_iff_eq

theorem readsBack_of_neighbour? {dropped : Nat} (h : neighbour? units dropped = some d) : readsBack units d = true := by
  unfold neighbour? at h
  dsimp only at h
  split at h
  · next hbelow habove =>
    obtain rfl := Option.some.inj h
    rcases roundDiv_eq_or (exactDigits units) (Nat.pow 10 dropped) with heq | heq
    · rw [heq]
      exact hbelow
    · rw [heq]
      exact habove
  · next hbelow _ =>
    obtain rfl := Option.some.inj h
    exact hbelow
  · next _ habove =>
    obtain rfl := Option.some.inj h
    exact habove
  · cases h

private theorem pow_five_mul_pow_two (units n : Nat) :
    Nat.pow 5 n * units * Nat.pow 2 n = units * Nat.pow 10 n := by
  rw [Nat.mul_comm (Nat.pow 5 n), Nat.mul_assoc]
  exact congrArg (units * ·) (Nat.mul_pow 5 2 n).symm

/-- The exact digits for any number of places equal to 1074, so that the powers are not computed. -/
theorem exactDigits_mul_one {n : Nat} (h : n = 1074) (units : Nat) :
    exactDigits units * Binary64.one = units * Nat.pow 10 n := by
  unfold exactDigits Binary64.one
  rw [← h]
  exact pow_five_mul_pow_two units n

/-- A magnitude is the one nearest to its shortest decimal. -/
theorem rounds_shortest (h : Significant units) (hlt : units < Binary64.limit) :
    Rounds (shortest units).value units := by
  unfold shortest
  split
  · next hzero =>
    subst hzero
    have hvalue : (⟨0, 0⟩ : Decimal).value = (0 : Nat) / (1 : Nat) := by simp [value]
    rw [hvalue]
    exact rounds_of_significant h Nat.one_pos (by simp)
  · next hne =>
    dsimp only
    split
    · next d hd =>
      obtain ⟨n, -, hn⟩ := List.exists_of_findSome?_eq_some hd
      rw [value_strip]
      exact rounds_of_toUnits_eq (readsBack_iff.mp (readsBack_of_neighbour? hn)) hne hlt
    · obtain ⟨n, hn⟩ : ∃ n, n = 1074 := ⟨1074, rfl⟩
      have hplaces : (-1074 : Int) = -(n : Int) := by omega
      rw [value_of_places _ hplaces]
      exact rounds_of_significant h (Nat.pow_pos (by decide)) (exactDigits_mul_one hn units)

/-- Only zero has a shortest decimal without a digit other than zero, and it has no exponent. -/
theorem exponent_shortest (h : Significant units) (hlt : units < Binary64.limit) (hzero : (shortest units).digits = 0) :
    (shortest units).exponent = 0 := by
  have hround := rounds_shortest h hlt
  rw [value_eq_zero_iff.mpr hzero] at hround
  have hnone : Rounds 0 0 := by
    have hsame : Rounds ((0 : Nat) / (1 : Nat)) 0 := rounds_of_significant significant_zero Nat.one_pos (by simp)
    simpa using hsame
  obtain rfl := hround.unique hnone
  rfl

end Decimal

end FlagEngine
