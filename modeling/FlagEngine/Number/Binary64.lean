import FlagEngine.Number.Rounding

/-!
# Binary64 numbers

A finite number is a sign and a natural number of units of `2 ^ -1074`, the least positive number of
the format. Every finite number is a whole count of them, so comparing, adding and scaling numbers is
arithmetic on naturals with one rounding at the end.
-/

namespace FlagEngine

namespace Binary64

/-- The number one in units. -/
def one : Nat := Nat.pow 2 1074

/-- The least count of units that is too large for the format. -/
def limit : Nat := Nat.pow 2 2098

theorem limit_pos : 0 < limit := by
  unfold limit
  apply two_pow_pos

/-- A finite number of the format. Zero has both signs. -/
structure Finite where
  negative : Bool
  units : Nat
  significant : Significant units
  lt_limit : units < limit
deriving DecidableEq

namespace Finite

def zero : Finite := ⟨false, 0, significant_zero, limit_pos⟩

instance : Inhabited Finite := ⟨zero⟩

/-- The signed count of units. The two zeros have the same. -/
def toInt (x : Finite) : Int :=
  if x.negative then -(x.units : Int) else x.units

def neg (x : Finite) : Finite := { x with negative := !x.negative }

/-- The number nearest to `num / den` units, or `none` if that is past the largest one. -/
def ofRatio? (negative : Bool) (num den : Nat) : Option Finite :=
  if h : roundSignificant num den < limit then
    some ⟨negative, roundSignificant num den, significant_roundSignificant num den, h⟩
  else none

end Finite

end Binary64

/-- A binary64 number. There is one not-a-number. -/
inductive Binary64 where
  | finite (x : Binary64.Finite)
  | infinite (negative : Bool)
  | nan
deriving DecidableEq

namespace Binary64

instance : Inhabited Binary64 := ⟨.nan⟩

/-- The number nearest to `num / den` units, an infinity past the largest one. -/
def ofRatio (negative : Bool) (num den : Nat) : Binary64 :=
  match Finite.ofRatio? negative num den with
  | some x => .finite x
  | none => .infinite negative

/-- The number nearest to an integer. -/
def ofInt (n : Int) : Binary64 :=
  ofRatio (decide (n < 0)) (n.natAbs * one) 1

/-- Largest magnitude up to which every integer is a number of the format, in units. -/
def exactLimit : Nat := 0x20000000000000 * one

/-- The signed count of units of a finite number of magnitude at most `2 ^ 53`. -/
def comparable? : Binary64 → Option Int
  | .finite x => if x.units ≤ exactLimit then some x.toInt else none
  | _ => none

/-- Equality of numbers: the two zeros are equal and not-a-number equals nothing. -/
def eqv : Binary64 → Binary64 → Bool
  | .finite x, .finite y => x.toInt == y.toInt
  | .infinite a, .infinite b => a == b
  | _, _ => false

end Binary64

end FlagEngine
