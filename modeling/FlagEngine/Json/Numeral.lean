import FlagEngine.Json.Basic
import FlagEngine.Number.Magnitude

/-!
# Numerals

A numeral as it is spelt, and the number that it stands for. Up to 64 bits of leading digits make the
significand; a fraction or an exponent scales it by a power of ten, every step rounded to nearest.
Digits past the significand count for their place alone.
-/

namespace FlagEngine.Json

/-- The parts of a numeral. Digits are numbers below ten, most significant first. -/
structure Numeral where
  negative : Bool
  whole : List Nat
  fraction : List Nat
  /-- Sign and digits of the exponent. -/
  exponent : Option (Bool × List Nat)
deriving DecidableEq, Repr

namespace Numeral

/-- Appends digits to a significand as long as it fits 64 bits. The rest is returned. -/
def accumulate (significand : Nat) : List Nat → Nat × List Nat
  | [] => (significand, [])
  | d :: ds =>
    if significand * 10 + d < 0x10000000000000000 then accumulate (significand * 10 + d) ds
    else (significand, d :: ds)

def ofDigits (digits : List Nat) : Nat :=
  digits.foldl (fun n d => n * 10 + d) 0

/-- The magnitude of `10 ^ k` in units. -/
def tenPow (k : Nat) : Nat :=
  Magnitude.ofNat (Nat.pow 10 k)

/-- The magnitude of `significand * 10 ^ exponent` in units. Each step divides or multiplies by a power
of ten up to `10 ^ 308`. -/
def scale (significand : Nat) (exponent : Int) : Nat :=
  let start := Magnitude.ofNat significand
  if start = 0 then 0
  else if 308 < exponent then Binary64.limit
  else if 0 ≤ exponent then Magnitude.mul start (tenPow exponent.toNat)
  else if -308 ≤ exponent then Magnitude.div start (tenPow (-exponent).toNat)
  else if -616 ≤ exponent then Magnitude.div (Magnitude.div start (tenPow 308)) (tenPow (-exponent - 308).toNat)
  else 0

/-- The number of a numeral, or `none` if it is too large for a binary64 number. An integer of at most
64 bits stays one; the integer zero with a sign does not. -/
def toNumber? (n : Numeral) : Option Number :=
  let (high, skipped) := accumulate 0 n.whole
  let (significand, dropped) := accumulate high n.fraction
  let exponent : Int := skipped.length - (n.fraction.length - dropped.length : Nat) +
    match n.exponent with
    | none => 0
    | some (negative, digits) => if negative then -(ofDigits digits : Int) else ofDigits digits
  let float : Option Number :=
    (Binary64.Finite.ofRatio? n.negative (scale significand exponent) 1).map .float
  if n.fraction = [] ∧ n.exponent = none ∧ skipped = [] then
    if !n.negative then some (.int high)
    else if high ≠ 0 ∧ high ≤ 0x8000000000000000 then some (.int (-high))
    else float
  else float

end Numeral

end FlagEngine.Json
