import FlagEngine.Number.Binary64

/-!
# Decimal numbers

`Decimal.toUnits` is the binary64 magnitude nearest to a decimal, and `Decimal.shortest` a decimal of
fewest digits among those that read back as a given magnitude, the nearest of them.
-/

namespace FlagEngine

/-- The number `digits * 10 ^ exponent`. -/
structure Decimal where
  digits : Nat
  exponent : Int
deriving DecidableEq, Repr

namespace Decimal

/-- The nearest magnitude in units, or `Binary64.limit` and more if there is none. Exponents beyond the
range of the format are answered without computing the power of ten. -/
def toUnits (d : Decimal) : Nat :=
  if d.digits = 0 then 0
  else if 400 < d.exponent then Binary64.limit
  else if 3 * d.exponent + d.digits.log2 + 1076 ≤ 0 then 0
  else roundSignificant (d.digits * Nat.pow 10 d.exponent.toNat * Binary64.one)
    (Nat.pow 10 (-d.exponent).toNat)

/-- Whether the decimal reads back as the magnitude of `units`. -/
def readsBack (units : Nat) (d : Decimal) : Bool :=
  d.toUnits == units

/-- The magnitude of `units` is `exactDigits units * 10 ^ -1074`. -/
def exactDigits (units : Nat) : Nat :=
  -- the power is the first factor, since products are reduced along the second
  Nat.pow 5 1074 * units

/-- The number of decimal digits. -/
def length (n : Nat) : Nat :=
  (Nat.toDigits 10 n).length

/-- Of the two neighbours of a magnitude with the low `dropped` digits of its exact digits cut off, the
one that reads back; of two, the nearer; of two equally near, the even one. -/
def neighbour? (units dropped : Nat) : Option Decimal :=
  let exact := exactDigits units
  let grid := Nat.pow 10 dropped
  let below : Decimal := ⟨exact / grid, dropped - 1074⟩
  let above : Decimal := ⟨exact / grid + 1, dropped - 1074⟩
  match readsBack units below, readsBack units above with
  | true, true => some ⟨roundDiv exact grid, dropped - 1074⟩
  | true, false => some below
  | false, true => some above
  | false, false => none

/-- Moves trailing zeros of the digits into the exponent, at most `fuel` of them. -/
def strip : Nat → Decimal → Decimal
  | 0, d => d
  | fuel + 1, d =>
    if d.digits % 10 = 0 then strip fuel ⟨d.digits / 10, d.exponent + 1⟩ else d

/-- A decimal of fewest digits that reads back as the magnitude of `units`. -/
def shortest (units : Nat) : Decimal :=
  if units = 0 then ⟨0, 0⟩
  else
    let size := length (exactDigits units)
    let d := (List.range 17).findSome? fun n => neighbour? units (size - (n + 1))
    match d with
    | some d => strip 17 d
    | none => ⟨exactDigits units, -1074⟩

/-- Decimal digits, most significant first, with a point after the first `whole` of them. -/
private def pointed (digits : List Char) (whole : Nat) : List Char :=
  digits.take whole ++ '.' :: digits.drop whole

/-- Positional where the leading digit stands for `10 ^ -5` up to `10 ^ 15`, always with a point and a
digit after it; otherwise one digit before the point and a signed exponent. -/
def layout (d : Decimal) : List Char :=
  let digits := Nat.toDigits 10 d.digits
  let size := digits.length
  let leading : Int := d.exponent + size - 1
  if -5 ≤ leading ∧ leading < 16 then
    if 0 ≤ d.exponent then digits ++ List.replicate d.exponent.toNat '0' ++ ['.', '0']
    else if 0 ≤ leading then pointed digits (leading.toNat + 1)
    else '0' :: '.' :: List.replicate (-leading - 1).toNat '0' ++ digits
  else
    let mantissa := if size = 1 then digits else pointed digits 1
    let sign := if leading < 0 then '-' else '+'
    mantissa ++ 'e' :: sign :: Nat.toDigits 10 leading.natAbs

end Decimal

namespace Binary64

/-- The written form of a finite number. -/
def Finite.text (x : Finite) : String :=
  String.ofList ((if x.negative then ['-'] else []) ++ (Decimal.shortest x.units).layout)

end Binary64

end FlagEngine
