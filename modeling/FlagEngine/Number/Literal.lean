import FlagEngine.Number.Decimal

/-!
# Numbers as people write them

Readers for whole texts: integers of 64 bits, and binary64 numbers correctly rounded. Unlike in JSON a
number may have a plus sign and leading zeros, and digits may be missing at one side of its point.
-/

namespace FlagEngine

namespace Literal

/-- Takes a sign off. It is negative for a minus. -/
def sign : List Char → Bool × List Char
  | '-' :: cs => (true, cs)
  | '+' :: cs => (false, cs)
  | cs => (false, cs)

/-- The number that decimal digits stand for. -/
def ofDigits (cs : List Char) : Nat :=
  cs.foldl (fun n c => n * 10 + (c.toNat - 48)) 0

theorem toNat_of_isDigit {c : Char} (h : c.isDigit = true) : 48 ≤ c.toNat ∧ c.toNat ≤ 57 := by
  simpa [Char.isDigit, UInt32.le_iff_toNat_le] using h

/-- One or more digits and nothing else. -/
def digits? (cs : List Char) : Option Nat :=
  if !cs.isEmpty && cs.all Char.isDigit then some (ofDigits cs) else none

def signed? (cs : List Char) : Option Int :=
  let (negative, rest) := sign cs
  (digits? rest).map fun n => if negative then -(n : Int) else n

/-- The mantissa before an exponent mark, and the exponent. -/
def splitExponent (cs : List Char) : List Char × Option (List Char) :=
  let isMark c := c == 'e' || c == 'E'
  match cs.dropWhile (!isMark ·) with
  | [] => (cs, none)
  | _ :: exponent => (cs.takeWhile (!isMark ·), some exponent)

/-- A decimal without a sign: digits with a point among them or not, at least one, and perhaps an
exponent. -/
def decimal? (cs : List Char) : Option Decimal := do
  let (mantissa, exponent) := splitExponent cs
  let whole := mantissa.takeWhile (· != '.')
  let fraction := (mantissa.dropWhile (· != '.')).drop 1
  let digits ← digits? (whole ++ fraction)
  let exponent ← match exponent with
    | none => some 0
    | some e => signed? e
  return ⟨digits, exponent - fraction.length⟩

/-- The number of a text without a sign. -/
def magnitude? (negative : Bool) (cs : List Char) : Option Binary64 :=
  match String.ofList (cs.map Char.toLower) with
  | "inf" | "infinity" => some (.infinite negative)
  | "nan" => some .nan
  | _ => (decimal? cs).map fun d => .ofRatio negative d.toUnits 1

end Literal

/-- The integer of a text, if it fits 64 bits with a sign. -/
def Literal.int64? (s : String) : Option Int :=
  (signed? s.toList).filter fun n => -0x8000000000000000 ≤ n && n < 0x8000000000000000

/-- The binary64 number nearest to the one a text stands for. -/
def Literal.binary64? (s : String) : Option Binary64 :=
  let (negative, cs) := sign s.toList
  magnitude? negative cs

end FlagEngine
