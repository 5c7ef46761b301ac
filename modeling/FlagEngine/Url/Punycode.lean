/-!
# Punycode

Labels of domain names in ASCII. Characters beyond ASCII are taken out, and spelt at the end as the
steps from one to the next: first by code point, then by place.
-/

namespace FlagEngine.Url.Punycode

/-! ## Numbers of variable length -/

/-- The value of a digit in base 36. -/
def digit? (c : Char) : Option Nat :=
  if 'a' ≤ c ∧ c ≤ 'z' then some (c.toNat - 97)
  else if '0' ≤ c ∧ c ≤ '9' then some (c.toNat - 22)
  else none

def digitChar (d : Nat) : Char :=
  if d < 26 then Char.ofNat (97 + d) else Char.ofNat (22 + d)

/-- The value from which on a digit at `position` is followed by another one. -/
def threshold (position bias : Nat) : Nat :=
  max 1 (min 26 (position - bias))

/-- The bias for a delta that has been made smaller, `k` being 36 for each division by 35. -/
def biasOf (k delta : Nat) : Nat :=
  if 455 < delta then biasOf (k + 36) (delta / 35) else k + 36 * delta / (delta + 38)
termination_by delta
decreasing_by omega

/-- The bias after a delta, when there are `count` code points. -/
def adapt (isFirst : Bool) (delta count : Nat) : Nat :=
  let delta := if isFirst then delta / 700 else delta / 2
  biasOf 0 (delta + delta / count)

/-! ## Reading -/

/-- The least number that does not fit 32 bits. -/
def wordLimit : Nat := 0x100000000

/-- Reads a delta: digits up to the first one below its threshold. -/
def delta? (bias position weight delta : Nat) : List Char → Option (Nat × List Char)
  | [] => none
  | c :: cs => do
    let d ← digit? c
    let delta := delta + d * weight
    guard (delta < wordLimit)
    let t := threshold position bias
    if d < t then return (delta, cs)
    else
      guard (weight * (36 - t) < wordLimit)
      delta? bias (position + 36) (weight * (36 - t)) delta cs

/-- Inserts a code point for every delta, at most `fuel` of them. -/
def insertAll (isFirst : Bool) (code index bias : Nat) (out : List Nat) :
    Nat → List Char → Option (List Nat)
  | _, [] => some out
  | 0, _ :: _ => none
  | fuel + 1, c :: cs => do
    let (delta, rest) ← delta? bias 36 1 0 (c :: cs)
    let count := out.length + 1
    let code := code + (index + delta) / count
    let place := (index + delta) % count
    guard code.isValidChar
    insertAll false code (place + 1) (adapt isFirst delta count) (out.insertIdx place code) fuel rest

/-- The code points of a label. What stands before the last hyphen is literal. -/
def decode? (cs : List Char) : Option (List Nat) :=
  let literal := (cs.reverse.dropWhile (· != '-')).reverse.dropLast
  let deltas := if literal.isEmpty then cs else (cs.reverse.takeWhile (· != '-')).reverse
  insertAll true 128 0 72 (literal.map Char.toNat) deltas.length deltas

/-! ## Writing -/

/-- The digits of a delta. -/
def digits (bias position delta : Nat) : List Char :=
  let t := threshold position bias
  if delta < t then [digitChar delta]
  else digitChar (t + (delta - t) % (36 - t)) :: digits bias (position + 36) ((delta - t) / (36 - t))
termination_by delta
decreasing_by
  have ht : 1 ≤ threshold position bias := Nat.le_max_left ..
  have := Nat.div_le_self (delta - threshold position bias) (36 - threshold position bias)
  omega

/-- What has been written, and what the next delta depends on. -/
structure Progress where
  out : List Char
  delta : Nat
  bias : Nat
  /-- The number of code points that are written or literal. -/
  count : Nat
  isFirst : Bool

namespace Progress

/-- Passes a code point of the label while `code` is being written. -/
def step (code : Nat) (p : Progress) (c : Nat) : Progress :=
  if c < code then { p with delta := p.delta + 1 }
  else if c = code then {
    out := p.out ++ digits p.bias 36 p.delta
    delta := 0
    bias := adapt p.isFirst p.delta (p.count + 1)
    count := p.count + 1
    isFirst := false }
  else p

/-- Writes the places of ascending code points, all from `next` on. -/
def writeAll (label : List Nat) (next : Nat) (p : Progress) : List Nat → Progress
  | [] => p
  | code :: codes =>
    let p := { p with delta := p.delta + (code - next) * (p.count + 1) }
    let p := label.foldl (step code) p
    writeAll label (code + 1) { p with delta := p.delta + 1 } codes

end Progress

/-- The label of code points. -/
def encode (label : List Nat) : List Char :=
  let literal := label.filter (· < 128)
  let codes := (label.filter (128 ≤ ·)).eraseDups.mergeSort
  let p := Progress.writeAll label 128 ⟨[], 0, 72, literal.length, true⟩ codes
  literal.map Char.ofNat ++ (if literal.isEmpty then [] else ['-']) ++ p.out

end FlagEngine.Url.Punycode
