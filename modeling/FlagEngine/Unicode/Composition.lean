import FlagEngine.Unicode.CombiningClass
import FlagEngine.Unicode.Decomposition

/-!
# Composition

Texts that differ only in how their characters are composed have one composed form: everything is taken
apart, marks are brought into the order of their classes, and what can be composed is composed.
-/

namespace FlagEngine.Unicode

/-- Puts a code point in front, but after the marks of a lower class. -/
def insertByClass (c : Nat) : List Nat → List Nat
  | [] => [c]
  | d :: ds =>
    if combiningClass d ≠ 0 ∧ combiningClass d < combiningClass c then d :: insertByClass c ds
    else c :: d :: ds

/-- Brings the marks of every combination into the order of their classes. -/
def reorder (cs : List Nat) : List Nat :=
  cs.foldr insertByClass []

/-- The place of a pair among all pairs. -/
def pairIndex (a b : Nat) : Nat :=
  a * 0x110000 + b

def compositeByPair : Std.TreeMap Nat Nat :=
  ofEntries (composites.map fun (c, a, b) => (pairIndex a b, c))

/-- The syllable of two jamo, or of a syllable without a tail and a tail. -/
def syllable? (a b : Nat) : Option Nat :=
  if leadBase ≤ a ∧ a < leadBase + leadCount ∧ vowelBase ≤ b ∧ b < vowelBase + vowelCount then
    some (syllableBase + ((a - leadBase) * vowelCount + (b - vowelBase)) * tailCount)
  else if isSyllable a ∧ (a - syllableBase) % tailCount = 0 ∧ tailBase < b ∧ b < tailBase + tailCount then
    some (a + (b - tailBase))
  else none

/-- The composite of two code points. -/
def composite? (a b : Nat) : Option Nat :=
  (syllable? a b).or compositeByPair[pairIndex a b]?

/-- Composes what follows a starter. The marks, latest first, stand between the two. A mark of the same
class or a higher one keeps another from the starter. -/
def recompose (starter : Option Nat) (marks : List Nat) : List Nat → List Nat
  | [] => starter.toList ++ marks.reverse
  | c :: cs =>
    let k := combiningClass c
    let isFree := marks.head?.all fun m => combiningClass m < k
    match starter.bind fun s => if isFree then composite? s c else none with
    | some s => recompose (some s) marks cs
    | none =>
      if k = 0 then starter.toList ++ marks.reverse ++ recompose (some c) [] cs
      else recompose starter (c :: marks) cs

/-- The composed form of code points. -/
def composeCodes (cs : List Nat) : List Nat :=
  recompose none [] (reorder (cs.flatMap decompose))

/-- The composed form of a text. Below the first mark everything is composed already. -/
def compose (cs : List Char) : List Char :=
  if cs.all fun c => c.toNat < 0x300 then cs
  else (composeCodes (cs.map Char.toNat)).map Char.ofNat

end FlagEngine.Unicode
