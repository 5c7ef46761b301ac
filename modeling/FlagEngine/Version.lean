import FlagEngine.Text.Blank

/-!
# Versions

One to three groups of digits with dots between them, then perhaps a pre-release suffix after `-` or a
build suffix after `+`. A target with fewer groups stands for every version that extends it, and a
pre-release comes before its release.
-/

namespace FlagEngine

/-- What follows the digit groups of a version. -/
inductive Version.Suffix where
  | preRelease (text : List Char)
  | build (text : List Char)
deriving DecidableEq, Repr

/-- A version: its digit groups as written, and its suffix. -/
structure Version where
  core : List (List Char)
  suffix : Option Version.Suffix
deriving DecidableEq, Repr

namespace Version

def isPreRelease (v : Version) : Bool :=
  match v.suffix with
  | some (.preRelease _) => true
  | _ => false

/-- The digit groups and then the suffix, if any. -/
def parts (v : Version) : List (List Char) :=
  v.core ++
    match v.suffix with
    | some (.preRelease text) | some (.build text) => [text]
    | none => []

/-! ## Reading -/

/-- The texts between the separators. -/
def splitAt (separator : Char) : List Char → List (List Char)
  | [] => [[]]
  | c :: cs =>
    if c = separator then [] :: splitAt separator cs
    else
      match splitAt separator cs with
      | [] => [[c]]
      | p :: ps => (c :: p) :: ps

def isNumeral (cs : List Char) : Bool :=
  !cs.isEmpty && cs.all Char.isDigit

/-- The digit groups of a core, one to three. -/
def core? (cs : List Char) : Option (List (List Char)) :=
  let groups := splitAt '.' cs
  if groups.length ≤ 3 ∧ groups.all isNumeral then some groups else none

def isMark (c : Char) : Bool :=
  c == '-' || c == '+'

/-- The version of a text, or `none` if it is not one. -/
def ofChars? (cs : List Char) : Option Version := do
  guard (!cs.any Text.isBlank)
  let core ← core? (cs.takeWhile fun c => !isMark c)
  match cs.dropWhile fun c => !isMark c with
  | [] => return ⟨core, none⟩
  | mark :: text =>
    guard (text ≠ [])
    return ⟨core, some (if mark = '-' then .preRelease text else .build text)⟩

/-! ## Comparison -/

/-- The value of a numeral with an optional plus sign, if it fits 64 bits. -/
def number? (cs : List Char) : Option Nat :=
  let digits := match cs with
    | '+' :: rest => rest
    | _ => cs
  if isNumeral digits then
    let n := digits.foldl (fun n c => n * 10 + (c.toNat - 48)) 0
    if n < 0x10000000000000000 then some n else none
  else none

/-- Compares the parts of a version with those of a target, as far as the target goes. -/
def compareParts (preRelease targetPreRelease : Bool) : List (List Char) → List (List Char) → Ordering
  | _, [] => if preRelease && !targetPreRelease then .lt else .eq
  | [], _ :: _ => if targetPreRelease then .gt else .lt
  | part :: parts, target :: targets =>
    if isNumeral part then
      match number? part, number? target with
      | some a, some b =>
        match compare a b with
        | .eq => compareParts preRelease targetPreRelease parts targets
        | order => order
      | _, _ => .lt
    else
      match compare part target with
      | .eq => compareParts preRelease targetPreRelease parts targets
      | .lt => if targetPreRelease && !preRelease then .gt else .lt
      | .gt => if !targetPreRelease && preRelease then .lt else .gt

/-- The order of a version relative to a target. -/
def compareTo (version target : Version) : Ordering :=
  compareParts version.isPreRelease target.isPreRelease version.parts target.parts

/-- The order of the version in a text relative to the target in another, if both are versions. -/
def compareTexts? (version target : String) : Option Ordering := do
  let target ← ofChars? target.toList
  let version ← ofChars? version.toList
  return version.compareTo target

end Version

end FlagEngine
