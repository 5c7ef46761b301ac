import FlagEngine.Text.Hex
import Std.Data.TreeMap

/-!
# Tables of code points

Data about code points is written as a text of rows with commas between them. A row is a sequence of
hexadecimal numbers. The data is that of Unicode 17 where a table does not say otherwise.
-/

namespace FlagEngine.Unicode

/-! ## Reading -/

/-- The numbers of a row that are complete, latest first, and the one that is being read. -/
structure Row where
  numbers : List Nat
  current : Option Nat

namespace Row

def empty : Row :=
  ⟨[], none⟩

/-- Ends the number that is being read. -/
def close (r : Row) : Row :=
  ⟨r.current.toList ++ r.numbers, none⟩

def push (r : Row) (digit : Nat) : Row :=
  { r with current := some (r.current.getD 0 * 16 + digit) }

def toList (r : Row) : List Nat :=
  r.close.numbers.reverse

end Row

/-- The rows of what is left of a text, the first one having been begun. -/
def recordsFrom (r : Row) : List Char → List (List Nat)
  | [] => [r.toList]
  | c :: cs =>
    if c = ',' then r.toList :: recordsFrom .empty cs
    else
      match Text.hexDigit? c with
      | some digit => recordsFrom (r.push digit) cs
      | none => recordsFrom r.close cs

/-- The rows of a table. -/
def records (text : String) : List (List Nat) :=
  recordsFrom .empty text.toList

/-! ## Maps -/

/-- Numbers the elements of a list from `first` on. -/
def numbered {α : Type} (first : Nat) : List α → List (Nat × α)
  | [] => []
  | a :: as => (first, a) :: numbered (first + 1) as

/-- The entries of a table whose rows hold a code point and its image. -/
def rowsByHead (text : String) : List (Nat × List Nat) :=
  (records text).filterMap fun row =>
    match row with
    | [] => none
    | c :: image => some (c, image)

/-- The entries of a table whose rows hold a code point, and then one image for it and for each code
point after it. -/
def runs (text : String) : List (Nat × List Nat) :=
  (rowsByHead text).flatMap fun (first, images) => numbered first (images.map fun c => [c])

def ofEntries {α : Type} (entries : List (Nat × α)) : Std.TreeMap Nat α :=
  entries.foldl (fun map e => map.insert e.1 e.2) ∅

/-! ## Sets -/

structure Range where
  first : Nat
  last : Nat
deriving DecidableEq, Repr, Inhabited

/-- A set of code points, as ascending ranges that are apart. -/
structure CodePoints where
  ranges : Array Range
deriving Repr, Inhabited

namespace CodePoints

/-- The set of a table whose rows hold one code point, or the first and the last one of a range. -/
def ofText (text : String) : CodePoints :=
  ⟨((records text).filterMap fun row =>
    match row with
    | [c] => some ⟨c, c⟩
    | [first, last] => some ⟨first, last⟩
    | _ => none).toArray⟩

/-- Whether a code point lies in one of the ranges from index `lo` on and before `hi`. -/
def containsIn (s : CodePoints) (c lo hi : Nat) : Bool :=
  if _h : lo < hi then
    match s.ranges[(lo + hi) / 2]? with
    | none => false
    | some r =>
      if c < r.first then s.containsIn c lo ((lo + hi) / 2)
      else if r.last < c then s.containsIn c ((lo + hi) / 2 + 1) hi
      else true
  else false
termination_by hi - lo
decreasing_by all_goals omega

def contains (s : CodePoints) (c : Nat) : Bool :=
  s.containsIn c 0 s.ranges.size

end CodePoints

end FlagEngine.Unicode
