import FlagEngine.Json.Numeral
import FlagEngine.Text.Hex

/-!
# JSON documents

A document is a JSON text as it is spelt: numerals of any size, members in their order with
repetitions, strings whose escapes may name no character. `Document.ofText?` reads one, and
`Document.toJson?` gives its value.
-/

namespace FlagEngine.Json

/-- A document. A string is `none` if its escapes hold half a surrogate pair. -/
inductive Document where
  | null
  | bool (b : Bool)
  | number (n : Numeral)
  | string (s : Option String)
  | array (items : List Document)
  | object (members : List (Option String × Document))

namespace Document

instance : Inhabited Document := ⟨.null⟩

/-! ## Reading -/

def isSpace (c : Char) : Bool :=
  c == ' ' || c == '\n' || c == '\t' || c == '\r'

def skipSpace (cs : List Char) : List Char :=
  cs.dropWhile isSpace

/-- A character of a string literal, or one 16-bit unit that is spelt as an escape. -/
inductive Piece where
  | char (c : Char)
  | unit (n : Nat)

def hexUnit? (a b c d : Char) : Option Nat := do
  return ((← Text.hexDigit? a) * 16 + (← Text.hexDigit? b)) * 256 + (← Text.hexDigit? c) * 16
    + (← Text.hexDigit? d)

/-- The character that a one-letter escape stands for. -/
def escape? : Char → Option Char
  | '"' => some '"'
  | '\\' => some '\\'
  | '/' => some '/'
  | 'b' => some '\x08'
  | 'f' => some '\x0c'
  | 'n' => some '\n'
  | 'r' => some '\r'
  | 't' => some '\t'
  | _ => none

/-- Reads up to the closing quote. Control characters must be escaped. -/
def pieces : List Char → Option (List Piece × List Char)
  | [] => none
  | '"' :: rest => some ([], rest)
  | '\\' :: 'u' :: a :: b :: c :: d :: rest => do
    let n ← hexUnit? a b c d
    let (ps, rest) ← pieces rest
    return (.unit n :: ps, rest)
  | '\\' :: e :: rest => do
    let c ← escape? e
    let (ps, rest) ← pieces rest
    return (.char c :: ps, rest)
  | c :: rest => do
    guard (c ≠ '\\' ∧ 0x20 ≤ c.toNat)
    let (ps, rest) ← pieces rest
    return (.char c :: ps, rest)

/-- Joins the two units of a surrogate pair; a single one has no character. -/
def joinUnits : List Piece → Option (List Char)
  | [] => some []
  | .char c :: rest => (joinUnits rest).map (c :: ·)
  | .unit hi :: .unit lo :: rest =>
    if 0xD800 ≤ hi ∧ hi < 0xDC00 then
      if 0xDC00 ≤ lo ∧ lo < 0xE000 then
        (joinUnits rest).map (Char.ofNat (0x10000 + (hi - 0xD800) * 0x400 + (lo - 0xDC00)) :: ·)
      else none
    else if 0xDC00 ≤ hi ∧ hi < 0xE000 then none
    else (joinUnits (.unit lo :: rest)).map (Char.ofNat hi :: ·)
  | .unit n :: rest =>
    if 0xD800 ≤ n ∧ n < 0xE000 then none
    else (joinUnits rest).map (Char.ofNat n :: ·)

/-- Reads a string literal after its opening quote. -/
def literal (cs : List Char) : Option (Option String × List Char) := do
  let (ps, rest) ← pieces cs
  return ((joinUnits ps).map String.ofList, rest)

def digits (cs : List Char) : List Nat × List Char :=
  ((cs.takeWhile Char.isDigit).map fun c => c.toNat - 48, cs.dropWhile Char.isDigit)

/-- Reads the digits after a decimal point, at least one. -/
def fraction : List Char → Option (List Nat × List Char)
  | '.' :: rest =>
    match digits rest with
    | ([], _) => none
    | (ds, rest) => some (ds, rest)
  | cs => some ([], cs)

def exponentDigits (negative : Bool) (cs : List Char) : Option (Option (Bool × List Nat) × List Char) :=
  match digits cs with
  | ([], _) => none
  | (ds, rest) => some (some (negative, ds), rest)

/-- Reads an exponent: its mark, a sign or none, at least one digit. -/
def exponent : List Char → Option (Option (Bool × List Nat) × List Char)
  | c :: rest =>
    if c = 'e' ∨ c = 'E' then
      match rest with
      | '+' :: rest => exponentDigits false rest
      | '-' :: rest => exponentDigits true rest
      | rest => exponentDigits false rest
    else some (none, c :: rest)
  | [] => some (none, [])

/-- Reads a numeral without its sign. A leading zero stands alone. -/
def unsignedNumeral (negative : Bool) (cs : List Char) : Option (Numeral × List Char) := do
  let (whole, rest) := digits cs
  guard (whole ≠ [] ∧ (whole.head? = some 0 → whole.length = 1))
  let (fraction, rest) ← fraction rest
  let (exponent, rest) ← exponent rest
  return (⟨negative, whole, fraction, exponent⟩, rest)

def numeral : List Char → Option (Numeral × List Char)
  | '-' :: rest => unsignedNumeral true rest
  | cs => unsignedNumeral false cs

mutual

/-- Reads a value and returns what follows it. -/
def value : Nat → List Char → Option (Document × List Char)
  | 0, _ => none
  | fuel + 1, cs =>
    match skipSpace cs with
    | 'n' :: 'u' :: 'l' :: 'l' :: rest => some (.null, rest)
    | 't' :: 'r' :: 'u' :: 'e' :: rest => some (.bool true, rest)
    | 'f' :: 'a' :: 'l' :: 's' :: 'e' :: rest => some (.bool false, rest)
    | '"' :: rest => (literal rest).map fun (s, rest) => (.string s, rest)
    | '[' :: rest =>
      match skipSpace rest with
      | ']' :: rest => some (.array [], rest)
      | rest => (items fuel rest).map fun (xs, rest) => (.array xs, rest)
    | '\x7b' :: rest =>
      match skipSpace rest with
      | '\x7d' :: rest => some (.object [], rest)
      | rest => (members fuel rest).map fun (ms, rest) => (.object ms, rest)
    | cs => (numeral cs).map fun (n, rest) => (.number n, rest)

/-- Reads the values of an array up to its closing bracket. -/
def items : Nat → List Char → Option (List Document × List Char)
  | 0, _ => none
  | fuel + 1, cs => do
    let (x, rest) ← value fuel cs
    match skipSpace rest with
    | ',' :: rest => (items fuel rest).map fun (xs, rest) => (x :: xs, rest)
    | ']' :: rest => some ([x], rest)
    | _ => none

/-- Reads the members of an object up to its closing brace. -/
def members : Nat → List Char → Option (List (Option String × Document) × List Char)
  | 0, _ => none
  | fuel + 1, cs => do
    let '"' :: rest := skipSpace cs | none
    let (name, rest) ← literal rest
    let ':' :: rest := skipSpace rest | none
    let (x, rest) ← value fuel rest
    match skipSpace rest with
    | ',' :: rest => (members fuel rest).map fun (ms, rest) => ((name, x) :: ms, rest)
    | '\x7d' :: rest => some ([(name, x)], rest)
    | _ => none

end

/-- The document of a text. Nothing but white space may stand around it. -/
def ofText? (text : String) : Option Document := do
  let cs := text.toList
  let (d, rest) ← value (2 * cs.length + 2) cs
  guard (skipSpace rest = [])
  return d

/-! ## The value of a document -/

/-- How many arrays and objects may stand inside each other in a value. -/
def maxLevels : Nat := 127

mutual

/-- The value of a document with at most `levels` levels of arrays and objects. -/
def toJson? (levels : Nat) : Document → Option Json
  | .null => some .null
  | .bool b => some (.bool b)
  | .number n => n.toNumber?.map .number
  | .string s => s.map .string
  | .array xs =>
    match levels with
    | 0 => none
    | levels + 1 => (itemsToJson? levels xs).map .array
  | .object ms =>
    match levels with
    | 0 => none
    | levels + 1 => (membersToJson? levels ms).map ofFields

def itemsToJson? (levels : Nat) : List Document → Option (List Json)
  | [] => some []
  | x :: xs => do
    let j ← toJson? levels x
    let js ← itemsToJson? levels xs
    return j :: js

def membersToJson? (levels : Nat) : List (Option String × Document) → Option (List (String × Json))
  | [] => some []
  | (name, x) :: ms => do
    let name ← name
    let j ← toJson? levels x
    let js ← membersToJson? levels ms
    return (name, j) :: js

end

end Document

/-- The value of a JSON text. -/
def ofText? (text : String) : Option Json := do
  (← Document.ofText? text).toJson? Document.maxLevels

end FlagEngine.Json
