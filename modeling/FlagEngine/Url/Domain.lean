import FlagEngine.Unicode.Composition
import FlagEngine.Unicode.Direction
import FlagEngine.Unicode.Joining
import FlagEngine.Unicode.Mark
import FlagEngine.Url.NameMapping
import FlagEngine.Url.Punycode

/-!
# Domain names

The characters of a name are mapped and composed. The labels between its dots then have to be well
formed, those that are spelt in Punycode too, and the name is written in ASCII.
-/

namespace FlagEngine.Url

def isAscii (c : Char) : Bool :=
  c.toNat < 0x80

/-! ## Labels -/

namespace Label

/-- What a label in Punycode starts with. -/
def mark : List Char := ['x', 'n', '-', '-']

/-- The longest label beyond ASCII that is written in Punycode. -/
def encodeLimit : Nat := 1000

/-- The longest text after its mark that is read as Punycode. -/
def decodeLimit : Nat := 2000

/-- The label that stands behind the mark of Punycode. It must need Punycode, have no mark itself, and
be in the form that mapping and composing lead to. -/
def ofPunycode? (text : List Char) : Option (List Char) := do
  guard (text.getLast?.any (· != '-') && text.length ≤ decodeLimit)
  let label := (← Punycode.decode? text).map Char.ofNat
  guard (label.all (fun c => mapChar? c == some [c]) && Unicode.compose label == label)
  guard (!mark.isPrefixOf label)
  return label

/-- The label of mapped and composed characters. -/
def ofMapped? (cs : List Char) : Option (List Char) :=
  if mark.isPrefixOf cs then
    if cs.all isAscii then ofPunycode? (cs.drop mark.length) else none
  else some cs

/-- A label in ASCII. -/
def toAscii? (label : List Char) : Option (List Char) :=
  if label.all isAscii then some label
  else if label.length ≤ encodeLimit then some (mark ++ Punycode.encode (label.map Char.toNat))
  else none

/-! ### Joiners -/

def isNonJoiner (c : Char) : Bool :=
  c.toNat == 0x200C

def isJoiner (c : Char) : Bool :=
  c.toNat == 0x200D

/-- Whether the characters before, latest first, end with a sign that takes the vowel away. -/
def followsVirama (before : List Char) : Bool :=
  before.head?.any fun c => Unicode.combiningClass c.toNat == Unicode.viramaClass

/-- The first character that letters do not join across. -/
def neighbour? (cs : List Char) : Option Char :=
  cs.find? (!Unicode.isTransparent ·)

/-- Whether joiners stand only where they change how a letter looks. The characters before come latest
first. -/
def joinersFit (before : List Char) : List Char → Bool
  | [] => true
  | c :: cs =>
    (if isNonJoiner c then
      followsVirama before
        || (neighbour? before).any Unicode.joinsNext && (neighbour? cs).any Unicode.joinsPrevious
    else !isJoiner c || followsVirama before)
      && joinersFit (c :: before) cs

/-! ### Directions -/

/-- The direction at the end of a label, marks apart. -/
def lastDirection? (label : List Char) : Option Unicode.Direction :=
  (label.reverse.map Unicode.direction).find? (· != .mark)

/-- Whether a label reads in one direction among labels of either. It starts with a letter, goes on in
the direction of it, and ends with a letter or a number, of which one kind may occur. -/
def keepsDirection (label : List Char) : Bool :=
  let directions := label.map Unicode.direction
  match directions with
  | [] => true
  | .leftToRight :: rest =>
    !rest.contains .rightToLeft && !rest.contains .arabicNumber
      && (lastDirection? label).any fun d => d == .leftToRight || d == .europeanNumber
  | .rightToLeft :: rest =>
    !rest.contains .leftToRight && !(rest.contains .europeanNumber && rest.contains .arabicNumber)
      && (lastDirection? label).any fun d =>
        d == .rightToLeft || d == .europeanNumber || d == .arabicNumber
  | _ => false

/-- Whether a label starts with a whole character and its joiners fit. -/
def isWellFormed (label : List Char) : Bool :=
  !label.head?.any Unicode.isMark && joinersFit [] label

end Label

/-! ## Names -/

namespace Domain

/-- A character that no name may have, whatever it comes from. -/
def isForbidden (c : Char) : Bool :=
  c.toNat ≤ 0x20 || c.toNat == 0x7F
    || ['%', '#', '/', ':', '<', '>', '?', '@', '[', '\\', ']', '^', '|'].contains c

/-- The labels of a name. -/
def labels : List Char → List (List Char)
  | [] => [[]]
  | c :: cs =>
    if c = '.' then [] :: labels cs
    else
      match labels cs with
      | l :: ls => (c :: l) :: ls
      | [] => [[c]]

/-- The name of labels. -/
def ofLabels : List (List Char) → List Char
  | [] => []
  | [l] => l
  | l :: ls => l ++ '.' :: ofLabels ls

/-- A name in its mapped and composed form. -/
def mapped? (cs : List Char) : Option (List Char) := do
  let name := Unicode.compose (← cs.mapM mapChar?).flatten
  guard (!name.any isForbidden)
  return name

/-- The name in ASCII that is spelt by UTF-8 bytes. If a character turns the direction, every label has
to keep its own. -/
def ofBytes? (bytes : List UInt8) : Option (List Char) := do
  let text ← String.fromUTF8? ⟨bytes.toArray⟩
  let ls ← (labels (← mapped? text.toList)).mapM Label.ofMapped?
  guard (ls.all Label.isWellFormed)
  guard (!ls.any (·.any Unicode.turnsDirection) || ls.all Label.keepsDirection)
  return ofLabels (← ls.mapM Label.toAscii?)

end Domain

end FlagEngine.Url
