import FlagEngine.Url.Domain
import FlagEngine.Url.Percent

/-!
# Hosts of URLs

A domain name, an address of version 4 or 6, or a text of its own for schemes that are not known.
-/

namespace FlagEngine.Url

/-- What is wrong with a text that should be a URL. -/
inductive Fault where
  | relative
  | emptyHost
  | invalidPort
  | invalidIpv4
  | invalidIpv6
  | invalidDomain
  | invalidHostCharacter
deriving DecidableEq, Repr, Inhabited

def Fault.message : Fault → String
  | .relative => "relative URL without a base"
  | .emptyHost => "empty host"
  | .invalidPort => "invalid port number"
  | .invalidIpv4 => "invalid IPv4 address"
  | .invalidIpv6 => "invalid IPv6 address"
  | .invalidDomain => "invalid international domain name"
  | .invalidHostCharacter => "invalid domain character"

inductive Host where
  | domain (name : List Char)
  | ipv4 (address : Nat)
  | ipv6 (pieces : List Nat)
  | other (name : List Char)
deriving DecidableEq, Repr, Inhabited

/-- The number that digits below `base` stand for. -/
def numeral? (base : Nat) (cs : List Char) : Option Nat :=
  cs.foldlM (fun n c => do
    let d ← Text.hexDigit? c
    guard (d < base)
    return n * base + d) 0

namespace Ipv4

/-- A part of an address: decimal, octal after a zero, hexadecimal after a zero and an x. -/
def part? : List Char → Option Nat
  | [] => none
  | '0' :: 'x' :: cs | '0' :: 'X' :: cs => numeral? 16 cs
  | '0' :: c :: cs => numeral? 8 (c :: cs)
  | cs => numeral? 10 cs

/-- The labels of a name without an empty one at the end. -/
def parts (name : List Char) : List (List Char) :=
  let ls := Domain.labels name
  if ls.getLast? = some [] then ls.dropLast else ls

/-- Whether a name can only be meant as an address: its last part is a number. -/
def isMeant (name : List Char) : Bool :=
  match (parts name).getLast? with
  | none | some [] => false
  | some cs => cs.all Char.isDigit || (part? cs).isSome

/-- An address of one to four parts. The last one fills the bytes that the others leave. -/
def address? (name : List Char) : Option Nat := do
  let numbers ← (parts name).mapM part?
  let last ← numbers.getLast?
  let firsts := numbers.dropLast
  guard (firsts.length ≤ 3 && firsts.all (· ≤ 255) && last < Nat.pow 256 (4 - firsts.length))
  return (firsts ++ List.replicate (4 - firsts.length) 0).foldl (fun n b => n * 256 + b) 0 + last

end Ipv4

namespace Ipv6

/-- A decimal byte without leading zeros. -/
def byte? (cs : List Char) : Option Nat := do
  guard (!cs.isEmpty && cs.length ≤ 3 && (cs.head? != some '0' || cs.length == 1))
  let n ← numeral? 10 cs
  guard (n ≤ 255)
  return n

/-- One to four hexadecimal digits. -/
def piece? (cs : List Char) : Option Nat := do
  guard (!cs.isEmpty && cs.length ≤ 4)
  numeral? 16 cs

/-- The parts between colons; none for an empty text. -/
def split : List Char → List (List Char)
  | [] => [[]]
  | c :: cs =>
    if c = ':' then [] :: split cs
    else
      match split cs with
      | p :: ps => (c :: p) :: ps
      | [] => [[c]]

/-- The pieces of a run of parts. The last part may be an address of version 4. -/
def pieces? : List (List Char) → Option (List Nat)
  | [] => some []
  | [cs] =>
    if cs.contains '.' then do
      let bytes ← (Domain.labels cs).mapM byte?
      match bytes with
      | [a, b, c, d] => some [a * 256 + b, c * 256 + d]
      | _ => none
    else do return [← piece? cs]
  | cs :: rest => do return (← piece? cs) :: (← pieces? rest)

/-- What stands before and after a double colon, if there is one. -/
def cut? : List Char → Option (List Char × List Char)
  | ':' :: ':' :: rest => some ([], rest)
  | c :: cs => (cut? cs).map fun (before, after) => (c :: before, after)
  | [] => none

def parts (cs : List Char) : List (List Char) :=
  if cs.isEmpty then [] else split cs

/-- Eight pieces. A double colon stands for one or more of them that are zero. -/
def address? (cs : List Char) : Option (List Nat) :=
  match cut? cs with
  | none => do
    let pieces ← pieces? (parts cs)
    guard (pieces.length = 8)
    return pieces
  | some (before, after) => do
    guard (!before.contains '.')
    let first ← pieces? (parts before)
    let last ← pieces? (parts after)
    guard (first.length + last.length ≤ 7)
    return first ++ List.replicate (8 - first.length - last.length) 0 ++ last

end Ipv6

namespace Host

/-- The host of a URL that names none. -/
def empty : Host := .other []

/-- An address of version 6 after its opening bracket. -/
def ofBracket (cs : List Char) : Except Fault Host :=
  if cs.getLast? = some ']' then
    match Ipv6.address? cs.dropLast with
    | some pieces => .ok (.ipv6 pieces)
    | none => .error .invalidIpv6
  else .error .invalidIpv6

/-- The host of a known scheme: a domain name or an address. -/
def ofSpecial : List Char → Except Fault Host
  | '[' :: cs => ofBracket cs
  | cs =>
    match Domain.ofBytes? (decodeBytes cs) with
    | none => .error .invalidDomain
    | some name =>
      if name.isEmpty then .error .emptyHost
      else if Ipv4.isMeant name then
        match Ipv4.address? name with
        | some address => .ok (.ipv4 address)
        | none => .error .invalidIpv4
      else .ok (.domain name)

/-- A character that the host of an unknown scheme may not have. -/
def isForbidden (c : Char) : Bool :=
  ['\x00', '\t', '\n', '\r', ' ', '#', '/', ':', '<', '>', '?', '@', '[', '\\', ']', '^', '|'].contains c

/-- The host of an unknown scheme. -/
def ofOther : List Char → Except Fault Host
  | '[' :: cs => ofBracket cs
  | cs => if cs.any isForbidden then .error .invalidHostCharacter else .ok (.other (encode isPlain cs))

/-- The dotted decimal bytes of an address of version 4. -/
def ipv4Text (address : Nat) : List Char :=
  let byte (i : Nat) := Nat.toDigits 10 (address / Nat.pow 256 i % 256)
  byte 3 ++ '.' :: byte 2 ++ '.' :: byte 1 ++ '.' :: byte 0

/-- The first of the longest runs of zeros: its start and its length. -/
def longestZeros (pieces : List Nat) : Nat × Nat :=
  (List.range pieces.length).foldl
    (fun best i =>
      let count := ((pieces.drop i).takeWhile (· == 0)).length
      if best.2 < count then (i, count) else best)
    (0, 0)

def piecesText (pieces : List Nat) : List Char :=
  List.intercalate [':'] (pieces.map (Nat.toDigits 16))

/-- The pieces of an address of version 6. A double colon stands for the longest run of two zeros or
more. -/
def ipv6Text (pieces : List Nat) : List Char :=
  let (start, count) := longestZeros pieces
  if count < 2 then piecesText pieces
  else piecesText (pieces.take start) ++ ':' :: ':' :: piecesText (pieces.drop (start + count))

def text : Host → List Char
  | .domain name | .other name => name
  | .ipv4 address => ipv4Text address
  | .ipv6 pieces => '[' :: ipv6Text pieces ++ [']']

/-- Whether a request can name the host. -/
def isWritable : Host → Bool
  | .domain name => !name.any fun c => ['"', '\x60', '\x7b', '\x7d'].contains c
  | _ => true

end Host

end FlagEngine.Url
