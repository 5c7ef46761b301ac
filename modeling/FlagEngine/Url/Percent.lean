import FlagEngine.Text.Hex

/-!
# Percent encoding

Characters that a part of a URL cannot hold are written as the percent-encoded bytes of their UTF-8
form. Which ones are safe depends on the part.
-/

namespace FlagEngine.Url

/-- Visible ASCII characters and the space: what some part of a URL can hold as it is. -/
def isPlain (c : Char) : Bool :=
  0x20 ≤ c.toNat && c.toNat < 0x7F

/-- What a fragment can hold as it is. -/
def isFragmentSafe (c : Char) : Bool :=
  isPlain c && !([' ', '"', '<', '>', '\x60'].contains c)

/-- What a path can hold as it is. -/
def isPathSafe (c : Char) : Bool :=
  isFragmentSafe c && !(['#', '?', '\x7b', '\x7d'].contains c)

/-- What one segment of a path can hold as it is. A backslash separates segments in some schemes. -/
def isSegmentSafe (special : Bool) (c : Char) : Bool :=
  isPathSafe c && !(['/', '%'].contains c) && !(special && c == '\\')

/-- What a query can hold as it is. -/
def isQuerySafe (special : Bool) (c : Char) : Bool :=
  isPlain c && !([' ', '"', '#', '<', '>'].contains c) && !(special && c == '\'')

/-- A hexadecimal digit in upper case. -/
def hexDigit (n : Nat) : Char :=
  if n < 10 then Char.ofNat (48 + n) else Char.ofNat (55 + n)

def encodeByte (b : UInt8) : List Char :=
  ['%', hexDigit (b.toNat / 16), hexDigit (b.toNat % 16)]

def encodeChar (safe : Char → Bool) (c : Char) : List Char :=
  if safe c then [c] else (String.utf8EncodeChar c).flatMap encodeByte

def encode (safe : Char → Bool) (cs : List Char) : List Char :=
  cs.flatMap (encodeChar safe)

/-- The bytes of a text in which bytes may be percent-encoded. -/
def decodeBytes : List Char → List UInt8
  | '%' :: a :: b :: rest =>
    match Text.hexDigit? a, Text.hexDigit? b with
    | some x, some y => UInt8.ofNat (x * 16 + y) :: decodeBytes rest
    | _, _ => 37 :: decodeBytes (a :: b :: rest)
  | c :: rest => String.utf8EncodeChar c ++ decodeBytes rest
  | [] => []

end FlagEngine.Url
