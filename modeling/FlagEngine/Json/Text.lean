import FlagEngine.Json.Basic

/-!
# Writing JSON

The text of a value without spaces. Only quotes, backslashes and control characters are escaped.
-/

namespace FlagEngine.Json

/-- How a character is written inside a string. -/
def escapeChar (c : Char) : List Char :=
  match c with
  | '"' => ['\\', '"']
  | '\\' => ['\\', '\\']
  | '\x08' => ['\\', 'b']
  | '\x0c' => ['\\', 'f']
  | '\n' => ['\\', 'n']
  | '\r' => ['\\', 'r']
  | '\t' => ['\\', 't']
  | c =>
    if c.toNat < 0x20 then
      ['\\', 'u', '0', '0', if c.toNat < 0x10 then '0' else '1', Nat.digitChar (c.toNat % 16)]
    else [c]

def stringText (s : String) : List Char :=
  '"' :: s.toList.flatMap escapeChar ++ ['"']

def Number.text : Number → String
  | .int n => toString n
  | .float x => x.text

mutual

def chars : Json → List Char
  | .null => ['n', 'u', 'l', 'l']
  | .bool true => ['t', 'r', 'u', 'e']
  | .bool false => ['f', 'a', 'l', 's', 'e']
  | .number n => n.text.toList
  | .string s => stringText s
  | .array xs => '[' :: itemChars xs ++ [']']
  | .object fs => '\x7b' :: fieldChars fs ++ ['\x7d']

/-- The items with commas between them. -/
def itemChars : List Json → List Char
  | [] => []
  | [x] => chars x
  | x :: y :: ys => chars x ++ ',' :: itemChars (y :: ys)

/-- The fields with commas between them. -/
def fieldChars : List (String × Json) → List Char
  | [] => []
  | [(n, x)] => stringText n ++ ':' :: chars x
  | (n, x) :: g :: gs => stringText n ++ ':' :: (chars x ++ ',' :: fieldChars (g :: gs))

end

/-- The text of a value. -/
def text (j : Json) : String :=
  String.ofList j.chars

end FlagEngine.Json
