import FlagEngine.Unicode.Silent

/-!
# Quoted text

A text in double quotes, with a backslash before quotes and backslashes, letters for the common
controls and `\u` with a code point in braces for what prints nothing of its own.
-/

namespace FlagEngine.Text

/-- How one character is written between the quotes. -/
def quoteChar (c : Char) : List Char :=
  match c with
  | '"' => ['\\', '"']
  | '\\' => ['\\', '\\']
  | '\n' => ['\\', 'n']
  | '\r' => ['\\', 'r']
  | '\t' => ['\\', 't']
  | '\x00' => ['\\', '0']
  | _ =>
    if (c.toNat < 0x20 || 0x7F ≤ c.toNat) && Unicode.isSilent c then
      '\\' :: 'u' :: '\x7b' :: Nat.toDigits 16 c.toNat ++ ['\x7d']
    else [c]

/-- The text in double quotes. -/
def quote (s : String) : String :=
  String.ofList ('"' :: s.toList.flatMap quoteChar ++ ['"'])

end FlagEngine.Text
