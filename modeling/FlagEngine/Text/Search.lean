/-!
# Searching texts

Where one text occurs in another, and replacing every occurrence.
-/

namespace FlagEngine.Text

/-- Whether `needle` occurs in a text. -/
def occurs (needle : List Char) : List Char → Bool
  | [] => needle.isEmpty
  | c :: cs => needle.isPrefixOf (c :: cs) || occurs needle cs

/-- The text without its first `skip` characters, and with `replacement` for every occurrence of
`needle` in the rest, found from left to right. -/
def replaceFrom (needle replacement : List Char) : Nat → List Char → List Char
  | _, [] => []
  | skip + 1, _ :: cs => replaceFrom needle replacement skip cs
  | 0, c :: cs =>
    if needle.isPrefixOf (c :: cs) then
      replacement ++ replaceFrom needle replacement (needle.length - 1) cs
    else c :: replaceFrom needle replacement 0 cs

/-- The text with `replacement` for every occurrence of `needle`. -/
def replaceAll (needle replacement cs : List Char) : List Char :=
  replaceFrom needle replacement 0 cs

end FlagEngine.Text
