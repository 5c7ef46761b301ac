import FlagEngine.Url.Percent

/-!
# Paths of URLs

A path is a list of percent-encoded segments. Segments of one or two dots are steps and not names, and
are resolved where they stand.
-/

namespace FlagEngine.Url

/-- A dot, perhaps percent-encoded, and what follows it. -/
def dot? : List Char → Option (List Char)
  | '.' :: rest => some rest
  | '%' :: '2' :: e :: rest => if e = 'e' ∨ e = 'E' then some rest else none
  | _ => none

/-- A segment that stands for its own directory. -/
def isSingleDot (cs : List Char) : Bool :=
  dot? cs == some []

/-- A segment that stands for the directory above. -/
def isDoubleDot (cs : List Char) : Bool :=
  (dot? cs).bind dot? == some []

/-- Appends segments to a path, dots being resolved. A step at the end leaves an empty segment. -/
def resolve (path : List (List Char)) : List (List Char) → List (List Char)
  | [] => path
  | s :: rest =>
    let isStep := isSingleDot s || isDoubleDot s
    let path := if isDoubleDot s then path.dropLast else if isSingleDot s then path else path ++ [s]
    if isStep && rest.isEmpty then path ++ [[]] else resolve path rest

/-- The parts of a text between separators. -/
def splitOn (isSeparator : Char → Bool) : List Char → List (List Char)
  | [] => [[]]
  | c :: cs =>
    if isSeparator c then [] :: splitOn isSeparator cs
    else
      match splitOn isSeparator cs with
      | part :: parts => (c :: part) :: parts
      | [] => [[c]]

/-- The written form of a path. -/
def pathText (path : List (List Char)) : List Char :=
  path.flatMap fun s => '/' :: s

end FlagEngine.Url
