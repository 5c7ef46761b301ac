import FlagEngine.Bandit.Basic
import FlagEngine.Text.Search
import FlagEngine.Url.Basic

/-!
# Endpoints of the prediction service

Where the bandit of a rule is asked. The id of the rule becomes one segment of the path: in place of a
placeholder, or else at its end.
-/

namespace FlagEngine.Prediction

/-- The placeholder as it stands in the path of a URL. -/
def placeholder : List Char :=
  "%7Brule_id%7D".toList

/-- The id of a rule as a segment. Line ends and tabs vanish, and so do ids that would be steps. -/
def segment (special : Bool) (ruleId : String) : List Char :=
  let isIgnored (c : Char) := c == '\t' || c == '\n' || c == '\r'
  let cs := Url.encode (Url.isSegmentSafe special) (ruleId.toList.filter (!isIgnored ·))
  if Url.isSingleDot cs || Url.isDoubleDot cs then [] else cs

/-- A path without the empty segments at its end. -/
def trimEnd (path : List (List Char)) : List (List Char) :=
  (path.reverse.dropWhile (·.isEmpty)).reverse

/-- A path with a segment in place of its placeholders, or else at its end. -/
def place (path : List (List Char)) (s : List Char) : List (List Char) :=
  if path.any (Text.occurs placeholder) then path.map (Text.replaceAll placeholder s)
  else trimEnd path ++ [s]

/-- The URL of a rule's predictions. -/
def url? (endpoint ruleId : String) : Except Bandit.Failure Url :=
  let invalid (reason : String) := Bandit.Failure.fetchFailed ("invalid url " ++ endpoint ++ ": " ++ reason)
  match Url.parse endpoint with
  | .error f => .error (invalid f.message)
  | .ok url =>
    match url.takesPath, url.location with
    | true, .rooted path =>
      let path := place path (segment (Url.isSpecial url.scheme) ruleId)
      .ok { url with location := .rooted (Url.resolve [] path) }
    | _, _ => .error (invalid "endpoint cannot have a path")

end FlagEngine.Prediction
