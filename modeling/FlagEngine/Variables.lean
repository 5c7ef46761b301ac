import FlagEngine.Datafile.Basic
import FlagEngine.Json.Document
import FlagEngine.Number.Literal
import FlagEngine.Reason
import FlagEngine.Text.Blank

/-!
# Flag variables

The typed values of a flag's variables. A variation with the feature on may override the defaults; a
text that is no value of its variable's kind is left out and reported.
-/

namespace FlagEngine

open Reasoned (note)

namespace Variable

/-- Whether the text of a variable is JSON. -/
def isJson (v : Variable) : Bool :=
  v.kind == .json || v.kind == .string && v.subKind == some "json"

/-- The value that a text has for a variable. -/
def parse? (v : Variable) (text : String) : Option Json :=
  if v.isJson then Json.ofText? text
  else
    match v.kind with
    | .integer => (Literal.int64? (Text.trim text)).map .ofInt
    | .double =>
      match Literal.binary64? (Text.trim text) with
      | some (.finite x) => some (.number (.float x))
      | _ => none
    | .boolean =>
      match Text.trim text with
      | "true" => some (.bool true)
      | "false" => some (.bool false)
      | _ => none
    | .string | .json | .unknown => some (.string text)

/-- The text of a variable in a variation. -/
def rawText (v : Variable) (served : Option Variation) : String :=
  let override? := (served.filter Variation.isEnabled).bind fun s =>
    s.overrides.find? fun o => o.id == v.id
  (override?.map (·.value)).getD v.defaultValue

/-- The value of a variable in a variation. -/
def value? (served : Option Variation) (v : Variable) : Reasoned (Option Json) :=
  match v.parse? (v.rawText served) with
  | some j => return some j
  | none => do
    note (.invalidVariable v.key)
    return none

end Variable

/-- The values of some variables by key, the last of a repeated key. -/
def Variable.values (served : Option Variation) : List Variable → Reasoned (List (String × Json))
  | [] => return []
  | v :: vs => do
    let value ← v.value? served
    let rest ← values served vs
    return (value.map fun j => (v.key, j)).toList ++ rest

/-- The variables of a flag for the variation that is served. -/
def Flag.values (f : Flag) (served : Option Variation) : Reasoned (List (String × Json)) := do
  return Json.sortFields (← Variable.values served f.vars)

end FlagEngine
