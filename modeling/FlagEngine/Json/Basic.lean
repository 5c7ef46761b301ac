import FlagEngine.Number.Decimal

/-!
# JSON values

Numbers are kept apart as integers and binary64 numbers. A value that is read has the fields of an
object in ascending order of their names, each name once. One that is only written may have them in any
order.
-/

namespace FlagEngine

/-- A JSON number. -/
inductive Json.Number where
  | int (n : Int)
  | float (x : Binary64.Finite)
deriving DecidableEq

/-- A JSON value. -/
inductive Json where
  | null
  | bool (b : Bool)
  | number (n : Json.Number)
  | string (s : String)
  | array (items : List Json)
  | object (fields : List (String × Json))

namespace Json

instance : Inhabited Json := ⟨.null⟩

def Number.toBinary64 : Number → Binary64
  | .int n => .ofInt n
  | .float x => .finite x

def ofInt (n : Int) : Json := .number (.int n)

def ofNat (n : Nat) : Json := .number (.int n)

/-- Infinities and not-a-number have no JSON form and become null. -/
def ofBinary64 : Binary64 → Json
  | .finite x => .number (.float x)
  | _ => .null

/-- Sets a field, in place of an earlier one of the same name. -/
def setField {α : Type} (name : String) (value : α) : List (String × α) → List (String × α)
  | [] => [(name, value)]
  | (n, v) :: rest =>
    if name < n then (name, value) :: (n, v) :: rest
    else if name = n then (name, value) :: rest
    else (n, v) :: setField name value rest

/-- The fields in ascending order of their names. The last of a repeated name counts. -/
def sortFields {α : Type} (fields : List (String × α)) : List (String × α) :=
  fields.foldl (fun sorted f => setField f.1 f.2 sorted) []

def ofFields (fields : List (String × Json)) : Json :=
  .object (sortFields fields)

/-- The value of a field, or `none` if there is no such field. -/
def field? (name : String) : Json → Option Json
  | .object fields => fields.lookup name
  | _ => none

end Json

end FlagEngine
