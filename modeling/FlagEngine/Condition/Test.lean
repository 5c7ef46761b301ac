import FlagEngine.Attribute
import FlagEngine.Text.Quoted
import FlagEngine.Text.Search
import FlagEngine.Version

/-!
# Attribute tests

A test compares one user attribute with a value. It may be malformed, or the attribute unfit for it;
`Test.evaluate` then says why it has no outcome.
-/

namespace FlagEngine.Condition

/-- The order that an attribute must have relative to the value of a test. -/
inductive Relation where
  | eq
  | gt
  | ge
  | lt
  | le
deriving DecidableEq, Repr

def Relation.holds : Relation → Ordering → Bool
  | .eq, o => o == .eq
  | .gt, o => o == .gt
  | .ge, o => o != .lt
  | .lt, o => o == .lt
  | .le, o => o != .gt

/-- How a test matches an attribute. -/
inductive Matching where
  | «exists»
  | exact
  | substring
  | number (r : Relation)
  | version (r : Relation)
deriving DecidableEq, Repr

def Matching.ofName? : String → Option Matching
  | "exists" => some .exists
  | "exact" => some .exact
  | "substring" => some .substring
  | "gt" => some (.number .gt)
  | "ge" => some (.number .ge)
  | "lt" => some (.number .lt)
  | "le" => some (.number .le)
  | "semver_eq" => some (.version .eq)
  | "semver_gt" => some (.version .gt)
  | "semver_ge" => some (.version .ge)
  | "semver_lt" => some (.version .lt)
  | "semver_le" => some (.version .le)
  | _ => none

/-- A test of one attribute. Its fields are as loose as they come, so that a test that is not
understood is kept and has no outcome. -/
structure Test where
  name : Option String
  kind : Option String
  matching : Option String
  value : Option Json

instance : Inhabited Test := ⟨⟨none, none, none, none⟩⟩

namespace Test

/-- A field that holds a text. Null is no text, and any other value is an error. -/
def textField? : Option Json → Option (Option String)
  | none | some .null => some none
  | some (.string s) => some (some s)
  | _ => none

/-- A field that holds any value. Null is none. -/
def valueField : Option Json → Option Json
  | some .null => none
  | v => v

/-- The test of an object's fields. Other fields are ignored. -/
def ofFields? (fields : List (String × Json)) : Option Test := do
  return {
    name := ← textField? (fields.lookup "name")
    kind := ← textField? (fields.lookup "type")
    matching := ← textField? (fields.lookup "match")
    value := valueField (fields.lookup "value") }

/-- The test of an array of at most four fields in the order name, type, match and value. -/
def ofItems? (items : List Json) : Option Test := do
  guard (items.length ≤ 4)
  return {
    name := ← textField? items[0]?
    kind := ← textField? items[1]?
    matching := ← textField? items[2]?
    value := valueField items[3]? }

def ofJson? : Json → Option Test
  | .object fields => ofFields? fields
  | .array items => ofItems? items
  | _ => none

/-- The fields that are present, in the order name, type, match and value. -/
def fields (t : Test) : List (String × Json) :=
  (t.name.map fun s => ("name", Json.string s)).toList
    ++ (t.kind.map fun s => ("type", Json.string s)).toList
    ++ (t.matching.map fun s => ("match", Json.string s)).toList
    ++ (t.value.map fun v => ("value", v)).toList

def toJson (t : Test) : Json :=
  .ofFields t.fields

/-- The text of a test in messages. -/
def text (t : Test) : String :=
  (Json.object t.fields).text

/-- Why a test has no outcome. -/
inductive Fault where
  | unknownKind
  | unknownMatching
  | unnamed
  | unsupportedValue
  | missing (name : String)
  | null (name : String)
  | wrongKind (name kind : String)
  | outOfRange (name : String)
  | notVersion (name : String)
deriving DecidableEq, Repr

/-- The message of a fault of the test `t`. -/
def Fault.message (t : Test) (f : Fault) : String :=
  let subject := "audience condition " ++ t.text
  let unknown := subject ++ " evaluated to UNKNOWN because "
  let upgrade := ". You may need to upgrade to a newer release of the SDK"
  match f with
  | .unknownKind => subject ++ " uses an unknown condition type" ++ upgrade
  | .unknownMatching => subject ++ " uses an unknown match type" ++ upgrade
  | .unnamed => subject ++ " has no attribute name"
  | .unsupportedValue => subject ++ " has an unsupported condition value" ++ upgrade
  | .missing name => unknown ++ "no value was passed for user attribute " ++ Text.quote name
  | .null name => unknown ++ "a null value was passed for user attribute " ++ Text.quote name
  | .wrongKind name kind =>
    unknown ++ "a value of type " ++ kind ++ " was passed for user attribute " ++ Text.quote name
  | .outOfRange name =>
    unknown ++ "the number value for user attribute " ++ Text.quote name
      ++ " is not in the range [-2^53, +2^53]"
  | .notVersion name =>
    unknown ++ "user attribute " ++ Text.quote name ++ " is not a valid semantic version"

/-- Compares an attribute that is not null with the value of a test. -/
def compare (name : String) (matching : Matching) (expected actual : Attribute) : Except Fault Bool :=
  let wrongKind := Fault.wrongKind name actual.kind
  match matching with
  | .exists => .ok true
  | .exact =>
    match expected, actual with
    | .string s, .string t => .ok (s == t)
    | .boolean a, .boolean b => .ok (a == b)
    | .number x, _ =>
      match x.comparable?, actual with
      | none, _ => .error .unsupportedValue
      | some a, .number y =>
        match y.comparable? with
        | some b => .ok (a == b)
        | none => .error (.outOfRange name)
      | some _, _ => .error wrongKind
    | _, _ => .error wrongKind
  | .substring =>
    match expected, actual with
    | .string s, .string t => .ok (Text.occurs s.toList t.toList)
    | .string _, _ => .error wrongKind
    | _, _ => .error .unsupportedValue
  | .number r =>
    match expected.number?.bind Binary64.comparable?, actual with
    | some a, .number y =>
      match y.comparable? with
      | some b => .ok (r.holds (Ord.compare b a))
      | none => .error (.outOfRange name)
    | some _, _ => .error wrongKind
    | none, _ => .error .unsupportedValue
  | .version r =>
    match expected, actual with
    | .string target, .string version =>
      match Version.compareTexts? version target with
      | some o => .ok (r.holds o)
      | none => .error (.notVersion name)
    | .string _, _ => .error wrongKind
    | _, _ => .error .unsupportedValue

/-- The value that a test compares with. -/
def expected? (t : Test) : Option Attribute := do
  let expected ← Attribute.ofJson? (← t.value)
  guard (!expected.isNull)
  return expected

/-- The matching of a test. Without one, values are compared exactly. -/
def matching? (t : Test) : Option Matching :=
  match t.matching with
  | none => some .exact
  | some m => Matching.ofName? m

/-- The outcome of a test for a user's attributes. -/
def evaluate (t : Test) (attributes : Attributes) : Except Fault Bool :=
  if t.kind ≠ some "custom_attribute" then .error .unknownKind
  else
    match t.matching?, t.name with
    | none, _ => .error .unknownMatching
    | some _, none => .error .unnamed
    | some .exists, some name => .ok (attributes[name]?.any fun a => !a.isNull)
    | some matching, some name =>
      match attributes[name]?, t.expected? with
      | none, _ => .error (.missing name)
      | some _, none => .error .unsupportedValue
      | some .null, some _ => .error (.null name)
      | some actual, some expected => compare name matching expected actual

end Test

end FlagEngine.Condition
