import FlagEngine.Datafile.Basic

/-!
# Reading datafiles

A record is an object with its fields by name, other names being ignored and a repeated field being an
error; or an array of its fields in their order, of which the last may be missing if they have a
default. `levels` bounds how deep arrays and objects may stand inside each other.
-/

namespace FlagEngine

open Json (Document)

namespace Decode

/-- The fields of a record by name. -/
abbrev Fields := String → Option Document

/-- The named members of an object, if every name is a text and none of `names` is repeated. -/
def members? (names : List String) :
    List (Option String × Document) → Option (List (String × Document))
  | [] => some []
  | (name, d) :: ms => do
    let name ← name
    let rest ← members? names ms
    guard (!(names.contains name && (rest.lookup name).isSome))
    return (name, d) :: rest

/-- The fields of a record and the levels left inside it. -/
def record? (names : List String) (levels : Nat) (d : Document) : Option (Nat × Fields) :=
  match levels, d with
  | levels + 1, .object ms => do
    let ms ← members? names ms
    return (levels, fun name => ms.lookup name)
  | levels + 1, .array xs => do
    guard (xs.length ≤ names.length)
    return (levels, fun name => (names.zip xs).lookup name)
  | _, _ => none

def list? {α : Type} (decode : Nat → Document → Option α) (levels : Nat) (d : Document) : Option (List α) :=
  match levels, d with
  | levels + 1, .array xs => xs.mapM (decode levels)
  | _, _ => none

/-- A field that may be missing. -/
def withDefault? {α : Type} (default : α) (decode : Document → Option α) : Option Document → Option α
  | none => some default
  | some d => decode d

/-- A field that may be missing or null. -/
def optional? {α : Type} (decode : Document → Option α) : Option Document → Option (Option α)
  | none | some .null => some none
  | some d => (decode d).map some

def text? : Document → Option String
  | .string s => s
  | _ => none

def bool? : Document → Option Bool
  | .bool b => some b
  | _ => none

/-- An integer of 32 bits without a sign. -/
def word? : Document → Option UInt32
  | .number n =>
    match n.toNumber? with
    | some (.int i) => if 0 ≤ i ∧ i < 0x100000000 then some (UInt32.ofNat i.toNat) else none
    | _ => none
  | _ => none

/-- The name of an enumerated value: a string, or an object with the name and null. -/
def name? : Document → Option String
  | .string s => s
  | .object [(name, .null)] => name
  | _ => none

def texts? (levels : Nat) (d : Document) : Option (List String) :=
  list? (fun _ => text?) levels d

/-- Texts by name, the last of a repeated name. -/
def textMap? : Document → Option (List (String × String))
  | .object ms => do
    let pairs ← ms.mapM fun (name, d) => do return (← name, ← text? d)
    return Json.sortFields pairs
  | _ => none

end Decode

open Decode

def Override.decode? (levels : Nat) (d : Document) : Option Override := do
  let (_, fields) ← record? ["id", "value"] levels d
  return { id := ← fields "id" >>= text?, value := ← fields "value" >>= text? }

def Variation.decode? (levels : Nat) (d : Document) : Option Variation := do
  let (levels, fields) ← record? ["id", "key", "featureEnabled", "variables"] levels d
  return {
    id := ← fields "id" >>= text?
    key := ← fields "key" >>= text?
    featureEnabled := ← optional? bool? (fields "featureEnabled")
    overrides := ← withDefault? [] (list? Override.decode? levels) (fields "variables") }

def TrafficRange.decode? (levels : Nat) (d : Document) : Option TrafficRange := do
  let (_, fields) ← record? ["entityId", "endOfRange"] levels d
  return { entityId := ← fields "entityId" >>= text?, endOfRange := ← fields "endOfRange" >>= word? }

def Condition.decode? (levels : Nat) (d : Document) : Option Condition :=
  (d.toJson? levels).map ofJson

def Experiment.Status.ofName : String → Experiment.Status
  | "Running" => .running
  | "Launched" => .launched
  | "Paused" => .paused
  | "Not started" => .notStarted
  | "Archived" => .archived
  | _ => .unknown

def Experiment.Bandit.decode? (levels : Nat) (d : Document) : Option Experiment.Bandit := do
  let (levels, fields) ← record? ["trafficAllocation", "attributeIds"] levels d
  return {
    traffic := ← fields "trafficAllocation" >>= word?
    attributeIds := ← withDefault? [] (texts? levels) (fields "attributeIds") }

def Experiment.decode? (levels : Nat) (d : Document) : Option Experiment := do
  let (levels, fields) ← record?
    ["id", "key", "status", "layerId", "variations", "trafficAllocation", "audienceIds",
      "audienceConditions", "forcedVariations", "cmab"] levels d
  return {
    id := ← fields "id" >>= text?
    key := ← fields "key" >>= text?
    status := .ofName (← fields "status" >>= name?)
    layerId := ← withDefault? "" text? (fields "layerId")
    variations := ← withDefault? [] (list? Variation.decode? levels) (fields "variations")
    traffic := ← withDefault? [] (list? TrafficRange.decode? levels) (fields "trafficAllocation")
    audienceIds := ← withDefault? [] (texts? levels) (fields "audienceIds")
    conditions := ← optional? (Condition.decode? levels) (fields "audienceConditions")
    whitelist := ← withDefault? [] textMap? (fields "forcedVariations")
    bandit := ← optional? (Experiment.Bandit.decode? levels) (fields "cmab") }

def Holdout.Status.ofName : String → Holdout.Status
  | "Draft" => .draft
  | "Running" => .running
  | "Concluded" => .concluded
  | "Archived" => .archived
  | _ => .unknown

def Holdout.decode? (levels : Nat) (d : Document) : Option Holdout := do
  let (levels, fields) ← record?
    ["id", "key", "status", "variations", "trafficAllocation", "audienceIds", "audienceConditions",
      "includedFlags", "excludedFlags"] levels d
  return {
    id := ← fields "id" >>= text?
    key := ← fields "key" >>= text?
    status := .ofName (← fields "status" >>= name?)
    variations := ← withDefault? [] (list? Variation.decode? levels) (fields "variations")
    traffic := ← withDefault? [] (list? TrafficRange.decode? levels) (fields "trafficAllocation")
    audienceIds := ← withDefault? [] (texts? levels) (fields "audienceIds")
    conditions := ← optional? (Condition.decode? levels) (fields "audienceConditions")
    included := ← withDefault? [] (texts? levels) (fields "includedFlags")
    excluded := ← withDefault? [] (texts? levels) (fields "excludedFlags") }

def Group.Policy.ofName : String → Group.Policy
  | "random" => .random
  | "overlapping" => .overlapping
  | _ => .unknown

def Group.decode? (levels : Nat) (d : Document) : Option Group := do
  let (levels, fields) ← record? ["id", "policy", "trafficAllocation", "experiments"] levels d
  return {
    id := ← fields "id" >>= text?
    policy := .ofName (← fields "policy" >>= name?)
    traffic := ← withDefault? [] (list? TrafficRange.decode? levels) (fields "trafficAllocation")
    experiments := ← withDefault? [] (list? Experiment.decode? levels) (fields "experiments") }

def Variable.Kind.ofName : String → Variable.Kind
  | "string" => .string
  | "integer" => .integer
  | "double" => .double
  | "boolean" => .boolean
  | "json" => .json
  | _ => .unknown

def Variable.decode? (levels : Nat) (d : Document) : Option Variable := do
  let (_, fields) ← record? ["id", "key", "type", "subType", "defaultValue"] levels d
  return {
    id := ← fields "id" >>= text?
    key := ← fields "key" >>= text?
    kind := .ofName (← fields "type" >>= name?)
    subKind := ← optional? text? (fields "subType")
    defaultValue := ← fields "defaultValue" >>= text? }

def Flag.decode? (levels : Nat) (d : Document) : Option Flag := do
  let (levels, fields) ← record? ["id", "key", "rolloutId", "experimentIds", "variables"] levels d
  return {
    id := ← fields "id" >>= text?
    key := ← fields "key" >>= text?
    rolloutId := ← withDefault? "" text? (fields "rolloutId")
    experimentIds := ← withDefault? [] (texts? levels) (fields "experimentIds")
    vars := ← withDefault? [] (list? Variable.decode? levels) (fields "variables") }

def Rollout.decode? (levels : Nat) (d : Document) : Option Rollout := do
  let (levels, fields) ← record? ["id", "experiments"] levels d
  return {
    id := ← fields "id" >>= text?
    rules := ← withDefault? [] (list? Experiment.decode? levels) (fields "experiments") }

def AttributeKey.decode? (levels : Nat) (d : Document) : Option AttributeKey := do
  let (_, fields) ← record? ["id", "key"] levels d
  return { id := ← fields "id" >>= text?, key := ← fields "key" >>= text? }

def Audience.decode? (levels : Nat) (d : Document) : Option Audience := do
  let (levels, fields) ← record? ["id", "name", "conditions"] levels d
  return {
    id := ← fields "id" >>= text?
    name := ← withDefault? "" text? (fields "name")
    conditions := .ofEmbedded (← fields "conditions" >>= Document.toJson? levels) }

namespace Datafile

def decode? (levels : Nat) (d : Document) : Option Datafile := do
  let (levels, fields) ← record?
    ["version", "revision", "experiments", "groups", "featureFlags", "rollouts", "attributes",
      "audiences", "typedAudiences", "holdouts", "sendFlagDecisions"] levels d
  return {
    version := ← withDefault? "" text? (fields "version")
    revision := ← withDefault? "" text? (fields "revision")
    experiments := ← withDefault? [] (list? Experiment.decode? levels) (fields "experiments")
    groups := ← withDefault? [] (list? Group.decode? levels) (fields "groups")
    flags := ← withDefault? [] (list? Flag.decode? levels) (fields "featureFlags")
    rollouts := ← withDefault? [] (list? Rollout.decode? levels) (fields "rollouts")
    attributes := ← withDefault? [] (list? AttributeKey.decode? levels) (fields "attributes")
    audiences := ← withDefault? [] (list? Audience.decode? levels) (fields "audiences")
    typedAudiences := ← withDefault? [] (list? Audience.decode? levels) (fields "typedAudiences")
    holdouts := ← withDefault? [] (list? Holdout.decode? levels) (fields "holdouts")
    sendFlagDecisions := ← withDefault? false bool? (fields "sendFlagDecisions") }

/-- The datafile of a document. -/
def ofDocument? (d : Document) : Option Datafile :=
  decode? Document.maxLevels d

/-- The datafile of a JSON text. -/
def ofText? (text : String) : Option Datafile := do
  ofDocument? (← Document.ofText? text)

end Datafile

end FlagEngine
