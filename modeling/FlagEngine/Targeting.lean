import FlagEngine.Project
import FlagEngine.Reason

/-!
# Targeting

Whether the audience of a rule covers a user. An audience is looked up one level deep: a reference
inside an audience is unknown, so audiences cannot run in circles. Every leaf whose value is unknown
leaves a reason.
-/

namespace FlagEngine

open Condition (Leaf)
open Reasoned (note)

/-- A truth value that is unknown, with its reason. -/
def Reasoned.unknown (r : Reason) : Reasoned Truth := do
  note r
  return .unknown

/-- The outcome of a test as a truth value. -/
def Condition.Test.truth (t : Test) (attributes : Attributes) : Reasoned Truth :=
  match t.evaluate attributes with
  | .ok b => return .ofBool b
  | .error fault => .unknown (.testFault t fault)

/-- The value of a leaf inside the audience with the given id. -/
def Condition.Leaf.truthWithin (attributes : Attributes) (audienceId : String) :
    Leaf → Reasoned Truth
  | .test t => t.truth attributes
  | .audience nested => .unknown (.nestedAudience audienceId nested)
  | .malformed json => .unknown (.malformedCondition json)

/-- The value of a leaf of a rule's own conditions. -/
def Condition.Leaf.truth (p : Project) (attributes : Attributes) : Leaf → Reasoned Truth
  | .test t => t.truth attributes
  | .audience id =>
    match p.audience? id with
    | some a => a.conditions.evaluateM (Leaf.truthWithin attributes id)
    | none => .unknown (.unknownAudience id)
  | .malformed json => .unknown (.malformedCondition json)

/-- The conditions of a rule: its own ones, or else any of its audiences. -/
def Rule.targeting (r : Rule) : Condition :=
  r.conditions.getD (.anyAudience r.audienceIds)

/-- Whether the conditions of a rule are true for a user. The rule goes by `name` in the reasons. -/
def Rule.admits (p : Project) (r : Rule) (name : String) (attributes : Attributes) : Reasoned Bool := do
  let value ← r.targeting.evaluateM (Leaf.truth p attributes)
  note (.audiences name value)
  return value == .yes

end FlagEngine
