import FlagEngine.Condition.Test
import FlagEngine.Json.Document
import FlagEngine.Truth

/-!
# Condition trees

Trees of `and`, `or` and `not` over attribute tests and references to audiences. Whatever is not
understood is kept as a malformed leaf, so that one such leaf spoils nothing but itself.
-/

namespace FlagEngine

namespace Condition

inductive Operator where
  | and
  | or
  | not
deriving DecidableEq, Repr

def Operator.name : Operator → String
  | .and => "and"
  | .or => "or"
  | .not => "not"

def Operator.ofName? : String → Option Operator
  | "and" => some .and
  | "or" => some .or
  | "not" => some .not
  | _ => none

/-- A leaf of a condition tree. -/
inductive Leaf where
  | audience (id : String)
  | test (t : Test)
  | malformed (json : Json)

instance : Inhabited Leaf := ⟨.malformed .null⟩

def Leaf.toJson : Leaf → Json
  | .audience id => .string id
  | .test t => t.toJson
  | .malformed json => json

end Condition

/-- A condition tree. -/
inductive Condition where
  | leaf (l : Condition.Leaf)
  | branch (op : Condition.Operator) (operands : List Condition)

namespace Condition

instance : Inhabited Condition := ⟨.branch .or []⟩

/-! ## JSON form -/

mutual

/-- The tree of a JSON value. An array may name its operator first and is an `or` otherwise; a string
names an audience; an object is a test. -/
def ofJson : Json → Condition
  | .string id => .leaf (.audience id)
  | .object fields =>
    match Test.ofFields? fields with
    | some t => .leaf (.test t)
    | none => .leaf (.malformed (.object fields))
  | .array [] => .branch .or []
  | .array (.string s :: items) =>
    match Operator.ofName? s with
    | some op => .branch op (ofItems items)
    | none => .branch .or (.leaf (.audience s) :: ofItems items)
  | .array (item :: items) => .branch .or (ofJson item :: ofItems items)
  | json => .leaf (.malformed json)

def ofItems : List Json → List Condition
  | [] => []
  | item :: items => ofJson item :: ofItems items

end

mutual

/-- The JSON value of a tree. The operator is always written. -/
def toJson : Condition → Json
  | .leaf l => l.toJson
  | .branch op operands => .array (.string op.name :: itemsToJson operands)

def itemsToJson : List Condition → List Json
  | [] => []
  | c :: cs => toJson c :: itemsToJson cs

end

/-- The tree of a JSON value that may also be a string with the JSON text of the tree. -/
def ofEmbedded : Json → Condition
  | .string s =>
    match Json.ofText? s with
    | some json => ofJson json
    | none => .leaf (.malformed (.string s))
  | json => ofJson json

/-- The text of a tree. -/
def text (c : Condition) : String :=
  c.toJson.text

/-- Any of the audiences with the given ids. -/
def anyAudience (ids : List String) : Condition :=
  .branch .or (ids.map fun id => .leaf (.audience id))

/-! ## Evaluation -/

variable {m : Type → Type} [Monad m]

mutual

/-- The value of a tree, its leaves evaluated from left to right as far as they are needed. A branch
without operands is true, and `not` has one operand. -/
def evaluateM (leaf : Leaf → m Truth) : Condition → m Truth
  | .leaf l => leaf l
  | .branch .and operands => allM leaf operands
  | .branch .or operands => if operands.isEmpty then pure .yes else anyM leaf operands
  | .branch .not [] => pure .yes
  | .branch .not (c :: _) => do return (← evaluateM leaf c).not

/-- The least value of the operands, none of them evaluated after a false one. -/
def allM (leaf : Leaf → m Truth) : List Condition → m Truth
  | [] => pure .yes
  | c :: cs => do
    match ← evaluateM leaf c with
    | .no => return .no
    | v => return v.and (← allM leaf cs)

/-- The greatest value of the operands, none of them evaluated after a true one. -/
def anyM (leaf : Leaf → m Truth) : List Condition → m Truth
  | [] => pure .no
  | c :: cs => do
    match ← evaluateM leaf c with
    | .yes => return .yes
    | v => return v.or (← anyM leaf cs)

end

/-- The value of a leaf without any audiences at hand. -/
def Leaf.evaluate (attributes : Attributes) : Leaf → Truth
  | .test t =>
    match t.evaluate attributes with
    | .ok b => .ofBool b
    | .error _ => .unknown
  | .audience _ | .malformed _ => .unknown

/-- The value of a tree without any audiences at hand. -/
def evaluate (attributes : Attributes) (c : Condition) : Truth :=
  Id.run (evaluateM (m := Id) (fun l => pure (l.evaluate attributes)) c)

end Condition

end FlagEngine
