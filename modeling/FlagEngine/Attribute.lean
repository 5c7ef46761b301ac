import FlagEngine.Json.Text
import FlagEngine.Murmur
import Std.Data.TreeMap

/-!
# User attributes

What is known of a user: named strings, numbers, truth values and nulls. `Attributes.fingerprint` tells
apart two sets of attributes up to a collision of the hash.
-/

namespace FlagEngine

/-- The value of a user attribute. -/
inductive Attribute where
  | string (s : String)
  | number (x : Binary64)
  | boolean (b : Bool)
  | null
deriving DecidableEq

namespace Attribute

instance : Inhabited Attribute := ⟨.null⟩

def string? : Attribute → Option String
  | .string s => some s
  | _ => none

def number? : Attribute → Option Binary64
  | .number x => some x
  | _ => none

def isNull : Attribute → Bool
  | .null => true
  | _ => false

/-- The word for the kind of value. -/
def kind : Attribute → String
  | .string _ => "string"
  | .number _ => "number"
  | .boolean _ => "boolean"
  | .null => "null"

/-- The attribute of a JSON scalar. Arrays and objects are none. -/
def ofJson? : Json → Option Attribute
  | .string s => some (.string s)
  | .number n => some (.number n.toBinary64)
  | .bool b => some (.boolean b)
  | .null => some .null
  | .array _ | .object _ => none

def toJson : Attribute → Json
  | .string s => .string s
  | .number x => .ofBinary64 x
  | .boolean b => .bool b
  | .null => .null

/-- Equality of values, numbers by `Binary64.eqv`. -/
def eqv : Attribute → Attribute → Bool
  | .string s, .string t => s == t
  | .number x, .number y => x.eqv y
  | .boolean a, .boolean b => a == b
  | .null, .null => true
  | _, _ => false

end Attribute

/-- The attributes of a user by name. -/
abbrev Attributes := Std.TreeMap String Attribute

namespace Attributes

/-- Reserved attribute that replaces the user id in bucketing. -/
def bucketingKey : String := "$opt_bucketing_id"

/-- The id that a user is bucketed by: the reserved attribute if it is a string, else the user id. -/
def bucketingId (attributes : Attributes) (userId : String) : String :=
  match attributes[bucketingKey]? with
  | some (.string id) => id
  | _ => userId

def toJson (attributes : Attributes) : Json :=
  .ofFields (attributes.toList.map fun (name, value) => (name, value.toJson))

/-- The attributes as name and value pairs in ascending order of the names. -/
def pairs (attributes : Attributes) : Json :=
  .array (attributes.toList.map fun (name, value) => .array [.string name, value.toJson])

/-- The hash of the written pairs. -/
def hash (attributes : Attributes) : UInt32 :=
  Murmur.hashText 0 attributes.pairs.text

/-- Eight hexadecimal digits of the hash. -/
def fingerprint (attributes : Attributes) : String :=
  let digits := Nat.toDigits 16 attributes.hash.toNat
  String.ofList (List.replicate (8 - digits.length) '0' ++ digits)

/-- The attributes whose names are among `names`. -/
def restrict (attributes : Attributes) (names : List String) : Attributes :=
  attributes.filter fun name _ => names.contains name

/-- Equality of attributes by `Attribute.eqv`. -/
def eqv (a b : Attributes) : Bool :=
  a.size == b.size && a.toList.all fun (name, value) => b[name]?.any value.eqv

end Attributes

end FlagEngine
