/-!
# Truth values

Strong Kleene logic: what is not known stands between false and true.
-/

namespace FlagEngine

/-- A truth value that may be unknown. -/
inductive Truth where
  | no
  | unknown
  | yes
deriving DecidableEq, Repr

namespace Truth

def ofBool (b : Bool) : Truth :=
  if b then .yes else .no

def not : Truth → Truth
  | .no => .yes
  | .unknown => .unknown
  | .yes => .no

/-- The lesser of two truth values. -/
def and : Truth → Truth → Truth
  | .no, _ | _, .no => .no
  | .yes, .yes => .yes
  | _, _ => .unknown

/-- The greater of two truth values. -/
def or : Truth → Truth → Truth
  | .yes, _ | _, .yes => .yes
  | .no, .no => .no
  | _, _ => .unknown

/-- The word written for a truth value. -/
def name : Truth → String
  | .no => "FALSE"
  | .unknown => "UNKNOWN"
  | .yes => "TRUE"

@[simp] theorem not_not (a : Truth) : a.not.not = a := by cases a <;> rfl

@[simp] theorem no_and (a : Truth) : Truth.and .no a = .no := by cases a <;> rfl

@[simp] theorem yes_or (a : Truth) : Truth.or .yes a = .yes := by cases a <;> rfl

theorem and_comm (a b : Truth) : a.and b = b.and a := by cases a <;> cases b <;> rfl

theorem or_comm (a b : Truth) : a.or b = b.or a := by cases a <;> cases b <;> rfl

theorem not_and (a b : Truth) : (a.and b).not = a.not.or b.not := by cases a <;> cases b <;> rfl

end Truth

end FlagEngine
