import FlagEngine.Attribute

/-!
# Users

A user has an id, attributes, and decisions that are forced for a flag or for one of its rules.
-/

namespace FlagEngine

/-- A place where a decision can be forced: a flag, or one rule of a flag. -/
structure DecisionPoint where
  flagKey : String
  ruleKey : Option String
deriving DecidableEq, Repr

namespace DecisionPoint

def ofFlag (flagKey : String) : DecisionPoint :=
  ⟨flagKey, none⟩

def ofRule (flagKey ruleKey : String) : DecisionPoint :=
  ⟨flagKey, some ruleKey⟩

def text (p : DecisionPoint) : String :=
  "flag (" ++ p.flagKey ++ ")"
    ++ match p.ruleKey with
      | some ruleKey => ", rule (" ++ ruleKey ++ ")"
      | none => ""

instance : Ord DecisionPoint :=
  ⟨compareLex (compareOn flagKey) (compareOn ruleKey)⟩

instance : Std.TransOrd DecisionPoint :=
  inferInstanceAs (Std.TransCmp (compareLex (compareOn flagKey) (compareOn ruleKey)))

private theorem eq_of_compare_option : {a b : Option String} → compare a b = .eq → a = b
  | none, none, _ => rfl
  | some a, some b, h =>
    have h' : compare a b = .eq := h
    congrArg some (Std.LawfulEqOrd.eq_of_compare h')
  | none, some _, h => nomatch h
  | some _, none, h => nomatch h

instance : Std.LawfulEqOrd DecisionPoint where
  eq_of_compare {a b} h := by
    obtain ⟨f, r⟩ := a
    obtain ⟨g, s⟩ := b
    have h' : (compare f g).then (compare r s) = .eq := h
    rw [Ordering.then_eq_eq] at h'
    rw [Std.LawfulEqOrd.eq_of_compare h'.1, eq_of_compare_option h'.2]

end DecisionPoint

/-- The variation keys that are forced for a user. -/
abbrev ForcedDecisions := Std.TreeMap DecisionPoint String

/-- A user that decisions are made for. -/
structure User where
  id : String
  attributes : Attributes
  forced : ForcedDecisions
deriving Inhabited

/-- Equality of users, the attributes by `Attributes.eqv`. -/
def User.eqv (a b : User) : Bool :=
  a.id == b.id && a.attributes.eqv b.attributes && a.forced.toList == b.forced.toList

end FlagEngine
