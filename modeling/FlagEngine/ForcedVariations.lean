import FlagEngine.Failure
import FlagEngine.Project

/-!
# Forced variations

What a client sets for its users, apart from any project: variations by user and experiment, all by id.
They outlive the project that they were set under.
-/

namespace FlagEngine

/-- Variation ids by user id and experiment id. -/
abbrev ForcedVariations := Index (Index String)

namespace ForcedVariations

/-- The id of the variation that is set for a user in an experiment. -/
def variationId? (m : ForcedVariations) (userId experimentId : String) : Option String :=
  m[userId]?.bind fun variations => variations[experimentId]?

/-- Sets the variation of a user in an experiment, or clears it. -/
def put (m : ForcedVariations) (userId experimentId : String) (variationId : Option String) :
    ForcedVariations :=
  let variations := m.getD userId ∅
  m.insert userId
    (match variationId with
    | some id => variations.insert experimentId id
    | none => variations.erase experimentId)

theorem variationId?_put (m : ForcedVariations) (userId userId' experimentId experimentId' : String)
    (variationId : Option String) :
    (m.put userId experimentId variationId).variationId? userId' experimentId'
      = if userId = userId' ∧ experimentId = experimentId' then variationId
        else m.variationId? userId' experimentId' := by
  simp only [variationId?, put, Std.TreeMap.getElem?_insert, Std.LawfulEqCmp.compare_eq_iff_eq,
    Std.TreeMap.getD_eq_getD_getElem?]
  by_cases hu : userId = userId'
  · subst hu
    cases variationId <;> by_cases he : experimentId = experimentId' <;>
      cases m[userId]? <;> simp [Std.TreeMap.getElem?_insert, Std.TreeMap.getElem?_erase, he]
  · simp [hu]

/-- Sets a variation by the keys that a project has for it and for its experiment, or clears it. -/
def set (m : ForcedVariations) (p : Project) (experimentKey userId : String)
    (variationKey : Option String) : Except Failure ForcedVariations :=
  match p.experimentByKey? experimentKey with
  | none => .error (.unknownExperiment experimentKey)
  | some e =>
    match variationKey with
    | none => .ok (m.put userId e.id none)
    | some key =>
      match e.rule.variationByKey? key with
      | some v => .ok (m.put userId e.id (some v.id))
      | none => .error (.unknownVariation experimentKey key)

end ForcedVariations

end FlagEngine
