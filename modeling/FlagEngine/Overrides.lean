import FlagEngine.Project
import FlagEngine.Reason

/-!
# Overrides

Variations that are set rather than found: forced decisions of a user, forced variations of a client and
the whitelist of an experiment. One that the project does not have any more is passed over.
-/

namespace FlagEngine

open Reasoned (note)

/-- The decision that a user forces at a point. -/
def User.forcedDecision? (u : User) (p : Project) (point : DecisionPoint) :
    Reasoned (Option Variation) :=
  match u.forced[point]? with
  | none => return none
  | some key =>
    match p.flagVariation? point.flagKey key with
    | some v => do
      note (.forcedDecision key point u.id)
      return some v
    | none => do
      note (.staleForcedDecision point u.id)
      return none

namespace Experiment

/-- The variation whose id a client has set for a user. -/
def forcedVariation? (e : Experiment) (userId : String) (variationId : Option String) :
    Reasoned (Option Variation) :=
  match variationId with
  | none => return none
  | some id =>
    match e.rule.variationById? id with
    | some v => do
      note (.forcedVariation v.key e.key userId)
      return some v
    | none => do
      note (.staleForcedVariation id e.key userId)
      return none

/-- The variation that the whitelist names for a user. -/
def whitelisted? (e : Experiment) (userId : String) : Reasoned (Option Variation) :=
  match e.whitelist.lookup userId with
  | none => return none
  | some key =>
    match e.rule.variationByKey? key with
    | some v => do
      note (.whitelisted key userId)
      return some v
    | none => do
      note (.staleWhitelist key userId)
      return none

end Experiment

end FlagEngine
