import FlagEngine.Bucketing
import FlagEngine.Targeting

/-!
# Holdouts

The first holdout that applies to a flag and allocates the user to one of its variations.
-/

namespace FlagEngine

open Reasoned (note)

/-- The variation of a holdout that a user is in. -/
def Holdout.serve? (sharder : Sharder) (p : Project) (h : Holdout) (userId : String)
    (attributes : Attributes) : Reasoned (Option Variation) :=
  if !h.rule.isRunning then do
    note (.holdoutNotRunning h.key)
    return none
  else if h.variations.isEmpty || h.traffic.isEmpty then return none
  else do
    if ← h.rule.admits p h.key attributes then
      let served ← h.rule.bucket? sharder (attributes.bucketingId userId)
      match served with
      | some v => note (.inHoldout userId v.key h.key)
      | none => note (.inNoHoldoutVariation userId h.key)
      return served
    else
      note (.holdoutConditions userId h.key)
      return none

namespace Holdout

/-- The first of some holdouts that serves a user of the flag with the given id. -/
def first? (sharder : Sharder) (p : Project) (flagId userId : String) (attributes : Attributes) :
    List Holdout → Reasoned (Option (Holdout × Variation))
  | [] => return none
  | h :: hs =>
    if h.appliesTo flagId then do
      match ← h.serve? sharder p userId attributes with
      | some v => return some (h, v)
      | none => first? sharder p flagId userId attributes hs
    else first? sharder p flagId userId attributes hs

end Holdout

/-- The holdout that serves a user of a flag, and its variation. -/
def Project.holdout? (sharder : Sharder) (p : Project) (flag : Flag) (userId : String)
    (attributes : Attributes) : Reasoned (Option (Holdout × Variation)) :=
  Holdout.first? sharder p flag.id userId attributes p.holdouts

end FlagEngine
