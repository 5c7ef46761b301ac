import FlagEngine.Project
import FlagEngine.Reason
import FlagEngine.Traffic

/-!
# Bucketing

The variation of a rule that a bucketing id is allocated to. In a group with the policy `random` the
group's own ranges first choose one of its experiments.
-/

namespace FlagEngine

open Reasoned (note)

/-- The variation that the ranges of a rule allocate. -/
def Rule.bucket? (sharder : Sharder) (r : Rule) (bucketingId : String) : Reasoned (Option Variation) :=
  if r.variations.isEmpty then return none
  else if r.traffic.isEmpty then do
    note (.noTraffic r.key)
    return none
  else
    match sharder.bucket? bucketingId r.id r.traffic with
    | none => return none
    | some id =>
      match r.variationById? id with
      | some v => return some v
      | none => do
        note (.unknownVariation id)
        return none

namespace Experiment

/-- Whether the ranges of a group choose an experiment. -/
def isChosen (sharder : Sharder) (p : Project) (e : Experiment) (g : Group) (bucketingId : String) :
    Reasoned Bool :=
  match sharder.bucket? bucketingId g.id g.traffic with
  | none => do
    note (.inNoExperiment bucketingId g.id)
    return false
  | some id =>
    match p.experiment? id with
    | none => do
      note (.unknownExperiment id)
      return false
    | some chosen =>
      if chosen.id = e.id then do
        note (.inExperimentOfGroup bucketingId e.key g.id)
        return true
      else do
        note (.inOtherExperiment bucketingId e.key g.id)
        return false

/-- Whether the group of an experiment, if it has one, lets a user in. -/
def passesGroup (sharder : Sharder) (p : Project) (e : Experiment) (bucketingId : String) :
    Reasoned Bool :=
  match p.groupOf? e.id with
  | none => return true
  | some g => if g.policy = .random then e.isChosen sharder p g bucketingId else return true

/-- The variation of an experiment that a user is allocated to. -/
def bucket? (sharder : Sharder) (p : Project) (e : Experiment) (bucketingId : String) :
    Reasoned (Option Variation) := do
  if ← e.passesGroup sharder p bucketingId then e.rule.bucket? sharder bucketingId
  else return none

end Experiment

end FlagEngine
