import FlagEngine.Datafile.Basic
import FlagEngine.Index

/-!
# Projects

A datafile indexed for the look-ups that decisions need.
-/

namespace FlagEngine

namespace Datafile

/-- The experiments of the project and then those of its groups. Rollout rules are not among them. -/
def allExperiments (d : Datafile) : List Experiment :=
  d.experiments ++ d.groups.flatMap (·.experiments)

/-- Each experiment of a group with its group, both by id. -/
def memberships (d : Datafile) : List (String × String) :=
  d.groups.flatMap fun g => g.experiments.map fun e => (e.id, g.id)

end Datafile

/-- A project in force. -/
structure Project where
  revision : String
  sendFlagDecisions : Bool
  experiments : Index Experiment
  experimentIds : Index String
  /-- Groups without their experiments. -/
  groups : Index Group
  groupIds : Index String
  /-- All flags in the order in which they are listed. -/
  flags : List Flag
  flagsByKey : Index Flag
  rollouts : Index Rollout
  attributeNames : Index String
  audiences : Index Audience
  /-- All holdouts in the order in which they are tried. -/
  holdouts : List Holdout
  /-- By flag and variation key, the variations that a decision can be forced to. -/
  flagVariations : Index (Index Variation)
deriving Inhabited

namespace Project

/-- The variations of a flag's experiments and then of the rules of its rollout. -/
def variationsOf (experiments : Index Experiment) (rollouts : Index Rollout) (flag : Flag) :
    List Variation :=
  (flag.experimentIds.filterMap fun id => experiments[id]?).flatMap (·.variations)
    ++ (rollouts[flag.rolloutId]?.toList.flatMap (·.rules)).flatMap (·.variations)

def ofDatafile (d : Datafile) : Project :=
  let experiments := Index.lastBy (·.id) d.allExperiments
  let rollouts := Index.lastBy (·.id) d.rollouts
  { revision := d.revision
    sendFlagDecisions := d.sendFlagDecisions
    experiments
    experimentIds := .ofLast (d.allExperiments.map fun e => (e.key, e.id))
    groups := .lastBy (·.id) (d.groups.map fun g => { g with experiments := [] })
    groupIds := .ofLast d.memberships
    flags := d.flags
    flagsByKey := .lastBy (·.key) d.flags
    rollouts
    attributeNames := .ofLast (d.attributes.map fun a => (a.id, a.key))
    audiences := .lastBy (·.id) (d.audiences ++ d.typedAudiences)
    holdouts := d.holdouts
    flagVariations := .ofLast
      (d.flags.map fun f => (f.key, .firstBy (·.key) (variationsOf experiments rollouts f))) }

def experiment? (p : Project) (id : String) : Option Experiment :=
  p.experiments[id]?

def experimentByKey? (p : Project) (key : String) : Option Experiment :=
  p.experimentIds[key]?.bind p.experiment?

/-- The group of the experiment with the given id. -/
def groupOf? (p : Project) (experimentId : String) : Option Group :=
  p.groupIds[experimentId]?.bind fun id => p.groups[id]?

def flag? (p : Project) (key : String) : Option Flag :=
  p.flagsByKey[key]?

def rollout? (p : Project) (id : String) : Option Rollout :=
  p.rollouts[id]?

/-- The name of the attribute with the given id. -/
def attributeName? (p : Project) (id : String) : Option String :=
  p.attributeNames[id]?

def audience? (p : Project) (id : String) : Option Audience :=
  p.audiences[id]?

/-- The variation that a decision for a flag can be forced to by its key. -/
def flagVariation? (p : Project) (flagKey variationKey : String) : Option Variation :=
  p.flagVariations[flagKey]?.bind fun variations => variations[variationKey]?

end Project

end FlagEngine
