import FlagEngine.Condition.Tree

/-!
# Datafiles

What a project publishes: its experiments, groups, flags, rollouts, attributes, audiences and holdouts,
each in the order in which they are listed.
-/

namespace FlagEngine

/-- The value that a variation gives to a flag variable. -/
structure Override where
  id : String
  value : String
deriving DecidableEq, Inhabited

/-- One of the outcomes of a rule. -/
structure Variation where
  id : String
  key : String
  featureEnabled : Option Bool
  overrides : List Override
deriving DecidableEq, Inhabited

/-- Whether the feature is on in this variation. -/
def Variation.isEnabled (v : Variation) : Bool :=
  v.featureEnabled == some true

/-- A range of bucket values that ends before `endOfRange` and begins where the range before it ends. -/
structure TrafficRange where
  entityId : String
  endOfRange : UInt32
deriving DecidableEq, Inhabited

/-- What the engine needs of a rule, be it an experiment, a rollout rule or a holdout. -/
structure Rule where
  id : String
  key : String
  isRunning : Bool
  variations : List Variation
  traffic : List TrafficRange
  audienceIds : List String
  conditions : Option Condition
deriving Inhabited

namespace Rule

def variationById? (r : Rule) (id : String) : Option Variation :=
  r.variations.find? fun v => v.id == id

def variationByKey? (r : Rule) (key : String) : Option Variation :=
  r.variations.find? fun v => v.key == key

end Rule

inductive Experiment.Status where
  | running
  | launched
  | paused
  | notStarted
  | archived
  | unknown
deriving DecidableEq, Inhabited

/-- Lets a contextual bandit choose the variation of an experiment. -/
structure Experiment.Bandit where
  /-- End of the range of bucket values that are admitted. -/
  traffic : UInt32
  /-- Ids of the attributes that the bandit is told. -/
  attributeIds : List String
deriving DecidableEq, Inhabited

/-- A feature test, or a targeting rule of a rollout. -/
structure Experiment where
  id : String
  key : String
  status : Experiment.Status
  layerId : String
  variations : List Variation
  traffic : List TrafficRange
  audienceIds : List String
  conditions : Option Condition
  /-- Variation keys by user id, in ascending order of the users. -/
  whitelist : List (String × String)
  bandit : Option Experiment.Bandit
deriving Inhabited

def Experiment.rule (e : Experiment) : Rule where
  id := e.id
  key := e.key
  isRunning := e.status == .running
  variations := e.variations
  traffic := e.traffic
  audienceIds := e.audienceIds
  conditions := e.conditions

inductive Holdout.Status where
  | draft
  | running
  | concluded
  | archived
  | unknown
deriving DecidableEq, Inhabited

/-- A rule across flags that keeps users out of their experiments. -/
structure Holdout where
  id : String
  key : String
  status : Holdout.Status
  variations : List Variation
  traffic : List TrafficRange
  audienceIds : List String
  conditions : Option Condition
  /-- Ids of the flags that it is limited to; empty for all flags. -/
  included : List String
  /-- Ids of the flags that it never applies to. -/
  excluded : List String
deriving Inhabited

namespace Holdout

def rule (h : Holdout) : Rule where
  id := h.id
  key := h.key
  isRunning := h.status == .running
  variations := h.variations
  traffic := h.traffic
  audienceIds := h.audienceIds
  conditions := h.conditions

def appliesTo (h : Holdout) (flagId : String) : Bool :=
  (h.included.isEmpty || h.included.contains flagId) && !h.excluded.contains flagId

end Holdout

/-- How the experiments of a group share their users. -/
inductive Group.Policy where
  /-- A user is in at most one experiment of the group. -/
  | random
  | overlapping
  | unknown
deriving DecidableEq, Inhabited

structure Group where
  id : String
  policy : Group.Policy
  /-- Ranges whose entities are experiments. -/
  traffic : List TrafficRange
  experiments : List Experiment
deriving Inhabited

inductive Variable.Kind where
  | string
  | integer
  | double
  | boolean
  | json
  | unknown
deriving DecidableEq, Inhabited

/-- A variable of a flag. -/
structure Variable where
  id : String
  key : String
  kind : Variable.Kind
  subKind : Option String
  defaultValue : String
deriving DecidableEq, Inhabited

structure Flag where
  id : String
  key : String
  rolloutId : String
  /-- Ids of the feature tests in the order in which they are tried. -/
  experimentIds : List String
  vars : List Variable
deriving DecidableEq, Inhabited

/-- The targeting rules of a flag. The last one is for everyone else. -/
structure Rollout where
  id : String
  rules : List Experiment
deriving Inhabited

/-- The name of an attribute that bandits refer to by its id. -/
structure AttributeKey where
  id : String
  key : String
deriving DecidableEq, Inhabited

structure Audience where
  id : String
  name : String
  conditions : Condition
deriving Inhabited

/-- A published project. -/
structure Datafile where
  version : String
  revision : String
  experiments : List Experiment
  groups : List Group
  flags : List Flag
  rollouts : List Rollout
  attributes : List AttributeKey
  audiences : List Audience
  typedAudiences : List Audience
  holdouts : List Holdout
  /-- Whether decisions of rollouts, and those that serve nothing, count as impressions. -/
  sendFlagDecisions : Bool
deriving Inhabited

end FlagEngine
