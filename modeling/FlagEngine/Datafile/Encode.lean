import FlagEngine.Datafile.Basic

/-!
# Writing datafiles

Every record becomes an object with all of its fields, except that what may be missing is left out when
it is none.
-/

namespace FlagEngine

namespace Encode

def texts (l : List String) : Json :=
  .array (l.map .string)

def word (n : UInt32) : Json :=
  .ofNat n.toNat

/-- A field, if there is a value for it. -/
def optional {α : Type} (name : String) (encode : α → Json) (value : Option α) : List (String × Json) :=
  (value.map fun v => (name, encode v)).toList

end Encode

open Encode

def Override.toJson (o : Override) : Json :=
  .ofFields [("id", .string o.id), ("value", .string o.value)]

def Variation.toJson (v : Variation) : Json :=
  .ofFields ([("id", .string v.id), ("key", .string v.key)]
    ++ optional "featureEnabled" .bool v.featureEnabled
    ++ [("variables", .array (v.overrides.map Override.toJson))])

def TrafficRange.toJson (r : TrafficRange) : Json :=
  .ofFields [("entityId", .string r.entityId), ("endOfRange", word r.endOfRange)]

def Experiment.Status.name : Experiment.Status → String
  | .running => "Running"
  | .launched => "Launched"
  | .paused => "Paused"
  | .notStarted => "Not started"
  | .archived => "Archived"
  | .unknown => "Unknown"

def Experiment.Bandit.toJson (b : Experiment.Bandit) : Json :=
  .ofFields [("trafficAllocation", word b.traffic), ("attributeIds", texts b.attributeIds)]

def Experiment.toJson (e : Experiment) : Json :=
  .ofFields ([
      ("id", .string e.id),
      ("key", .string e.key),
      ("status", .string e.status.name),
      ("layerId", .string e.layerId),
      ("variations", .array (e.variations.map Variation.toJson)),
      ("trafficAllocation", .array (e.traffic.map TrafficRange.toJson)),
      ("audienceIds", texts e.audienceIds)]
    ++ optional "audienceConditions" Condition.toJson e.conditions
    ++ [("forcedVariations", .ofFields (e.whitelist.map fun (user, key) => (user, .string key)))]
    ++ optional "cmab" Experiment.Bandit.toJson e.bandit)

def Holdout.Status.name : Holdout.Status → String
  | .draft => "Draft"
  | .running => "Running"
  | .concluded => "Concluded"
  | .archived => "Archived"
  | .unknown => "Unknown"

def Holdout.toJson (h : Holdout) : Json :=
  .ofFields ([
      ("id", .string h.id),
      ("key", .string h.key),
      ("status", .string h.status.name),
      ("variations", .array (h.variations.map Variation.toJson)),
      ("trafficAllocation", .array (h.traffic.map TrafficRange.toJson)),
      ("audienceIds", texts h.audienceIds)]
    ++ optional "audienceConditions" Condition.toJson h.conditions
    ++ [("includedFlags", texts h.included), ("excludedFlags", texts h.excluded)])

def Group.Policy.name : Group.Policy → String
  | .random => "random"
  | .overlapping => "overlapping"
  | .unknown => "unknown"

def Group.toJson (g : Group) : Json :=
  .ofFields [
    ("id", .string g.id),
    ("policy", .string g.policy.name),
    ("trafficAllocation", .array (g.traffic.map TrafficRange.toJson)),
    ("experiments", .array (g.experiments.map Experiment.toJson))]

def Variable.Kind.name : Variable.Kind → String
  | .string => "string"
  | .integer => "integer"
  | .double => "double"
  | .boolean => "boolean"
  | .json => "json"
  | .unknown => "unknown"

def Variable.toJson (v : Variable) : Json :=
  .ofFields ([("id", .string v.id), ("key", .string v.key), ("type", .string v.kind.name)]
    ++ optional "subType" .string v.subKind
    ++ [("defaultValue", .string v.defaultValue)])

def Flag.toJson (f : Flag) : Json :=
  .ofFields [
    ("id", .string f.id),
    ("key", .string f.key),
    ("rolloutId", .string f.rolloutId),
    ("experimentIds", texts f.experimentIds),
    ("variables", .array (f.vars.map Variable.toJson))]

def Rollout.toJson (r : Rollout) : Json :=
  .ofFields [("id", .string r.id), ("experiments", .array (r.rules.map Experiment.toJson))]

def AttributeKey.toJson (a : AttributeKey) : Json :=
  .ofFields [("id", .string a.id), ("key", .string a.key)]

def Audience.toJson (a : Audience) : Json :=
  .ofFields [("id", .string a.id), ("name", .string a.name), ("conditions", a.conditions.toJson)]

def Datafile.toJson (d : Datafile) : Json :=
  .ofFields [
    ("version", .string d.version),
    ("revision", .string d.revision),
    ("experiments", .array (d.experiments.map Experiment.toJson)),
    ("groups", .array (d.groups.map Group.toJson)),
    ("featureFlags", .array (d.flags.map Flag.toJson)),
    ("rollouts", .array (d.rollouts.map Rollout.toJson)),
    ("attributes", .array (d.attributes.map AttributeKey.toJson)),
    ("audiences", .array (d.audiences.map Audience.toJson)),
    ("typedAudiences", .array (d.typedAudiences.map Audience.toJson)),
    ("holdouts", .array (d.holdouts.map Holdout.toJson)),
    ("sendFlagDecisions", .bool d.sendFlagDecisions)]

end FlagEngine
