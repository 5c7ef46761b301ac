import FlagEngine.Decision.Flag
import FlagEngine.Services
import FlagEngine.Variables

/-!
# Clients

The calls of a client: deciding flags, and asking for the variation of an experiment outside any flag.
Every call asks for the project in force once and keeps to it. The events of a call are part of its
outcome.
-/

namespace FlagEngine

/-- What is answered about one flag. -/
structure Decision where
  variationKey : Option String
  enabled : Bool
  /-- Values by the key of the variable. -/
  values : List (String × Json)
  ruleKey : Option String
  flagKey : String
  userId : String
  attributes : Attributes
  reasons : List String

namespace Decision

/-- The decision that tells of a failure. -/
def ofFailure (flagKey : String) (user : User) (reasons : List String) : Decision where
  variationKey := none
  enabled := false
  values := []
  ruleKey := none
  flagKey
  userId := user.id
  attributes := user.attributes
  reasons

instance : Inhabited Decision := ⟨.ofFailure "" default []⟩

end Decision

/-- What kind of call an event is about. -/
inductive Event.Kind where
  | flag
  | experiment
deriving DecidableEq, Repr, Inhabited

def Event.Kind.name : Event.Kind → String
  | .flag => "flag"
  | .experiment => "ab-test"

/-- What is made known about one decision. -/
structure Event where
  kind : Event.Kind
  userId : String
  attributes : Attributes
  flagKey : String
  ruleKey : Option String
  variationKey : Option String
  enabled : Bool
  source : Source
  values : List (String × Json)
  reasons : List String
  banditUuid : Option String
  /-- Whether the decision counts as an impression. -/
  isImpression : Bool

/-- Whether a verdict counts as an impression. -/
def Verdict.isImpression (x : Verdict) (p : Project) (options : Options) : Bool :=
  !options.contains .disableDecisionEvent
    && (p.sendFlagDecisions || (x.source != .rollout && x.variation?.isSome))

/-- The decision and the event of a verdict. -/
def Verdict.decision (x : Verdict) (p : Project) (flag : Flag) (user : User) (options : Options)
    (reasons : List Reason) : Decision × Event :=
  let values : Reasoned (List (String × Json)) :=
    if options.contains .excludeVariables then pure [] else flag.values x.variation?
  let report := Reason.report (options.contains .includeReasons) (reasons ++ values.reasons)
  let decision : Decision := {
    variationKey := x.variation?.map (·.key)
    enabled := x.isEnabled
    values := values.value
    ruleKey := x.rule?.map (·.key)
    flagKey := flag.key
    userId := user.id
    attributes := user.attributes
    reasons := report }
  (decision, {
    kind := .flag
    userId := decision.userId
    attributes := decision.attributes
    flagKey := decision.flagKey
    ruleKey := decision.ruleKey
    variationKey := decision.variationKey
    enabled := decision.enabled
    source := x.source
    values := decision.values
    reasons := decision.reasons
    banditUuid := x.banditUuid?
    isImpression := x.isImpression p options })

/-- The decision of an outcome, and its event unless the outcome is a failure. -/
def Outcome.decision (o : Outcome Verdict) (p : Project) (flag : Flag) (user : User)
    (options : Options) : Decision × List Event :=
  match o.result with
  | .error f =>
    let reasons := o.reasons ++ [.failed f.message]
    (.ofFailure flag.key user (Reason.report (options.contains .includeReasons) reasons), [])
  | .ok verdict =>
    let (decision, event) := verdict.decision p flag user options o.reasons
    (decision, [event])

namespace Engine

/-- The decision that tells why a flag is not decided. -/
def refuse (flagKey : String) (user : User) (f : Failure) : Decision :=
  .ofFailure flagKey user [f.message]

/-- Decides a flag for a user. -/
def decide (engine : Engine) (user : User) (flagKey : String) (options : Options) :
    Plan (Decision × List Event) := do
  let options := engine.defaults.union options
  let project : Option Project ← Plan.query .project
  match project with
  | none => return (refuse flagKey user .notConfigured, [])
  | some p =>
    match p.flag? flagKey with
    | none => return (refuse flagKey user (.unknownFlag flagKey), [])
    | some flag =>
      let o ← (flag.deliberate engine p user options).settle (engine.tracker? user.id options)
      return o.decision p flag user options

/-- Decides some flags of a project for a user, reading and saving the profile once. -/
def decideIn (engine : Engine) (p : Project) (user : User) (flagKeys : List String)
    (options : Options) : Plan (Index Decision × List Event) := do
  let options := engine.defaults.union options
  let flags := flagKeys.filterMap p.flag?
  let unknown := flagKeys.filter fun key => (p.flag? key).isNone
  let outcomes ← Deliberation.settleAll
    (flags.map fun flag => flag.deliberate engine p user options) (engine.tracker? user.id options)
  let decided := List.zipWith (fun flag o => o.decision p flag user options) flags outcomes
  let decisions := unknown.map (fun key => refuse key user (.unknownFlag key)) ++ decided.map (·.1)
  let byKey : Index Decision := .lastBy (·.flagKey) decisions
  let kept :=
    if options.contains .enabledFlagsOnly then byKey.filter fun _ d => d.enabled else byKey
  return (kept, decided.flatMap (·.2))

/-- Decides some flags for a user. Without a project there are no decisions. -/
def decideEach (engine : Engine) (user : User) (flagKeys : List String) (options : Options) :
    Plan (Index Decision × List Event) := do
  let project : Option Project ← Plan.query .project
  match project with
  | none => return (∅, [])
  | some p => engine.decideIn p user flagKeys options

/-- Decides all flags for a user. -/
def decideAll (engine : Engine) (user : User) (options : Options) :
    Plan (Index Decision × List Event) := do
  let project : Option Project ← Plan.query .project
  match project with
  | none => return (∅, [])
  | some p => engine.decideIn p user (p.flags.map (·.key)) options

/-- The event of asking for the variation of an experiment. -/
def experimentEvent (experimentKey userId : String) (attributes : Attributes) (v : Option Variation)
    (reasons : List String) : Event where
  kind := .experiment
  userId
  attributes
  flagKey := experimentKey
  ruleKey := some experimentKey
  variationKey := v.map (·.key)
  enabled := v.any Variation.isEnabled
  source := .featureTest
  values := []
  reasons
  banditUuid := none
  isImpression := false

/-- The key of the variation that an experiment serves to a user. -/
def variationOf (engine : Engine) (experimentKey userId : String) (attributes : Attributes) :
    Plan (Except Failure (Option String) × List Event) := do
  let options := engine.defaults
  let project : Option Project ← Plan.query .project
  match project with
  | none => return (.error .notConfigured, [])
  | some p =>
    match p.experimentByKey? experimentKey with
    | none => return (.error (.unknownExperiment experimentKey), [])
    | some e =>
      let o ← (e.serve? engine p userId attributes options).settle (engine.tracker? userId options)
      match o.result with
      | .error f => return (.error (.bandit f), [])
      | .ok served =>
        let v := served.map (·.variation)
        let reasons := Reason.report (options.contains .includeReasons) o.reasons
        return (.ok (v.map (·.key)), [experimentEvent experimentKey userId attributes v reasons])

end Engine

namespace Services

/-- Sets the variation of a user in an experiment by its key, or clears it. -/
def forceVariation (s : Services) (experimentKey userId : String) (variationKey : Option String) :
    Except Failure Services :=
  match s.project with
  | none => .error .notConfigured
  | some p => do return { s with forced := ← s.forced.set p experimentKey userId variationKey }

/-- The key of the variation that is set for a user in an experiment. -/
def forcedVariation? (s : Services) (experimentKey userId : String) : Option String := do
  let p ← s.project
  let e ← p.experimentByKey? experimentKey
  let v ← (e.forcedVariation? userId (s.forced.variationId? userId e.id)).value
  return v.key

end Services

end FlagEngine
