import FlagEngine.Bucketing
import FlagEngine.Deliberation
import FlagEngine.Engine
import FlagEngine.Overrides
import FlagEngine.Targeting

/-!
# Deciding an experiment

A running experiment serves the variation that is set for the user by the client, by the whitelist or by
the user's profile. Otherwise, if its audience covers the user, its ranges or its bandit choose one.
-/

namespace FlagEngine

open Deliberation (note)

/-- A variation that an experiment serves. The uuid is there if its bandit has chosen it. -/
structure Served where
  variation : Variation
  banditUuid : Option String
deriving DecidableEq, Inhabited

namespace Experiment

/-- The variation that is set for a user, whatever the audience and the traffic. -/
def overridden? (e : Experiment) (userId : String) : Deliberation (Option Variation) := do
  let variationId : Option String ← Plan.query (.forcedVariation userId e.id)
  match ← e.forcedVariation? userId variationId with
  | some v => return some v
  | none => e.whitelisted? userId

/-- The variation that the profile of a user names. What a bandit has chosen is never saved. -/
def saved? (e : Experiment) (userId : String) : Deliberation (Option Variation) :=
  if e.bandit.isSome then return none
  else do
    let variationId ← Deliberation.saved? e.id
    match variationId.bind e.rule.variationById? with
    | some v =>
      note (.savedVariation v.key e.key userId)
      return some v
    | none => return none

/-- Whether the traffic of a bandit admits a bucketing id. -/
def isInBanditTraffic (engine : Engine) (e : Experiment) (b : Experiment.Bandit)
    (bucketingId : String) : Bool :=
  let isIn ranges := (engine.sharder.bucket? bucketingId e.id ranges).isSome
  (engine.admission == .banditTraffic || isIn e.traffic) && isIn [⟨"$", b.traffic⟩]

/-- The variation that the bandit of an experiment chooses. -/
def chosen? (engine : Engine) (p : Project) (e : Experiment) (b : Experiment.Bandit) (userId : String)
    (attributes : Attributes) (options : Options) : Deliberation (Option Served) := do
  let bucketingId := attributes.bucketingId userId
  if ← e.passesGroup engine.sharder p bucketingId then
    if e.isInBanditTraffic engine b bucketingId then
      if engine.hasBandit then
        match ← Bandit.consult p userId attributes e.id options.cacheOptions with
        | .error f => Deliberation.fail (.banditFailed e.key) f
        | .ok choice =>
          match e.rule.variationById? choice.variationId with
          | some v => return some ⟨v, some choice.uuid⟩
          | none =>
            note (.unknownVariation choice.variationId)
            return none
      else Deliberation.fail (.banditFailed e.key) .noClient
    else
      note (.outsideBanditTraffic userId e.key)
      return none
  else return none

/-- The variation that the ranges of an experiment or its bandit choose. -/
def allocated? (engine : Engine) (p : Project) (e : Experiment) (userId : String)
    (attributes : Attributes) (options : Options) : Deliberation (Option Served) :=
  match e.bandit with
  | some b => e.chosen? engine p b userId attributes options
  | none => do
    let v ← e.bucket? engine.sharder p (attributes.bucketingId userId)
    return v.map fun v => ⟨v, none⟩

/-- The variation of a user who is covered by the audience. The user is kept in it, unless a bandit has
chosen it. -/
def targeted? (engine : Engine) (p : Project) (e : Experiment) (userId : String)
    (attributes : Attributes) (options : Options) : Deliberation (Option Served) := do
  if ← e.rule.admits p e.key attributes then
    match ← e.allocated? engine p userId attributes options with
    | some served =>
      note (.inVariation userId served.variation.key e.key)
      if e.bandit.isNone then Deliberation.record e.id served.variation.id
      return some served
    | none =>
      note (.inNoVariation userId)
      return none
  else
    note (.experimentConditions userId e.key)
    return none

/-- The variation that an experiment serves to a user. -/
def serve? (engine : Engine) (p : Project) (e : Experiment) (userId : String)
    (attributes : Attributes) (options : Options) : Deliberation (Option Served) :=
  if e.rule.isRunning then do
    match ← e.overridden? userId with
    | some v => return some ⟨v, none⟩
    | none =>
      match ← e.saved? userId with
      | some v => return some ⟨v, none⟩
      | none => e.targeted? engine p userId attributes options
  else do
    note (.experimentNotRunning e.key)
    return none

end Experiment

end FlagEngine
