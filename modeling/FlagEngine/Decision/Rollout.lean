import FlagEngine.Bucketing
import FlagEngine.Decision.Verdict
import FlagEngine.Overrides
import FlagEngine.Targeting
import FlagEngine.Text.Blank

/-!
# Deciding by a rollout

The rules of a rollout are tried in order. A rule whose audience does not cover the user is passed over;
one that covers the user and has no traffic for it leaves only the last rule, the one for everyone else.
-/

namespace FlagEngine

open Reasoned (note)

namespace Rollout

/-- What comes of one rule. -/
inductive Trial where
  | served (v : Variation)
  /-- The audience does not cover the user. -/
  | uncovered
  /-- The audience covers the user, but the traffic does not. -/
  | outside
deriving DecidableEq, Inhabited

/-- The name of the last rule in reasons. The others go by their number. -/
def lastName : String := "Everyone Else"

/-- Tries one rule of a flag's rollout. -/
def tryRule (sharder : Sharder) (p : Project) (flagKey : String) (user : User) (rule : Experiment)
    (name : String) : Reasoned Trial := do
  match ← user.forcedDecision? p (.ofRule flagKey rule.key) with
  | some v => return .served v
  | none =>
    let covered ← rule.rule.admits p name user.attributes
    note (.ruleConditions covered user.id name)
    if covered then
      match ← rule.rule.bucket? sharder (user.attributes.bucketingId user.id) with
      | some v =>
        note (.inRuleTraffic user.id name)
        return .served v
      | none => return .outside
    else return .uncovered

/-- Tries the rules in order, the first of them having the given number. -/
def tryRules (sharder : Sharder) (p : Project) (flagKey : String) (user : User) :
    Nat → List Experiment → Reasoned (Option (Experiment × Variation))
  | _, [] => return none
  | number, rule :: rest => do
    let name := if rest.isEmpty then lastName else number.repr
    match ← tryRule sharder p flagKey user rule name with
    | .served v => return some (rule, v)
    | .uncovered => tryRules sharder p flagKey user (number + 1) rest
    | .outside =>
      match rest.getLast? with
      | none => return none
      | some last =>
        note (.outsideRuleTraffic user.id name)
        match ← tryRule sharder p flagKey user last lastName with
        | .served v => return some (last, v)
        | .uncovered | .outside => return none

end Rollout

/-- What the rollout of a flag serves. -/
def Flag.rolloutVerdict? (sharder : Sharder) (p : Project) (flag : Flag) (user : User) :
    Reasoned (Option Verdict) :=
  let rolloutId := Text.trim flag.rolloutId
  if rolloutId.isEmpty then do
    note (.noRollout flag.key)
    return none
  else
    match p.rollout? rolloutId with
    | none => do
      note (.unknownRollout rolloutId flag.key)
      return none
    | some rollout =>
      if rollout.rules.isEmpty then do
        note (.emptyRollout rolloutId)
        return none
      else do
        let served ← Rollout.tryRules sharder p flag.key user 1 rollout.rules
        return served.map fun (rule, v) => .rollout rule v

end FlagEngine
