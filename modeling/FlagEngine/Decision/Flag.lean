import FlagEngine.Decision.Experiment
import FlagEngine.Decision.Rollout
import FlagEngine.Holdouts

/-!
# Deciding a flag

A flag is decided by the first that serves the user: a decision forced for the whole flag, a holdout, an
experiment, a rule of the rollout. A failing bandit ends the search.
-/

namespace FlagEngine

open Deliberation (note)

namespace Flag

/-- Tries an experiment of a flag. -/
def tryExperiment (engine : Engine) (p : Project) (flag : Flag) (user : User) (options : Options)
    (e : Experiment) : Deliberation (Option Verdict) := do
  match ← user.forcedDecision? p (.ofRule flag.key e.key) with
  | some v => return some (.featureTest e v none)
  | none =>
    let served ← e.serve? engine p user.id user.attributes options
    return served.map fun s => .featureTest e s.variation s.banditUuid

/-- Tries experiments by their ids. Unknown ones are passed over. -/
def tryExperiments (engine : Engine) (p : Project) (flag : Flag) (user : User) (options : Options) :
    List String → Deliberation (Option Verdict)
  | [] => return none
  | id :: ids =>
    match p.experiment? id with
    | none => tryExperiments engine p flag user options ids
    | some e => do
      match ← flag.tryExperiment engine p user options e with
      | some verdict => return some verdict
      | none => tryExperiments engine p flag user options ids

/-- What the experiments of a flag serve. -/
def experimentVerdict? (engine : Engine) (p : Project) (flag : Flag) (user : User)
    (options : Options) : Deliberation (Option Verdict) :=
  if flag.experimentIds.isEmpty then do
    note (.noExperiments flag.key)
    return none
  else flag.tryExperiments engine p user options flag.experimentIds

/-- Decides a flag for a user. -/
def deliberate (engine : Engine) (p : Project) (flag : Flag) (user : User) (options : Options) :
    Deliberation Verdict := do
  match ← user.forcedDecision? p (.ofFlag flag.key) with
  | some v => return .forced v
  | none =>
    match ← p.holdout? engine.sharder flag user.id user.attributes with
    | some (h, v) => return .holdout h v
    | none =>
      match ← flag.experimentVerdict? engine p user options with
      | some verdict => return verdict
      | none => return (← flag.rolloutVerdict? engine.sharder p user).getD .nothing

end Flag

/-! ## Calls that use one profile -/

/-- The tracker of a call for a user, if the call uses profiles. -/
def Engine.tracker? (engine : Engine) (userId : String) (options : Options) : Option Tracker :=
  if engine.keepsProfiles && !options.contains .ignoreUserProfileService then some (.ofUser userId)
  else none

/-- Saves what has changed in a profile. -/
def Tracker.saveIfAny : Option Tracker → Plan Unit
  | none => return ()
  | some t => t.save

/-- Carries out one deliberation and then saves the profile, also if the deliberation fails. -/
def Deliberation.settle {α : Type} (x : Deliberation α) (tracker : Option Tracker) :
    Plan (Outcome α) := do
  let o ← x tracker
  Tracker.saveIfAny o.tracker
  return o

/-- Carries out deliberations one after the other on the same profile. -/
def Deliberation.each {α : Type} : List (Deliberation α) → Option Tracker →
    Plan (List (Outcome α) × Option Tracker)
  | [], tracker => return ([], tracker)
  | x :: xs, tracker => do
    let o ← x tracker
    let (os, tracker) ← each xs o.tracker
    return (o :: os, tracker)

/-- Carries out deliberations one after the other and then saves the profile. -/
def Deliberation.settleAll {α : Type} (xs : List (Deliberation α)) (tracker : Option Tracker) :
    Plan (List (Outcome α)) := do
  let (os, tracker) ← each xs tracker
  Tracker.saveIfAny tracker
  return os

end FlagEngine
