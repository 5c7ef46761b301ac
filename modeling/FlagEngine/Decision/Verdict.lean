import FlagEngine.Datafile.Basic

/-!
# Verdicts

Which stage has decided a flag for a user, by which rule, and what it serves.
-/

namespace FlagEngine

/-- The stages that a decision may come from. -/
inductive Source where
  | forced
  | holdout
  | featureTest
  | rollout
deriving DecidableEq, Repr, Inhabited

def Source.name : Source → String
  | .forced => "forced"
  | .holdout => "holdout"
  | .featureTest => "feature-test"
  | .rollout => "rollout"

inductive Verdict where
  /-- A decision forced for the whole flag. -/
  | forced (v : Variation)
  | holdout (h : Holdout) (v : Variation)
  /-- An experiment of the flag. The uuid is there if its bandit has chosen the variation. -/
  | featureTest (e : Experiment) (v : Variation) (banditUuid : Option String)
  | rollout (rule : Experiment) (v : Variation)
  /-- No rule serves the user. -/
  | nothing
deriving Inhabited

namespace Verdict

def source : Verdict → Source
  | .forced _ => .forced
  | .holdout _ _ => .holdout
  | .featureTest _ _ _ => .featureTest
  | .rollout _ _ | .nothing => .rollout

def rule? : Verdict → Option Rule
  | .holdout h _ => some h.rule
  | .featureTest e _ _ => some e.rule
  | .rollout rule _ => some rule.rule
  | .forced _ | .nothing => none

def variation? : Verdict → Option Variation
  | .forced v | .holdout _ v | .featureTest _ v _ | .rollout _ v => some v
  | .nothing => none

def banditUuid? : Verdict → Option String
  | .featureTest _ _ banditUuid => banditUuid
  | _ => none

def isEnabled (x : Verdict) : Bool :=
  x.variation?.any Variation.isEnabled

end Verdict

end FlagEngine
