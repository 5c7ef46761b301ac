import FlagEngine.Condition.Tree
import FlagEngine.User

/-!
# Reasons

What happened on the way to a decision. `Reasoned` pairs a value with the reasons for it, in the order
in which they came up. Reports give the errors first and the rest only on demand.
-/

namespace FlagEngine

/-- What is told of one reason. -/
structure Remark where
  isError : Bool
  text : String
deriving DecidableEq, Repr, Inhabited

namespace Remark

def errors (remarks : List Remark) : List String :=
  (remarks.filter (·.isError)).map text

def infos (remarks : List Remark) : List String :=
  (remarks.filter (!·.isError)).map text

/-- All errors, followed by the other remarks if they are asked for. -/
def report (withInfos : Bool) (remarks : List Remark) : List String :=
  errors remarks ++ if withInfos then infos remarks else []

end Remark

/-- A step on the way to a decision. -/
inductive Reason where
  -- Audiences
  | unknownAudience (id : String)
  | nestedAudience (id nested : String)
  | malformedCondition (json : Json)
  | testFault (t : Condition.Test) (fault : Condition.Test.Fault)
  | audiences (ruleName : String) (value : Truth)
  -- Traffic
  | noTraffic (ruleKey : String)
  | unknownVariation (id : String)
  | unknownExperiment (id : String)
  | inNoExperiment (bucketingId groupId : String)
  | inOtherExperiment (bucketingId experimentKey groupId : String)
  | inExperimentOfGroup (bucketingId experimentKey groupId : String)
  -- Holdouts
  | holdoutNotRunning (holdoutKey : String)
  | holdoutConditions (userId holdoutKey : String)
  | inHoldout (userId variationKey holdoutKey : String)
  | inNoHoldoutVariation (userId holdoutKey : String)
  -- Overrides
  | forcedDecision (variationKey : String) (point : DecisionPoint) (userId : String)
  | staleForcedDecision (point : DecisionPoint) (userId : String)
  | forcedVariation (variationKey experimentKey userId : String)
  | staleForcedVariation (variationId experimentKey userId : String)
  | whitelisted (variationKey userId : String)
  | staleWhitelist (variationKey userId : String)
  -- Experiments
  | noExperiments (flagKey : String)
  | experimentNotRunning (experimentKey : String)
  | savedVariation (variationKey experimentKey userId : String)
  | experimentConditions (userId experimentKey : String)
  | outsideBanditTraffic (userId experimentKey : String)
  | banditFailed (experimentKey : String)
  | inVariation (userId variationKey experimentKey : String)
  | inNoVariation (userId : String)
  -- Rollouts
  | noRollout (flagKey : String)
  | unknownRollout (rolloutId flagKey : String)
  | emptyRollout (rolloutId : String)
  | ruleConditions (met : Bool) (userId ruleName : String)
  | inRuleTraffic (userId ruleName : String)
  | outsideRuleTraffic (userId ruleName : String)
  -- Outcomes
  | invalidVariable (key : String)
  | failed (message : String)

namespace Reason

def isError : Reason → Bool
  | .unknownVariation _ | .unknownExperiment _ | .banditFailed _ | .invalidVariable _ | .failed _ => true
  | _ => false

/-- A key or an id as it stands inside a sentence. -/
private def named (s : String) : String :=
  "(" ++ s ++ ")"

def text : Reason → String
  | .unknownAudience id => "audience " ++ id ++ " is not in the configuration"
  | .nestedAudience id nested =>
    "condition has an invalid format: audience " ++ id ++ " references audience " ++ nested
  | .malformedCondition json => "condition has an invalid format: " ++ json.text
  | .testFault t fault => fault.message t
  | .audiences rule value =>
    "Audiences for rule " ++ named rule ++ " collectively evaluated to " ++ named value.name ++ "."
  | .noTraffic rule =>
    "No traffic allocation rules are defined for experiment " ++ named rule ++ "."
  | .unknownVariation id => "Bucketed into an invalid variation id " ++ named id
  | .unknownExperiment id => "Bucketed into an invalid experiment id " ++ named id
  | .inNoExperiment user group =>
    "User " ++ named user ++ " is not in any experiment of group " ++ named group ++ "."
  | .inOtherExperiment user experiment group =>
    "User " ++ named user ++ " is not in experiment " ++ named experiment ++ " of group "
      ++ named group ++ "."
  | .inExperimentOfGroup user experiment group =>
    "User " ++ named user ++ " is in experiment " ++ named experiment ++ " of group "
      ++ named group ++ "."
  | .holdoutNotRunning holdout => "Holdout " ++ named holdout ++ " is not running."
  | .holdoutConditions user holdout =>
    "User " ++ named user ++ " does not meet conditions for holdout " ++ named holdout ++ "."
  | .inHoldout user variation holdout =>
    "User " ++ named user ++ " is in variation " ++ named variation ++ " of holdout "
      ++ named holdout ++ "."
  | .inNoHoldoutVariation user holdout =>
    "User " ++ named user ++ " is in no holdout variation of holdout " ++ named holdout ++ "."
  | .forcedDecision variation point user =>
    "Variation " ++ named variation ++ " is mapped to " ++ point.text ++ " and user " ++ named user
      ++ " in the forced decision map."
  | .staleForcedDecision point user =>
    "Invalid variation is mapped to " ++ point.text ++ " and user " ++ named user
      ++ " in the forced decision map."
  | .forcedVariation variation experiment user =>
    "Variation " ++ named variation ++ " is mapped to experiment " ++ named experiment ++ " and user "
      ++ named user ++ " in the forced variation map."
  | .staleForcedVariation variation experiment user =>
    "Forced variation " ++ named variation ++ " of experiment " ++ named experiment ++ " for user "
      ++ named user ++ " is not in the configuration."
  | .whitelisted variation user =>
    "Forced variation " ++ named variation ++ " is found for user " ++ named user
  | .staleWhitelist variation user =>
    "Forced variation " ++ named variation ++ " is found for user " ++ named user
      ++ ", but it's not in the configuration."
  | .noExperiments flag => "Feature " ++ named flag ++ " is not attached to any experiments."
  | .experimentNotRunning experiment => "Experiment " ++ named experiment ++ " is not running."
  | .savedVariation variation experiment user =>
    "Returning previously activated variation " ++ named variation ++ " of experiment "
      ++ named experiment ++ " for user " ++ named user ++ " from user profile."
  | .experimentConditions user experiment =>
    "User " ++ named user ++ " does not meet conditions to be in experiment " ++ named experiment ++ "."
  | .outsideBanditTraffic user experiment =>
    "User " ++ named user ++ " does not fall into cmab traffic allocation in experiment "
      ++ named experiment ++ "."
  | .banditFailed experiment => "Failed to fetch CMAB data for experiment: " ++ experiment ++ "."
  | .inVariation user variation experiment =>
    "User " ++ named user ++ " is in variation " ++ named variation ++ " of experiment "
      ++ named experiment
  | .inNoVariation user => "User " ++ named user ++ " is in no variation."
  | .noRollout flag => "There is no rollout of feature " ++ named flag ++ "."
  | .unknownRollout rollout flag =>
    "Invalid rollout ID " ++ named rollout ++ " attached to feature " ++ named flag ++ "."
  | .emptyRollout rollout => "Rollout of feature " ++ named rollout ++ " has no experiments"
  | .ruleConditions met user rule =>
    "User " ++ named user ++ (if met then " meets" else " does not meet")
      ++ " conditions for targeting rule " ++ named rule ++ "."
  | .inRuleTraffic user rule =>
    "User " ++ named user ++ " is in the traffic group of targeting rule " ++ named rule ++ "."
  | .outsideRuleTraffic user rule =>
    "User " ++ named user ++ " is not in the traffic group for targeting rule " ++ named rule
      ++ ". Checking (Everyone Else) rule now."
  | .invalidVariable key => "Variable value for key " ++ named key ++ " is invalid or wrong type."
  | .failed message => message

def remark (r : Reason) : Remark :=
  ⟨r.isError, r.text⟩

/-- The texts to report for the reasons of a decision. -/
def report (withInfos : Bool) (reasons : List Reason) : List String :=
  Remark.report withInfos (reasons.map remark)

end Reason

/-- A value and the reasons for it. -/
structure Reasoned (α : Type) where
  value : α
  reasons : List Reason

namespace Reasoned

variable {α β : Type}

def pure (a : α) : Reasoned α :=
  ⟨a, []⟩

def bind (x : Reasoned α) (f : α → Reasoned β) : Reasoned β :=
  ⟨(f x.value).value, x.reasons ++ (f x.value).reasons⟩

instance : Monad Reasoned where
  pure := pure
  bind := bind

/-- Records a reason. -/
def note (r : Reason) : Reasoned Unit :=
  ⟨(), [r]⟩

@[simp] theorem value_pure (a : α) : (Pure.pure a : Reasoned α).value = a := rfl

@[simp] theorem reasons_pure (a : α) : (Pure.pure a : Reasoned α).reasons = [] := rfl

@[simp] theorem value_bind (x : Reasoned α) (f : α → Reasoned β) :
    (x >>= f).value = (f x.value).value := rfl

@[simp] theorem reasons_bind (x : Reasoned α) (f : α → Reasoned β) :
    (x >>= f).reasons = x.reasons ++ (f x.value).reasons := rfl

@[simp] theorem value_map (f : α → β) (x : Reasoned α) : (f <$> x).value = f x.value := rfl

@[simp] theorem value_note (r : Reason) : (note r).value = () := rfl

@[simp] theorem reasons_note (r : Reason) : (note r).reasons = [r] := rfl

instance : LawfulMonad Reasoned := LawfulMonad.mk' Reasoned
  (by intro α x; cases x; simp [Functor.map, bind, pure])
  (by intro α β x f; simp [Bind.bind, Pure.pure, bind, pure])
  (by intro α β γ x f g; simp [Bind.bind, bind])

end Reasoned

end FlagEngine
