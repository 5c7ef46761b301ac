import FlagEngine.Bandit.Basic
import FlagEngine.Text.Quoted

/-!
# Failures

Why a call has no outcome.
-/

namespace FlagEngine

inductive Failure where
  /-- No project has been published yet. -/
  | notConfigured
  | unknownFlag (key : String)
  | unknownExperiment (key : String)
  | unknownVariation (experimentKey variationKey : String)
  | bandit (f : Bandit.Failure)
deriving DecidableEq, Repr, Inhabited

def Failure.message : Failure → String
  | .notConfigured => "decision engine is not configured yet"
  | .unknownFlag key => "no flag was found for key " ++ Text.quote key
  | .unknownExperiment key => "no experiment was found for key " ++ Text.quote key
  | .unknownVariation experiment variation =>
    "no variation " ++ Text.quote variation ++ " in experiment " ++ Text.quote experiment
  | .bandit f => f.message

end FlagEngine
