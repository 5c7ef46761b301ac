import FlagEngine.Options
import FlagEngine.Traffic

/-!
# Engines

How a client is set up, once and for all of its calls.
-/

namespace FlagEngine

/-- Which ranges a user must be in for a bandit to be asked. -/
inductive BanditAdmission where
  /-- The traffic of the bandit alone. -/
  | banditTraffic
  /-- The traffic of the experiment, too. -/
  | experimentAndBanditTraffic
deriving DecidableEq, Repr, Inhabited

structure Engine where
  sharder : Sharder
  admission : BanditAdmission
  /-- Whether the profiles of users are kept. -/
  keepsProfiles : Bool
  /-- Whether there is a bandit to ask. -/
  hasBandit : Bool
  /-- The options of every call. -/
  defaults : Options

instance : Inhabited Engine := ⟨⟨.murmur, .banditTraffic, false, false, .empty⟩⟩

end FlagEngine
