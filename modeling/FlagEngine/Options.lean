import FlagEngine.Bandit.Basic

/-!
# Options

What a caller may ask for in a call, on top of the defaults of its client.
-/

namespace FlagEngine

inductive DecideOption where
  /-- Make no impression of the decision. -/
  | disableDecisionEvent
  /-- Of several decisions, answer the enabled ones only. -/
  | enabledFlagsOnly
  /-- Neither read nor write the user's profile. -/
  | ignoreUserProfileService
  /-- Report all reasons and not the errors alone. -/
  | includeReasons
  | excludeVariables
  /-- Ask the bandit even where a decision is remembered. -/
  | ignoreBanditCache
  /-- Forget all decisions of bandits before deciding. -/
  | resetBanditCache
  /-- Forget what a bandit has decided for this user before deciding. -/
  | invalidateUserBanditCache
deriving DecidableEq, Repr, Inhabited

namespace DecideOption

/-- All options in the order in which they are listed. -/
def all : List DecideOption :=
  [.disableDecisionEvent, .enabledFlagsOnly, .ignoreUserProfileService, .includeReasons,
    .excludeVariables, .ignoreBanditCache, .resetBanditCache, .invalidateUserBanditCache]

theorem mem_all (o : DecideOption) : o ∈ all := by
  cases o <;> simp [all]

def name : DecideOption → String
  | .disableDecisionEvent => "DISABLE_DECISION_EVENT"
  | .enabledFlagsOnly => "ENABLED_FLAGS_ONLY"
  | .ignoreUserProfileService => "IGNORE_USER_PROFILE_SERVICE"
  | .includeReasons => "INCLUDE_REASONS"
  | .excludeVariables => "EXCLUDE_VARIABLES"
  | .ignoreBanditCache => "IGNORE_BANDIT_CACHE"
  | .resetBanditCache => "RESET_BANDIT_CACHE"
  | .invalidateUserBanditCache => "INVALIDATE_USER_BANDIT_CACHE"

def ofName? (s : String) : Option DecideOption :=
  all.find? fun o => o.name == s

end DecideOption

/-- A set of options. -/
structure Options where
  contains : DecideOption → Bool

namespace Options

def empty : Options :=
  ⟨fun _ => false⟩

instance : Inhabited Options := ⟨empty⟩

def insert (os : Options) (o : DecideOption) : Options :=
  ⟨fun o' => o' == o || os.contains o'⟩

def union (a b : Options) : Options :=
  ⟨fun o => a.contains o || b.contains o⟩

def ofList (os : List DecideOption) : Options :=
  ⟨fun o => os.contains o⟩

def toList (os : Options) : List DecideOption :=
  DecideOption.all.filter os.contains

@[simp] theorem contains_empty (o : DecideOption) : empty.contains o = false := rfl

@[simp] theorem contains_insert (os : Options) (o o' : DecideOption) :
    (os.insert o).contains o' = (o' == o || os.contains o') := rfl

@[simp] theorem contains_union (a b : Options) (o : DecideOption) :
    (a.union b).contains o = (a.contains o || b.contains o) := rfl

theorem mem_toList (os : Options) (o : DecideOption) : o ∈ os.toList ↔ os.contains o = true := by
  simp [toList, DecideOption.mem_all]

/-- What the options do to the cache of bandit decisions. -/
def cacheOptions (os : Options) : Bandit.CacheOptions where
  ignore := os.contains .ignoreBanditCache
  reset := os.contains .resetBanditCache
  invalidate := os.contains .invalidateUserBanditCache

end Options

end FlagEngine
