import FlagEngine.Attribute

/-!
# Bandits

A contextual bandit outside the engine chooses the variation of an experiment. What it has chosen is
remembered for the user, the rule and the attributes that it was told.
-/

namespace FlagEngine.Bandit

/-- Why there is no decision of a bandit. -/
inductive Failure where
  | fetchFailed (text : String)
  | invalidResponse
  | noClient
deriving DecidableEq, Repr, Inhabited

def Failure.message : Failure → String
  | .fetchFailed text => "failed to fetch bandit decision: " ++ text
  | .invalidResponse => "invalid bandit prediction response"
  | .noClient => "no bandit client is configured"

/-- What a bandit is asked. -/
structure Call where
  ruleId : String
  userId : String
  attributes : Attributes
  uuid : String

/-- A decision of a bandit. The uuid identifies it in events, also when it is answered from the cache. -/
structure Choice where
  variationId : String
  uuid : String
deriving DecidableEq, Repr, Inhabited

/-- A remembered decision with the fingerprint of the attributes that it was made for. -/
structure Entry where
  fingerprint : String
  variationId : String
  uuid : String
deriving DecidableEq, Repr, Inhabited

def Entry.choice (e : Entry) : Choice :=
  ⟨e.variationId, e.uuid⟩

/-- The key that a decision is remembered by. The length of the user id comes first, so that no two
pairs of a user and a rule have the same key. -/
def cacheKey (userId ruleId : String) : String :=
  userId.length.repr ++ "-" ++ userId ++ "-" ++ ruleId

/-- What one call does to the cache before it looks there. -/
structure CacheOptions where
  /-- Do not look up; the result is remembered nevertheless. -/
  ignore : Bool
  /-- Forget all entries. -/
  reset : Bool
  /-- Forget the entry of this user and rule. -/
  invalidate : Bool
deriving DecidableEq, Repr

instance : Inhabited CacheOptions := ⟨⟨false, false, false⟩⟩

end FlagEngine.Bandit
