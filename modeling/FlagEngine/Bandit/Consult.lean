import FlagEngine.Plan

/-!
# Consulting a bandit

A decision is taken from the cache if it was made for the same attributes, and is fetched otherwise. A
fetched decision is remembered, a failure never.
-/

namespace FlagEngine.Bandit

/-- The names of the attributes that the bandit of a rule is told. -/
def attributeNames (p : Project) (ruleId : String) : List String :=
  match (p.experiment? ruleId).bind (·.bandit) with
  | some b => b.attributeIds.filterMap p.attributeName?
  | none => []

/-- The attributes that the bandit of a rule is told. -/
def told (p : Project) (ruleId : String) (attributes : Attributes) : Attributes :=
  attributes.restrict (attributeNames p ruleId)

/-- The decision of a rule's bandit for a user. -/
def consult (p : Project) (userId : String) (attributes : Attributes) (ruleId : String)
    (options : CacheOptions) : Plan (Except Failure Choice) := do
  let attributes := told p ruleId attributes
  let fingerprint := attributes.fingerprint
  let key := cacheKey userId ruleId
  let finding : Finding ← Plan.query (.beginDecision key fingerprint options)
  match finding with
  | .hit e => return .ok e.choice
  | .miss ticket =>
    let uuid : String ← Plan.query .uuid
    match ← Plan.request { ruleId, userId, attributes, uuid } with
    | .error f => return .error f
    | .ok variationId =>
      let _ ← Plan.query (.completeDecision key { fingerprint, variationId, uuid } ticket)
      return .ok { variationId, uuid }

end FlagEngine.Bandit
