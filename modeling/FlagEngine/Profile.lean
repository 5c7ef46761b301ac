import FlagEngine.Index

/-!
# Profiles

The variations that users have been bucketed into. A store keeps them, so that a user stays in a
variation when the traffic or the audience of the experiment changes.
-/

namespace FlagEngine

/-- Variation ids by experiment id. -/
abbrev Profile := Index String

/-- The profiles of users by user id. -/
abbrev ProfileStore := Index Profile

namespace ProfileStore

def profile (s : ProfileStore) (userId : String) : Profile :=
  s.getD userId ∅

def save (s : ProfileStore) (userId experimentId variationId : String) : ProfileStore :=
  s.insert userId ((s.profile userId).insert experimentId variationId)

theorem profile_save (s : ProfileStore) (userId userId' experimentId variationId : String) :
    (s.save userId experimentId variationId).profile userId'
      = if userId = userId' then (s.profile userId).insert experimentId variationId
        else s.profile userId' := by
  simp only [save, profile, Std.TreeMap.getD_insert, Std.LawfulEqCmp.compare_eq_iff_eq]

end ProfileStore

end FlagEngine
