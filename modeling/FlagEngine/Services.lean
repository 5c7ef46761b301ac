import FlagEngine.ForcedVariations
import FlagEngine.Plan

/-!
# Services

The state that the calls of one client share, and how it answers their questions.
-/

namespace FlagEngine

structure Services where
  /-- The project in force, if one has been published. -/
  project : Option Project
  forced : ForcedVariations
  profiles : ProfileStore
  cache : Bandit.Cache
  /-- The number of identifiers given so far. -/
  issued : Nat

namespace Services

/-- Nothing is published and nothing known. -/
def initial (cache : Bandit.Cache) : Services where
  project := none
  forced := ∅
  profiles := ∅
  cache
  issued := 0

instance : Inhabited Services := ⟨initial default⟩

/-- The identifier with a given number: 36 characters, the number in the last 12 of them. -/
def uuidText (n : Nat) : String :=
  let digits := Nat.toDigits 16 n
  "00000000-0000-4000-8000-" ++ String.ofList (List.replicate (12 - digits.length) '0' ++ digits)

def answer : Plan.Handler Services
  | .project, s => (s.project, s)
  | .forcedVariation userId experimentId, s => (s.forced.variationId? userId experimentId, s)
  | .profile userId, s => (some (s.profiles.profile userId), s)
  | .saveVariation userId experimentId variationId, s =>
    ((), { s with profiles := s.profiles.save userId experimentId variationId })
  | .beginDecision key fingerprint options, s =>
    let (finding, cache) := s.cache.begin key fingerprint options
    (finding, { s with cache })
  | .completeDecision key e t, s =>
    let (written, cache) := s.cache.complete key e t
    (written, { s with cache })
  | .uuid, s => (uuidText (s.issued + 1), { s with issued := s.issued + 1 })

end Services

end FlagEngine
