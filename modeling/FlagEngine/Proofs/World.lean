import FlagEngine.Proofs.Discipline
import FlagEngine.Services

/-!
# Worlds

Calls that have the services to themselves, and a bandit that answers them. The bandit has a state of its
own, and time passes until it answers.
-/

namespace FlagEngine

structure World (κ : Type) where
  services : Services
  bandit : κ
  /-- The fetches so far, the latest first. -/
  fetched : List Bandit.Call

/-- Answers a fetch, and tells how many nanoseconds it has taken. -/
abbrev Responder (κ : Type) := Bandit.Call → κ → Bandit.Reply × Nat × κ

variable {κ α : Type} {responder : Responder κ} {w w' : World κ}

namespace World

def answer : Plan.Handler (World κ) :=
  fun q w => ((Services.answer q w.services).1, { w with services := (Services.answer q w.services).2 })

def fetch (responder : Responder κ) (call : Bandit.Call) (w : World κ) : Bandit.Reply × World κ :=
  let (reply, nanos, bandit) := responder call w.bandit
  (reply, {
    services := { w.services with cache := w.services.cache.elapse nanos }
    bandit
    fetched := call :: w.fetched })

/-- The world with other profiles. -/
def withProfiles (w : World κ) (profiles : ProfileStore) : World κ :=
  { w with services := { w.services with profiles } }

/-- The worlds differ in their profiles at most. -/
def Agrees (w w' : World κ) : Prop :=
  w.withProfiles ∅ = w'.withProfiles ∅

theorem Agrees.eq (h : w.Agrees w') : w = w'.withProfiles w.services.profiles := by
  have hw := congrArg (fun x : World κ => x.withProfiles w.services.profiles) h
  exact hw

theorem answer_project {p : Project} (hp : w.services.project = some p) : answer .project w = (some p, w) := by
  rw [← hp]
  rfl

theorem answer_withProfiles {q : Query} (hq : profileFree.allowed q) (w : World κ)
    (profiles : ProfileStore) :
    answer q (w.withProfiles profiles) = ((answer q w).1, (answer q w).2.withProfiles profiles) := by
  cases q with
  | profile => exact hq.elim
  | saveVariation => exact hq.elim
  | project | forcedVariation | beginDecision | completeDecision | uuid => rfl

end World

namespace Plan

/-- Runs a call in a world. -/
def play (responder : Responder κ) (x : Plan α) (w : World κ) : α × World κ :=
  x.run World.answer (World.fetch responder) w

theorem play_bind {β : Type} (x : Plan α) (f : α → Plan β) (w : World κ) :
    (x >>= f).play responder w
      = (f (x.play responder w).1).play responder (x.play responder w).2 :=
  run_bind ..

/-- To ask for the project leaves the world as it is. -/
theorem play_query_project (f : Option Project → Plan α) (w : World κ) :
    ((query .project : Plan (Option Project)) >>= f).play responder w
      = (f w.services.project).play responder w := rfl

theorem play_project (responder : Responder κ) (x : Plan α) (w : World κ) :
    (x.play responder w).2.services.project = w.services.project := by
  induction x generalizing w with
  | done a => rfl
  | ask q next ih =>
    refine (ih _ _).trans ?_
    cases q <;> rfl
  | fetch call next ih => exact ih _ _

/-- A plan that leaves profiles alone does not depend on them either. -/
theorem play_withProfiles {x : Plan α} (hx : x.Follows profileFree fun _ => True) (w : World κ)
    (profiles : ProfileStore) :
    x.play responder (w.withProfiles profiles)
      = ((x.play responder w).1, (x.play responder w).2.withProfiles profiles) := by
  induction x generalizing w with
  | done a => rfl
  | ask q next ih =>
    simp only [play, run_ask, World.answer_withProfiles hx.1]
    exact ih _ (hx.2 _ trivial) _
  | fetch call next ih =>
    exact ih (World.fetch responder call w).1 (hx _) (World.fetch responder call w).2

theorem play_profiles {x : Plan α} (hx : x.Follows profileFree fun _ => True) (w : World κ) :
    (x.play responder w).2.services.profiles = w.services.profiles := by
  have h : x.play responder w = _ := play_withProfiles hx w w.services.profiles
  exact congrArg (fun a => a.2.services.profiles) h

end Plan

end FlagEngine
