import FlagEngine.Plan

/-!
# Tracking a profile

The profile of one user during one call. It is read when it is first needed, at most once, and what has
changed is saved at the end of the call.
-/

namespace FlagEngine

structure Tracker where
  userId : String
  /-- The profile with the changes of this call, once it has been read. -/
  loaded : Option Profile
  /-- The changes to save, experiment and variation by id. -/
  pending : List (String × String)

namespace Tracker

def ofUser (userId : String) : Tracker :=
  ⟨userId, none, []⟩

/-- The profile, which is empty if it cannot be read. -/
def load (t : Tracker) : Plan (Profile × Tracker) :=
  match t.loaded with
  | some profile => return (profile, t)
  | none => do
    let answer : Option Profile ← Plan.query (.profile t.userId)
    let profile := answer.getD ∅
    return (profile, { t with loaded := some profile })

theorem load_of_loaded {t : Tracker} {profile : Profile} (h : t.loaded = some profile) :
    t.load = .done (profile, t) := by
  rw [load, h]
  rfl

/-- The id of the variation that the user is in. -/
def saved? (t : Tracker) (experimentId : String) : Plan (Option String × Tracker) := do
  let (profile, t) ← t.load
  return (profile[experimentId]?, t)

/-- Changes a profile that has been read. -/
def change (t : Tracker) (profile : Profile) (experimentId variationId : String) : Tracker :=
  let t := { t with loaded := some (profile.insert experimentId variationId) }
  if profile[experimentId]? = some variationId then t
  else { t with pending := t.pending.filter (·.1 != experimentId) ++ [(experimentId, variationId)] }

/-- Puts the user into a variation. -/
def record (t : Tracker) (experimentId variationId : String) : Plan Tracker := do
  let (profile, t) ← t.load
  return t.change profile experimentId variationId

/-- Saves each of some changes. -/
def saveAll (userId : String) : List (String × String) → Plan Unit
  | [] => return ()
  | (experimentId, variationId) :: rest => do
    let _ ← Plan.query (.saveVariation userId experimentId variationId)
    saveAll userId rest

def save (t : Tracker) : Plan Unit :=
  saveAll t.userId t.pending

end Tracker

end FlagEngine
