import FlagEngine.Bandit.Consult
import FlagEngine.Reason
import FlagEngine.Tracker

/-!
# Deliberations

Plans that also keep track of the user's profile, record reasons, and may fail. A failure keeps the
reasons and the profile of the way to it.
-/

namespace FlagEngine

/-- What has come out of a deliberation. -/
structure Outcome (α : Type) where
  result : Except Bandit.Failure α
  /-- The profile of the user, if profiles are in use. -/
  tracker : Option Tracker
  reasons : List Reason

/-- A plan with a profile at hand. -/
def Deliberation (α : Type) : Type :=
  Option Tracker → Plan (Outcome α)

namespace Deliberation

variable {α β γ : Type}

def pure (a : α) : Deliberation α :=
  fun tracker => .done ⟨.ok a, tracker, []⟩

/-- Goes on after an outcome. The reasons so far come first. -/
def resume (f : α → Deliberation β) (o : Outcome α) : Plan (Outcome β) :=
  match o.result with
  | .error e => .done ⟨.error e, o.tracker, o.reasons⟩
  | .ok a => do
    let o' ← f a o.tracker
    return { o' with reasons := o.reasons ++ o'.reasons }

def bind (x : Deliberation α) (f : α → Deliberation β) : Deliberation β :=
  fun tracker => x tracker >>= resume f

instance : Monad Deliberation where
  pure := pure
  bind := bind

instance [Inhabited α] : Inhabited (Deliberation α) := ⟨pure default⟩

/-- A value with its reasons. -/
def ofReasoned (x : Reasoned α) : Deliberation α :=
  fun tracker => .done ⟨.ok x.value, tracker, x.reasons⟩

instance : MonadLift Reasoned Deliberation := ⟨ofReasoned⟩

/-- A plan that neither fails nor gives reasons. -/
def ofPlan (x : Plan α) : Deliberation α :=
  fun tracker => do return ⟨.ok (← x), tracker, []⟩

instance : MonadLift Plan Deliberation := ⟨ofPlan⟩

def note (r : Reason) : Deliberation Unit :=
  ofReasoned (Reasoned.note r)

/-- Fails, with a reason. -/
def fail (r : Reason) (f : Bandit.Failure) : Deliberation α :=
  fun tracker => .done ⟨.error f, tracker, [r]⟩

/-- The id of the variation that the user is saved to be in. Without profiles there is none. -/
def saved? (experimentId : String) : Deliberation (Option String)
  | none => .done ⟨.ok none, none, []⟩
  | some t => do
    let (variationId, t) ← t.saved? experimentId
    return ⟨.ok variationId, some t, []⟩

/-- Puts the user into a variation. Without profiles nothing happens. -/
def record (experimentId variationId : String) : Deliberation Unit
  | none => .done ⟨.ok (), none, []⟩
  | some t => do
    let t ← t.record experimentId variationId
    return ⟨.ok (), some t, []⟩

@[simp] theorem pure_apply (a : α) (tracker : Option Tracker) :
    (Pure.pure a : Deliberation α) tracker = .done ⟨.ok a, tracker, []⟩ := rfl

@[simp] theorem ofReasoned_apply (x : Reasoned α) (tracker : Option Tracker) :
    ofReasoned x tracker = .done ⟨.ok x.value, tracker, x.reasons⟩ := rfl

@[simp] theorem note_apply (r : Reason) (tracker : Option Tracker) :
    note r tracker = .done ⟨.ok (), tracker, [r]⟩ := rfl

@[simp] theorem fail_apply (r : Reason) (f : Bandit.Failure) (tracker : Option Tracker) :
    (fail r f : Deliberation α) tracker = .done ⟨.error f, tracker, [r]⟩ := rfl

theorem bind_apply (x : Deliberation α) (f : α → Deliberation β) (tracker : Option Tracker) :
    (x >>= f) tracker = x tracker >>= resume f := rfl

@[simp] theorem resume_pure (o : Outcome α) : resume pure o = .done o := by
  obtain ⟨result, tracker, reasons⟩ := o
  cases result <;> simp [resume, pure]

theorem resume_bind (f : α → Deliberation β) (g : β → Deliberation γ) (o : Outcome α) :
    (resume f o >>= resume g) = resume (fun a => bind (f a) g) o := by
  obtain ⟨result, tracker, reasons⟩ := o
  cases result with
  | error e => rfl
  | ok a =>
    simp only [resume, bind, Plan.bind_assoc]
    congr 1
    funext o'
    obtain ⟨result', tracker', reasons'⟩ := o'
    cases result' with
    | error e => rfl
    | ok b => simp [resume, List.append_assoc]

instance : LawfulMonad Deliberation := LawfulMonad.mk' Deliberation
  (fun x => by
    funext tracker
    change x tracker >>= resume (pure ∘ id) = x tracker
    rw [show (resume (pure ∘ id) : Outcome _ → _) = .done from funext resume_pure]
    exact Plan.bind_done _)
  (fun a f => by
    funext tracker
    change resume f ⟨.ok a, tracker, []⟩ = f a tracker
    simp only [resume, List.nil_append]
    exact Plan.bind_done _)
  (fun x f g => by
    funext tracker
    change (x tracker >>= resume f) >>= resume g = x tracker >>= resume (fun a => bind (f a) g)
    rw [Plan.bind_assoc]
    congr 1
    funext o
    exact resume_bind f g o)

end Deliberation

end FlagEngine
