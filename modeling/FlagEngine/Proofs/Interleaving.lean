import FlagEngine.Client
import Mathlib.Logic.Function.Basic

/-!
# Interleavings

Any number of calls over the same services. A call runs without a break up to its next fetch. While the
fetch waits for its reply, other calls run, and the services are changed from outside. A call whose
fetch is never replied to is abandoned.

What happens is kept in a log, the latest first, down to the single questions of the calls and the
answers to them. Statements about the order of events are statements about the log.
-/

namespace FlagEngine

namespace Services

/-- What is done to the services from outside. -/
inductive Change where
  | publish (d : Datafile)
  | forceVariation (experimentKey userId : String) (variationKey : Option String)
  | removeDecision (key : String)
  | resetDecisions
  | elapse (nanos : Nat)

/-- A change that fails leaves the services as they are. -/
def change (s : Services) : Change → Services
  | .publish d => { s with project := some (.ofDatafile d) }
  | .forceVariation experimentKey userId variationKey =>
    (s.forceVariation experimentKey userId variationKey).toOption.getD s
  | .removeDecision key => { s with cache := s.cache.remove key }
  | .resetDecisions => { s with cache := s.cache.reset }
  | .elapse nanos => { s with cache := s.cache.elapse nanos }

theorem change_forceVariation (s : Services) (experimentKey userId : String)
    (variationKey : Option String) :
    ∃ forced, s.change (.forceVariation experimentKey userId variationKey) = { s with forced } := by
  rw [change]
  cases h : s.forceVariation experimentKey userId variationKey with
  | error f => exact ⟨s.forced, rfl⟩
  | ok s' =>
    refine ⟨s'.forced, ?_⟩
    unfold forceVariation at h
    split at h
    · cases h
    · next p hp =>
      cases hf : s.forced.set p experimentKey userId variationKey with
      | error f =>
        rw [hf] at h
        cases h
      | ok forced =>
        rw [hf] at h
        cases h
        rfl

end Services

/-- What happens among calls of type `ι` with results of type `α`. Calls go by their numbers. -/
inductive Occurrence (ι α : Type) where
  | began (id : Nat) (call : ι)
  | asked (id : Nat) (q : Query) (answer : q.Answer)
  | fetching (id : Nat) (call : Bandit.Call)
  | replied (id : Nat) (reply : Bandit.Reply)
  | abandoned (id : Nat)
  | ended (id : Nat) (result : α)
  | changed (change : Services.Change)

structure Interleaving (ι α : Type) where
  services : Services
  /-- How the calls go on whose fetch waits for its reply. -/
  waiting : Nat → Option (Bandit.Reply → Plan α)
  /-- The number of calls that have begun. -/
  begun : Nat
  log : List (Occurrence ι α)

namespace Interleaving

variable {ι α : Type}

/-- Answers the questions of a call and notes them. -/
def answer (id : Nat) : Plan.Handler (Services × List (Occurrence ι α)) :=
  fun q s =>
    let (answer, services) := Services.answer q s.1
    (answer, services, .asked id q answer :: s.2)

/-- Runs a call up to its next fetch. -/
def proceed (s : Interleaving ι α) (id : Nat) (x : Plan α) : Interleaving ι α :=
  match x.advance (answer id) (s.services, s.log) with
  | (.finished a, services, log) =>
    { s with
      services
      waiting := Function.update s.waiting id none
      log := .ended id a :: log }
  | (.waiting call next, services, log) =>
    { s with
      services
      waiting := Function.update s.waiting id (some next)
      log := .fetching id call :: log }

inductive Step (ι : Type) where
  | begin (call : ι)
  | reply (id : Nat) (reply : Bandit.Reply)
  | abandon (id : Nat)
  | change (change : Services.Change)

/-- One step. Replies to calls that do not wait for one do nothing. -/
def step (plan : ι → Plan α) (s : Interleaving ι α) : Step ι → Interleaving ι α
  | .begin call =>
    { s with begun := s.begun + 1, log := .began s.begun call :: s.log }.proceed s.begun (plan call)
  | .reply id reply =>
    match s.waiting id with
    | none => s
    | some next => { s with log := .replied id reply :: s.log }.proceed id (next reply)
  | .abandon id =>
    match s.waiting id with
    | none => s
    | some _ => { s with waiting := Function.update s.waiting id none, log := .abandoned id :: s.log }
  | .change change => { s with services := s.services.change change, log := .changed change :: s.log }

def initial (services : Services) : Interleaving ι α :=
  ⟨services, fun _ => none, 0, []⟩

/-- The state after some steps, the latest first. -/
def after (plan : ι → Plan α) (services : Services) : List (Step ι) → Interleaving ι α
  | [] => initial services
  | x :: earlier => (after plan services earlier).step plan x

theorem proceed_of_finished {s : Interleaving ι α} {id : Nat} {x : Plan α} {a : α}
    {services : Services} {log : List (Occurrence ι α)}
    (h : x.advance (answer id) (s.services, s.log) = (.finished a, services, log)) :
    s.proceed id x =
      ⟨services, Function.update s.waiting id none, s.begun, .ended id a :: log⟩ := by
  rw [proceed, h]

theorem proceed_of_waiting {s : Interleaving ι α} {id : Nat} {x : Plan α} {call : Bandit.Call}
    {next : Bandit.Reply → Plan α} {services : Services} {log : List (Occurrence ι α)}
    (h : x.advance (answer id) (s.services, s.log) = (.waiting call next, services, log)) :
    s.proceed id x =
      ⟨services, Function.update s.waiting id (some next), s.begun, .fetching id call :: log⟩ := by
  rw [proceed, h]

/-! ## Logs grow -/

theorem suffix_advance (id : Nat) (x : Plan α) (s : Services) (log : List (Occurrence ι α)) :
    log <:+ (x.advance (answer id) (s, log)).2.2 := by
  induction x generalizing s log with
  | done a => exact List.suffix_rfl
  | ask q next ih => exact (List.suffix_cons _ _).trans (ih _ _ _)
  | fetch call next _ => exact List.suffix_rfl

theorem advance_suffix_proceed (s : Interleaving ι α) (id : Nat) (x : Plan α) :
    (x.advance (answer id) (s.services, s.log)).2.2 <:+ (s.proceed id x).log := by
  unfold proceed
  split <;> next ha =>
    rw [ha]
    exact List.suffix_cons _ _

theorem suffix_proceed (s : Interleaving ι α) (id : Nat) (x : Plan α) :
    s.log <:+ (s.proceed id x).log :=
  (suffix_advance ..).trans (advance_suffix_proceed ..)

theorem suffix_step (plan : ι → Plan α) (s : Interleaving ι α) (x : Step ι) :
    s.log <:+ (s.step plan x).log := by
  cases x with
  | begin call =>
    refine (List.suffix_cons (.began s.begun call) s.log).trans ?_
    exact suffix_proceed { s with begun := s.begun + 1, log := .began s.begun call :: s.log } _ _
  | reply id reply =>
    simp only [step]
    split
    · exact List.suffix_rfl
    · refine (List.suffix_cons (.replied id reply) s.log).trans ?_
      exact suffix_proceed { s with log := .replied id reply :: s.log } _ _
  | abandon id =>
    simp only [step]
    split
    · exact List.suffix_rfl
    · exact List.suffix_cons _ _
  | change change => exact List.suffix_cons _ _

/-! ## What a call leaves alone -/

theorem begun_proceed (s : Interleaving ι α) (id : Nat) (x : Plan α) :
    (s.proceed id x).begun = s.begun := by
  unfold proceed
  split <;> rfl

theorem waiting_proceed_of_ne {s : Interleaving ι α} {id id' : Nat} {x : Plan α} (h : id' ≠ id) :
    (s.proceed id x).waiting id' = s.waiting id' := by
  unfold proceed
  split <;> exact Function.update_of_ne h ..

theorem services_proceed (s : Interleaving ι α) (id : Nat) (x : Plan α) :
    (s.proceed id x).services = (x.advance (answer id) (s.services, s.log)).2.1 := by
  unfold proceed
  split <;> next ha => rw [ha]

theorem asked_advance {x : Plan α} {id id' : Nat} {s : Services} {log : List (Occurrence ι α)}
    {q : Query} {a : q.Answer} (h : .asked id' q a ∈ (x.advance (answer id) (s, log)).2.2) :
    .asked id' q a ∈ log ∨ id' = id := by
  induction x generalizing s log with
  | done b => exact .inl h
  | ask q' next ih =>
    rcases ih _ h with h | h
    · rcases List.mem_cons.mp h with h | h
      · cases h
        exact .inr rfl
      · exact .inl h
    · exact .inr h
  | fetch call next _ => exact .inl h

/-- The end of a call and the beginning of a fetch are no answers. -/
theorem asked_proceed {s : Interleaving ι α} {x : Plan α} {id id' : Nat} {q : Query} {a : q.Answer}
    (h : .asked id' q a ∈ (s.proceed id x).log) :
    .asked id' q a ∈ (x.advance (answer id) (s.services, s.log)).2.2 := by
  unfold proceed at h
  split at h <;> next ha =>
    rcases List.mem_cons.mp h with h | h
    · cases h
    · rw [ha]
      exact h

/-! ## The projects in use -/

theorem project_answer (q : Query) (s : Services) : (Services.answer q s).2.project = s.project := by
  cases q <;> rfl

theorem project_advance (id : Nat) (x : Plan α) (s : Services) (log : List (Occurrence ι α)) :
    (x.advance (answer id) (s, log)).2.1.project = s.project := by
  induction x generalizing s log with
  | done a => rfl
  | ask q next ih => exact (ih _ _ _).trans (project_answer q s)
  | fetch call next _ => rfl

theorem asked_project_advance {x : Plan α} {id id' : Nat} {s : Services}
    {log : List (Occurrence ι α)} {p : Option Project}
    (h : .asked id' .project p ∈ (x.advance (answer id) (s, log)).2.2) :
    .asked id' .project p ∈ log ∨ p = s.project := by
  induction x generalizing s log with
  | done a => exact .inl h
  | ask q next ih =>
    rcases ih _ h with h | h
    · rcases List.mem_cons.mp h with h | h
      · cases h
        exact .inr rfl
      · exact .inl h
    · exact .inr (h.trans (project_answer q s))
  | fetch call next _ => exact .inl h

/-- A property of the project in force and of all projects that calls have used. -/
structure InUse (P : Project → Prop) (s : Interleaving ι α) : Prop where
  project : ∀ p, s.services.project = some p → P p
  asked : ∀ id p, .asked id .project (some p) ∈ s.log → P p

variable {P : Project → Prop} {s : Interleaving ι α}

theorem InUse.proceed (h : InUse P s) (id : Nat) (x : Plan α) : InUse P (s.proceed id x) where
  project p hp := by
    rw [services_proceed, project_advance] at hp
    exact h.project p hp
  asked id' p hp := by
    rcases asked_project_advance (asked_proceed hp) with hp | hp
    · exact h.asked id' p hp
    · exact h.project p hp.symm

private theorem InUse.note (h : InUse P s) {services : Services} {w : Nat → Option (Bandit.Reply → Plan α)}
    {n : Nat} {y : Occurrence ι α} (hp : ∀ p, services.project = some p → P p)
    (hy : ∀ id q a, y ≠ .asked id q a) : InUse P ⟨services, w, n, y :: s.log⟩ where
  project := hp
  asked := by
    intro id p ha
    rcases List.mem_cons.mp ha with ha | ha
    · exact (hy id _ _ ha.symm).elim
    · exact h.asked id p ha

theorem InUse.step (h : InUse P s) (plan : ι → Plan α) {x : Step ι}
    (hx : ∀ d, x = .change (.publish d) → P (.ofDatafile d)) : InUse P (s.step plan x) := by
  cases x with
  | begin call =>
    have hbegan : InUse P { s with begun := s.begun + 1, log := .began s.begun call :: s.log } :=
      h.note h.project (by simp)
    exact hbegan.proceed _ _
  | reply id reply =>
    simp only [Interleaving.step]
    split
    · exact h
    · have hreplied : InUse P { s with log := .replied id reply :: s.log } :=
        h.note h.project (by simp)
      exact hreplied.proceed _ _
  | abandon id =>
    simp only [Interleaving.step]
    split
    · exact h
    · exact h.note h.project (by simp)
  | change change =>
    refine h.note (fun p hp => ?_) (by simp)
    cases change with
    | publish d =>
      cases hp
      exact hx d rfl
    | forceVariation experimentKey userId variationKey =>
      obtain ⟨forced, hforced⟩ :=
        s.services.change_forceVariation experimentKey userId variationKey
      rw [hforced] at hp
      exact h.project p hp
    | removeDecision | resetDecisions | elapse => exact h.project p hp

/-- What holds of the first project and of all that are published holds of all that are used. -/
theorem inUse_after {plan : ι → Plan α} {services : Services} {steps : List (Step ι)}
    (hp : ∀ p, services.project = some p → P p)
    (hd : ∀ d, .change (.publish d) ∈ steps → P (.ofDatafile d)) :
    InUse P (after plan services steps) := by
  induction steps with
  | nil => exact ⟨hp, fun id p h => by cases h⟩
  | cons x earlier ih =>
    refine (ih fun d h => hd d (List.mem_cons_of_mem _ h)).step plan ?_
    rintro d rfl
    exact hd d List.mem_cons_self

end Interleaving

end FlagEngine
