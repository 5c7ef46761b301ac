import FlagEngine.Client
import FlagEngine.Proofs.Discipline

/-!
# Calls

What a client can be called for. A call asks for the project in force first of all, which is
`Engine.carryOut_eq_ask`. What comes then follows a discipline if the experiments of the project do:
`Governs.follows_given`.
-/

namespace FlagEngine

/-- What a client is called for. -/
inductive Errand where
  | decide (user : User) (flagKey : String) (options : Options)
  | decideEach (user : User) (flagKeys : List String) (options : Options)
  | decideAll (user : User) (options : Options)
  | variationOf (experimentKey userId : String) (attributes : Attributes)

/-- Whom a call is for. -/
def Errand.user : Errand → User
  | .decide user _ _ | .decideEach user _ _ | .decideAll user _ => user
  | .variationOf _ userId attributes => ⟨userId, attributes, ∅⟩

/-- The options that a call of the engine goes by. -/
def Errand.options (engine : Engine) : Errand → Options
  | .decide _ _ options | .decideEach _ _ options | .decideAll _ options => engine.defaults.union options
  | .variationOf _ _ _ => engine.defaults

inductive Errand.Result where
  | decision (d : Decision)
  | decisions (ds : Index Decision)
  | variation (v : Except Failure (Option String))

namespace Engine

def carryOut (engine : Engine) : Errand → Plan (Errand.Result × List Event)
  | .decide user flagKey options => do
    let (d, events) ← engine.decide user flagKey options
    return (.decision d, events)
  | .decideEach user flagKeys options => do
    let (ds, events) ← engine.decideEach user flagKeys options
    return (.decisions ds, events)
  | .decideAll user options => do
    let (ds, events) ← engine.decideAll user options
    return (.decisions ds, events)
  | .variationOf experimentKey userId attributes => do
    let (v, events) ← engine.variationOf experimentKey userId attributes
    return (.variation v, events)

end Engine

/-- How a plan goes on that asks for the project first. -/
def Plan.given {α : Type} : Plan α → Option Project → Plan α
  | .ask .project next, project => next project
  | x, _ => x

theorem Plan.given_query {α : Type} (f : Option Project → Plan α) (project : Option Project) :
    ((query .project : Plan (Option Project)) >>= f).given project = f project := rfl

theorem Engine.carryOut_eq_ask (engine : Engine) (errand : Errand) :
    engine.carryOut errand = .ask .project (engine.carryOut errand).given := by
  cases errand <;> rfl

/-! ## Properties of whole calls -/

/-- The property is one of what a plan asks and fetches. What is made of the result does not matter. -/
structure Plan.Outward (C : (α : Type) → Plan α → Prop) : Prop where
  done {α : Type} (a : α) : C α (.done a)
  finish {α β : Type} {x : Plan α} {f : α → Plan β} : C α x → (∀ a, ∃ b, f a = .done b) → C β (x >>= f)

namespace Plan.Outward

variable {C : (α : Type) → Plan α → Prop} {engine : Engine} {p : Project} {errand : Errand}

theorem given_none (h : Outward C) : C _ ((engine.carryOut errand).given none) := by
  cases errand <;> exact h.done _

/-- The property holds of a call if it holds of the deliberations that the call may be about. -/
theorem given_some (h : Outward C)
    (hflag : ∀ flag : Flag, C _ ((flag.deliberate engine p errand.user (errand.options engine)).settle
      (engine.tracker? errand.user.id (errand.options engine))))
    (hflags : ∀ flags : List Flag, C _ (Deliberation.settleAll
      (flags.map fun flag => flag.deliberate engine p errand.user (errand.options engine))
      (engine.tracker? errand.user.id (errand.options engine))))
    (hexperiment : ∀ id x, p.experiment? id = some x → C _
      ((x.serve? engine p errand.user.id errand.user.attributes (errand.options engine)).settle
        (engine.tracker? errand.user.id (errand.options engine)))) :
    C _ ((engine.carryOut errand).given (some p)) := by
  cases errand with
  | decide user flagKey options =>
    have hgiven : (engine.decide user flagKey options).given (some p) = _ := given_query _ _
    refine h.finish (x := (engine.decide user flagKey options).given (some p)) ?_ fun _ => ⟨_, rfl⟩
    rw [hgiven]
    dsimp only
    split
    · exact h.done _
    · exact h.finish (hflag _) fun _ => ⟨_, rfl⟩
  | decideEach user flagKeys options =>
    have hdecideIn : C _ (engine.decideIn p user flagKeys options) := h.finish (hflags _) fun _ => ⟨_, rfl⟩
    exact h.finish hdecideIn fun _ => ⟨_, rfl⟩
  | decideAll user options =>
    have hdecideIn : C _ (engine.decideIn p user (p.flags.map (·.key)) options) :=
      h.finish (hflags _) fun _ => ⟨_, rfl⟩
    exact h.finish hdecideIn fun _ => ⟨_, rfl⟩
  | variationOf experimentKey userId attributes =>
    have hgiven : (engine.variationOf experimentKey userId attributes).given (some p) = _ := given_query _ _
    refine h.finish (x := (engine.variationOf experimentKey userId attributes).given (some p)) ?_
      fun _ => ⟨_, rfl⟩
    rw [hgiven]
    dsimp only
    split
    · exact h.done _
    · next x hx =>
      obtain ⟨id, _, hid⟩ := Option.bind_eq_some_iff.mp hx
      refine h.finish (hexperiment id x hid) fun o => ?_
      cases o.result with
      | error f => exact ⟨_, rfl⟩
      | ok served => exact ⟨_, rfl⟩

end Plan.Outward

/-! ## Saving at the end -/

namespace Deliberation

variable {α : Type} {D : Discipline} {I : Option Tracker → Prop} {tracker : Option Tracker}

theorem Keeps.follows_settle {x : Deliberation α} (hx : x.Keeps D I)
    (hI : ∀ tracker, I tracker → (Tracker.saveIfAny tracker).Follows D fun _ => True)
    (ht : I tracker) : (x.settle tracker).Follows D fun _ => True :=
  (hx tracker ht).bind fun _ ho => (hI _ ho).bind fun _ _ => trivial

theorem follows_each {xs : List (Deliberation α)} (hxs : ∀ x ∈ xs, x.Keeps D I) (ht : I tracker) :
    (each xs tracker).Follows D fun a => I a.2 := by
  induction xs generalizing tracker with
  | nil => exact ht
  | cons x xs ih =>
    refine (hxs x List.mem_cons_self tracker ht).bind fun o ho => ?_
    exact (ih (fun y hy => hxs y (List.mem_cons_of_mem _ hy)) ho).bind fun a ha => ha

theorem follows_settleAll {xs : List (Deliberation α)} (hxs : ∀ x ∈ xs, x.Keeps D I)
    (hI : ∀ tracker, I tracker → (Tracker.saveIfAny tracker).Follows D fun _ => True)
    (ht : I tracker) : (settleAll xs tracker).Follows D fun _ => True :=
  (follows_each hxs ht).bind fun _ ha => (hI _ ha).bind fun _ _ => trivial

end Deliberation

/-! ## The rest of a call -/

/-- A discipline for the calls of an engine, and what it keeps true of their trackers. -/
structure Governs (D : Discipline) (I : Option Tracker → Prop) (engine : Engine) : Prop where
  allowed : ∀ q, profileFree.allowed q → projectFree.allowed q → D.allowed q
  started : ∀ userId options, I (engine.tracker? userId options)
  saved : ∀ tracker, I tracker → (Tracker.saveIfAny tracker).Follows D fun _ => True

/-- The experiments of a project keep an assertion about the tracker. -/
def Project.Keeps (D : Discipline) (I : Option Tracker → Prop) (engine : Engine) (p : Project) : Prop :=
  ∀ id x, p.experiment? id = some x → ∀ userId attributes options,
    (x.serve? engine p userId attributes options).Keeps D I

namespace Governs

variable {D : Discipline} {I : Option Tracker → Prop} {engine : Engine} {p : Project}

theorem keeps_deliberate (h : Governs D I engine) (hp : p.Keeps D I engine) (flag : Flag) (user : User)
    (options : Options) : (flag.deliberate engine p user options).Keeps D I :=
  (Deliberation.inherited_keeps h.allowed I).deliberate fun id x hx => hp id x hx _ _ _

/-- Once a call has been told the project, it follows the discipline. -/
theorem follows_given (h : Governs D I engine) {project : Option Project}
    (hp : ∀ p, project = some p → p.Keeps D I engine) (errand : Errand) :
    ((engine.carryOut errand).given project).Follows D fun _ => True := by
  have houtward : Plan.Outward fun _ x => x.Follows D fun _ => True := by
    refine ⟨fun _ => trivial, fun hx hf => hx.bind fun a _ => ?_⟩
    obtain ⟨b, hb⟩ := hf a
    rw [hb]
    trivial
  cases project with
  | none => exact houtward.given_none
  | some p =>
    have hp := hp p rfl
    refine houtward.given_some (fun flag => ?_) (fun flags => ?_) fun id x hx => ?_
    · exact (h.keeps_deliberate hp flag _ _).follows_settle h.saved (h.started _ _)
    · refine Deliberation.follows_settleAll (fun x hx => ?_) h.saved (h.started _ _)
      obtain ⟨flag, _, rfl⟩ := List.mem_map.mp hx
      exact h.keeps_deliberate hp flag _ _
    · exact (hp id x hx _ _ _).follows_settle h.saved (h.started _ _)

end Governs

end FlagEngine
