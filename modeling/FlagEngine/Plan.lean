import FlagEngine.Bandit.Cache
import FlagEngine.Profile
import FlagEngine.Project

/-!
# Plans

A call of the engine as data: the questions that it puts to the services around it, each in the light of
the answers before. A question is answered at once and alone. A fetch takes its time, and other calls
may run until it is answered.
-/

namespace FlagEngine

/-- What is asked of the services around a call. -/
inductive Query where
  /-- The project in force. -/
  | project
  /-- The id of the variation that the client has set for a user in an experiment. -/
  | forcedVariation (userId experimentId : String)
  /-- The profile of a user. -/
  | profile (userId : String)
  /-- Saves a variation to the profile of a user. -/
  | saveVariation (userId experimentId variationId : String)
  /-- Looks up a decision of a bandit. -/
  | beginDecision (key fingerprint : String) (options : Bandit.CacheOptions)
  /-- Remembers a decision of a bandit. -/
  | completeDecision (key : String) (e : Bandit.Entry) (t : Bandit.Ticket)
  /-- An identifier that has not been given before. -/
  | uuid

/-- The type of the answer to a query. -/
def Query.Answer : Query → Type
  | .project => Option Project
  | .forcedVariation _ _ => Option String
  | .profile _ => Option Profile
  | .saveVariation _ _ _ => Unit
  | .beginDecision _ _ _ => Bandit.Finding
  | .completeDecision _ _ _ => Bool
  | .uuid => String

/-- The answer to a fetch: the id of a variation. -/
abbrev Bandit.Reply := Except Bandit.Failure String

inductive Plan (α : Type) where
  | done (a : α)
  | ask (q : Query) (next : q.Answer → Plan α)
  | fetch (call : Bandit.Call) (next : Bandit.Reply → Plan α)

namespace Plan

variable {α β γ σ : Type}

def bind : Plan α → (α → Plan β) → Plan β
  | .done a, f => f a
  | .ask q next, f => .ask q fun answer => (next answer).bind f
  | .fetch call next, f => .fetch call fun reply => (next reply).bind f

instance : Monad Plan where
  pure := .done
  bind := bind

instance [Inhabited α] : Inhabited (Plan α) := ⟨.done default⟩

/-- The plan of a single question. -/
def query (q : Query) : Plan q.Answer :=
  .ask q .done

/-- The plan of a single fetch. -/
def request (call : Bandit.Call) : Plan Bandit.Reply :=
  .fetch call .done

@[simp] theorem pure_eq_done (a : α) : (pure a : Plan α) = .done a := rfl

@[simp] theorem done_bind (a : α) (f : α → Plan β) : (Plan.done a >>= f) = f a := rfl

@[simp] theorem ask_bind (q : Query) (next : q.Answer → Plan α) (f : α → Plan β) :
    (Plan.ask q next >>= f) = .ask q fun answer => next answer >>= f := rfl

@[simp] theorem fetch_bind (call : Bandit.Call) (next : Bandit.Reply → Plan α) (f : α → Plan β) :
    (Plan.fetch call next >>= f) = .fetch call fun reply => next reply >>= f := rfl

theorem bind_done (x : Plan α) : (x >>= .done) = x := by
  induction x with
  | done a => rfl
  | ask q next ih => exact congrArg (Plan.ask q) (funext ih)
  | fetch call next ih => exact congrArg (Plan.fetch call) (funext ih)

theorem bind_assoc (x : Plan α) (f : α → Plan β) (g : β → Plan γ) :
    (x >>= f >>= g) = x >>= fun a => f a >>= g := by
  induction x with
  | done a => rfl
  | ask q next ih => exact congrArg (Plan.ask q) (funext ih)
  | fetch call next ih => exact congrArg (Plan.fetch call) (funext ih)

instance : LawfulMonad Plan := LawfulMonad.mk' Plan
  (fun x => bind_done x)
  (fun _ _ => rfl)
  (fun x f g => bind_assoc x f g)

/-! ## Running plans -/

/-- Answers the questions of plans over a state. -/
abbrev Handler (σ : Type) := (q : Query) → σ → q.Answer × σ

/-- Where a plan has come to: its end, or a fetch that waits for its reply. -/
inductive Progress (α : Type) where
  | finished (a : α)
  | waiting (call : Bandit.Call) (next : Bandit.Reply → Plan α)

/-- Answers the questions of a plan up to its next fetch. -/
def advance (handler : Handler σ) : Plan α → σ → Progress α × σ
  | .done a, s => (.finished a, s)
  | .ask q next, s => (next (handler q s).1).advance handler (handler q s).2
  | .fetch call next, s => (.waiting call next, s)

/-- Runs a plan to its end. Every fetch is replied to at once by `reply`. -/
def run (handler : Handler σ) (reply : Bandit.Call → σ → Bandit.Reply × σ) : Plan α → σ → α × σ
  | .done a, s => (a, s)
  | .ask q next, s => (next (handler q s).1).run handler reply (handler q s).2
  | .fetch call next, s => (next (reply call s).1).run handler reply (reply call s).2

@[simp] theorem run_done (handler : Handler σ) (reply : Bandit.Call → σ → Bandit.Reply × σ) (a : α)
    (s : σ) : (Plan.done a).run handler reply s = (a, s) := rfl

@[simp] theorem run_ask (handler : Handler σ) (reply : Bandit.Call → σ → Bandit.Reply × σ) (q : Query)
    (next : q.Answer → Plan α) (s : σ) :
    (Plan.ask q next).run handler reply s
      = (next (handler q s).1).run handler reply (handler q s).2 := rfl

@[simp] theorem run_fetch (handler : Handler σ) (reply : Bandit.Call → σ → Bandit.Reply × σ)
    (call : Bandit.Call) (next : Bandit.Reply → Plan α) (s : σ) :
    (Plan.fetch call next).run handler reply s
      = (next (reply call s).1).run handler reply (reply call s).2 := rfl

theorem run_bind (handler : Handler σ) (reply : Bandit.Call → σ → Bandit.Reply × σ) (x : Plan α)
    (f : α → Plan β) (s : σ) :
    (x >>= f).run handler reply s
      = (f (x.run handler reply s).1).run handler reply (x.run handler reply s).2 := by
  induction x generalizing s with
  | done a => rfl
  | ask q next ih => exact ih _ _
  | fetch call next ih => exact ih _ _

end Plan

end FlagEngine
