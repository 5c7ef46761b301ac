import FlagEngine.Proofs.Preservation
import FlagEngine.Proofs.Runs

/-!
# Alternatives

Alternatives that are asked in turn until one of them answers: `Deliberation.inTurn`. Those that are passed in
a run (`Deliberation.Passes`) hand the tracker and the services on to the next one, and what comes after an
answer has no part in the run at all (`Passes.agrees_of_answered`).
-/

namespace FlagEngine

open Deliberation

variable {α β σ : Type} {handler : Plan.Handler σ} {reply : Bandit.Call → σ → Bandit.Reply × σ}
  {tracker tracker' tracker₁ : Option Tracker} {s s' s₁ : σ}

/-! ## Runs that agree -/

namespace Deliberation

/-- In a run two deliberations come to the same outcome, reasons included, and what passes is the same. -/
structure Agrees (handler : Plan.Handler σ) (reply : Bandit.Call → σ → Bandit.Reply × σ) (x y : Deliberation α)
    (tracker : Option Tracker) (s : σ) : Prop where
  run : (x tracker).run handler reply s = (y tracker).run handler reply s
  transcript : (x tracker).transcript handler reply s = (y tracker).transcript handler reply s

variable {x y : Deliberation α} {f g : α → Deliberation β} {a : α}

theorem run_resume (f : α → Deliberation β) (reasons : List Reason) :
    (resume f ⟨.ok a, tracker, reasons⟩).run handler reply s
      = ({ ((f a tracker).run handler reply s).1 with
            reasons := reasons ++ ((f a tracker).run handler reply s).1.reasons },
          ((f a tracker).run handler reply s).2) :=
  Plan.run_bind ..

theorem transcript_resume (f : α → Deliberation β) (reasons : List Reason) :
    (resume f ⟨.ok a, tracker, reasons⟩).transcript handler reply s
      = (f a tracker).transcript handler reply s :=
  Plan.transcript_bind ..

/-- What passes in a sequence is what passes in the second part after what passes in the first. -/
theorem Ends.transcript_bind (h : x.Ends handler reply tracker s (.ok a) tracker₁ s₁) :
    ((x >>= f) tracker).transcript handler reply s
      = (f a tracker₁).transcript handler reply s₁ ++ (x tracker).transcript handler reply s := by
  obtain ⟨reasons, hrun⟩ := h
  rw [bind_apply, Plan.transcript_bind, hrun, transcript_resume]

theorem Ends.transcript_bind_error {e : Bandit.Failure}
    (h : x.Ends handler reply tracker s (.error e) tracker₁ s₁) :
    ((x >>= f) tracker).transcript handler reply s = (x tracker).transcript handler reply s := by
  obtain ⟨reasons, hrun⟩ := h
  rw [bind_apply, Plan.transcript_bind, hrun]
  rfl

theorem mem_transcript_bind {y : Exchange} (h : y ∈ (x tracker).transcript handler reply s) :
    y ∈ ((x >>= f) tracker).transcript handler reply s := by
  rw [bind_apply, Plan.transcript_bind]
  exact List.mem_append_right _ h

/-- Sequences that go on in the same way after the same first part agree. -/
theorem Ends.agrees_bind (h : x.Ends handler reply tracker s (.ok a) tracker₁ s₁)
    (hf : Agrees handler reply (f a) (g a) tracker₁ s₁) :
    Agrees handler reply (x >>= f) (x >>= g) tracker s where
  run := by
    obtain ⟨reasons, hrun⟩ := h
    rw [bind_apply, bind_apply, Plan.run_bind, Plan.run_bind, hrun, run_resume, run_resume, hf.run]
  transcript := by
    rw [h.transcript_bind, h.transcript_bind, hf.transcript]

theorem Ends.agrees_bind_error {e : Bandit.Failure}
    (h : x.Ends handler reply tracker s (.error e) tracker₁ s₁) :
    Agrees handler reply (x >>= f) (x >>= g) tracker s where
  run := by
    obtain ⟨reasons, hrun⟩ := h
    rw [run_bind_of_error hrun, run_bind_of_error hrun]
  transcript := by
    rw [h.transcript_bind_error, h.transcript_bind_error]

/-! ## Alternatives in turn -/

/-- Asks alternatives in turn until one of them answers. The answer may be that there is nothing, as it is if
none of them answers. -/
def inTurn : List (Deliberation (Option (Option α))) → Deliberation (Option α)
  | [] => return none
  | x :: xs => do
    match ← x with
    | some a => return a
    | none => inTurn xs

variable {result : Except Bandit.Failure (Option α)} {x : Deliberation (Option (Option α))}
  {xs ys zs : List (Deliberation (Option (Option α)))}

theorem inTurn_cons (x : Deliberation (Option (Option α))) (xs : List (Deliberation (Option (Option α)))) :
    inTurn (x :: xs) = x >>= fun
      | some a => return a
      | none => inTurn xs :=
  rfl

/-- The first alternative settles the matter if it answers or fails. -/
theorem ends_inTurn_of_answered (h : x.Ends handler reply tracker s (result.map some) tracker' s') :
    (inTurn (x :: xs)).Ends handler reply tracker s result tracker' s' := by
  rw [inTurn_cons]
  cases result with
  | error e => exact h.bind_error
  | ok a => exact h.bind (ends_pure.mpr ⟨rfl, rfl, rfl⟩)

theorem agrees_inTurn_of_answered (h : x.Ends handler reply tracker s (result.map some) tracker' s') :
    Agrees handler reply (inTurn (x :: xs)) (inTurn (x :: ys)) tracker s := by
  rw [inTurn_cons, inTurn_cons]
  cases result with
  | error e => exact h.agrees_bind_error
  | ok a => exact h.agrees_bind ⟨rfl, rfl⟩

/-- In a run alternatives are passed one after the other, none of them having an answer. -/
inductive Passes (handler : Plan.Handler σ) (reply : Bandit.Call → σ → Bandit.Reply × σ) :
    List (Deliberation (Option (Option α))) → Option Tracker → σ → Option Tracker → σ → Prop where
  | nil {tracker : Option Tracker} {s : σ} : Passes handler reply [] tracker s tracker s
  | cons {x : Deliberation (Option (Option α))} {xs : List (Deliberation (Option (Option α)))}
      {tracker tracker₁ tracker' : Option Tracker} {s s₁ s' : σ} :
      x.Ends handler reply tracker s (.ok none) tracker₁ s₁ →
      Passes handler reply xs tracker₁ s₁ tracker' s' →
      Passes handler reply (x :: xs) tracker s tracker' s'

namespace Passes

theorem ends (h : Passes handler reply xs tracker s tracker₁ s₁)
    (hy : (inTurn ys).Ends handler reply tracker₁ s₁ result tracker' s') :
    (inTurn (xs ++ ys)).Ends handler reply tracker s result tracker' s' := by
  induction h with
  | nil => exact hy
  | cons hx _ ih => exact hx.bind (ih hy)

theorem agrees (h : Passes handler reply xs tracker s tracker₁ s₁)
    (hy : Agrees handler reply (inTurn ys) (inTurn zs) tracker₁ s₁) :
    Agrees handler reply (inTurn (xs ++ ys)) (inTurn (xs ++ zs)) tracker s := by
  induction h with
  | nil => exact hy
  | cons hx _ ih => exact hx.agrees_bind (ih hy)

/-- After an answer it does not matter which alternatives are left. -/
theorem agrees_of_answered (h : Passes handler reply xs tracker s tracker₁ s₁)
    (hx : x.Ends handler reply tracker₁ s₁ (result.map some) tracker' s') :
    Agrees handler reply (inTurn (xs ++ x :: ys)) (inTurn (xs ++ x :: zs)) tracker s :=
  h.agrees (agrees_inTurn_of_answered hx)

theorem mem_transcript {y : Exchange} (h : Passes handler reply xs tracker s tracker₁ s₁)
    (hy : y ∈ (inTurn ys tracker₁).transcript handler reply s₁) :
    y ∈ (inTurn (xs ++ ys) tracker).transcript handler reply s := by
  induction h with
  | nil => exact hy
  | cons hx _ ih =>
    rw [List.cons_append, inTurn_cons, hx.transcript_bind]
    exact List.mem_append_left _ (ih hy)

end Passes

/-! ## The first to answer -/

variable {ι : Type} {settles : ι → Except Bandit.Failure (Option α) → Prop}
  {ask : ι → Deliberation (Option (Option α))} {i : ι} {is before after : List ι}

/-- One of the alternatives has its turn in a run. If something settles it, this is its answer, and otherwise it
is passed, with the tracker and the services as they are then. -/
inductive Turn (handler : Plan.Handler σ) (reply : Bandit.Call → σ → Bandit.Reply × σ)
    (settles : ι → Except Bandit.Failure (Option α) → Prop) (ask : ι → Deliberation (Option (Option α))) (i : ι)
    (tracker : Option Tracker) (s : σ) (tracker' : Option Tracker) (s' : σ) : Prop where
  | answers {result : Except Bandit.Failure (Option α)} {tracker₁ : Option Tracker} {s₁ : σ} :
      settles i result → (ask i).Ends handler reply tracker s (result.map some) tracker₁ s₁ →
      Turn handler reply settles ask i tracker s tracker' s'
  | passes : (∀ result, ¬ settles i result) → (ask i).Ends handler reply tracker s (.ok none) tracker' s' →
      Turn handler reply settles ask i tracker s tracker' s'

/-- In a run one of the alternatives is the first that something settles, and this is its answer. Those before
it are passed. -/
structure AnswersFirst (handler : Plan.Handler σ) (reply : Bandit.Call → σ → Bandit.Reply × σ)
    (settles : ι → Except Bandit.Failure (Option α) → Prop) (ask : ι → Deliberation (Option (Option α)))
    (tracker : Option Tracker) (s : σ) (is before : List ι) (i : ι) (after : List ι)
    (result : Except Bandit.Failure (Option α)) (tracker' : Option Tracker) (s' : σ) : Prop where
  listed : is = before ++ i :: after
  unsettled : ∀ j ∈ before, ∀ r, ¬ settles j r
  settled : settles i result
  answered : ∃ tracker₁ s₁, Passes handler reply (before.map ask) tracker s tracker₁ s₁ ∧
    (ask i).Ends handler reply tracker₁ s₁ (result.map some) tracker' s'

/-- There is a first one among some alternatives if one is found after a turn that settles nothing. -/
theorem Turn.exists_answersFirst (h : Turn handler reply settles ask i tracker s tracker₁ s₁)
    (hrest : (∀ result, ¬ settles i result) → ∃ before j after result tracker' s',
      AnswersFirst handler reply settles ask tracker₁ s₁ is before j after result tracker' s') :
    ∃ before j after result tracker' s',
      AnswersFirst handler reply settles ask tracker s (i :: is) before j after result tracker' s' := by
  cases h with
  | answers hsettles hends => exact ⟨[], i, is, _, _, _, rfl, nofun, hsettles, _, _, .nil, hends⟩
  | passes hunsettled hends =>
    obtain ⟨before, j, after, result, tracker', s', rfl, hbefore, hsettles, _, _, hpasses, hanswer⟩ :=
      hrest hunsettled
    exact ⟨i :: before, j, after, result, tracker', s', rfl, List.forall_mem_cons.mpr ⟨hunsettled, hbefore⟩,
      hsettles, _, _, .cons hends hpasses, hanswer⟩

namespace AnswersFirst

theorem ends (h : AnswersFirst handler reply settles ask tracker s is before i after result tracker' s') :
    (inTurn (is.map ask)).Ends handler reply tracker s result tracker' s' := by
  obtain ⟨_, _, hpasses, hanswer⟩ := h.answered
  rw [h.listed, List.map_append, List.map_cons]
  exact hpasses.ends (ends_inTurn_of_answered hanswer)

/-- What comes after the first one has no part in the run. -/
theorem agrees (h : AnswersFirst handler reply settles ask tracker s is before i after result tracker' s')
    (later : List (Deliberation (Option (Option α)))) :
    Agrees handler reply (inTurn (is.map ask)) (inTurn (before.map ask ++ ask i :: later)) tracker s := by
  obtain ⟨_, _, hpasses, hanswer⟩ := h.answered
  rw [h.listed, List.map_append, List.map_cons]
  exact hpasses.agrees_of_answered hanswer

end AnswersFirst

end Deliberation

/-! ## Deliberations without bandits -/

/-- The exchange is about the decision of a bandit. -/
def Exchange.concernsBandit : Exchange → Bool
  | .asked (.beginDecision _ _ _) _ | .asked (.completeDecision _ _ _) _ | .asked .uuid _ => true
  | .asked _ _ => false
  | .fetched _ _ => true

theorem Plan.Only.concernsBandit_eq_false {x : Plan α} (hx : x.Only Query.IsOrdinary) :
    ∀ y ∈ x.transcript handler reply s, y.concernsBandit = false := by
  induction x generalizing s with
  | done a => exact nofun
  | ask q next ih =>
    intro y hy
    rcases List.mem_append.mp hy with hy | hy
    · exact ih _ (hx.2 _) y hy
    · rw [List.mem_singleton.mp hy]
      cases q with
      | project | forcedVariation | profile | saveVariation => rfl
      | beginDecision | completeDecision | uuid => exact hx.1.elim
  | fetch call next _ => exact hx.elim

namespace Deliberation

/-- The deliberation asks nothing about bandits, and fetches nothing. -/
def IsOrdinary (x : Deliberation α) : Prop :=
  x.Only Query.IsOrdinary

theorem composed_isOrdinary : Composed fun _ x => x.IsOrdinary where
  ofReasoned _ _ := trivial
  fail _ _ _ := trivial
  forced _ _ _ := ⟨trivial, fun _ => trivial⟩
  bind {_ _ _ f} hx hf tracker := by
    refine (hx tracker).bind fun o => ?_
    obtain ⟨result, tracker', reasons⟩ := o
    cases result with
    | error e => trivial
    | ok a => exact (hf a tracker').bind fun _ => trivial

theorem isOrdinary_saved? (id : String) : (saved? id).IsOrdinary :=
  (only_saved? id).mono fun _ hq => hq.isOrdinary

theorem isOrdinary_record (id variationId : String) : (record id variationId).IsOrdinary :=
  (only_record id variationId).mono fun _ hq => hq.isOrdinary

theorem isOrdinary_inTurn {xs : List (Deliberation (Option (Option α)))} (h : ∀ x ∈ xs, x.IsOrdinary) :
    (inTurn xs).IsOrdinary := by
  induction xs with
  | nil => exact composed_isOrdinary.pure _
  | cons x xs ih =>
    obtain ⟨hx, hxs⟩ := List.forall_mem_cons.mp h
    refine composed_isOrdinary.bind hx fun answer => ?_
    cases answer with
    | some a => exact composed_isOrdinary.pure _
    | none => exact ih hxs

end Deliberation

end FlagEngine
