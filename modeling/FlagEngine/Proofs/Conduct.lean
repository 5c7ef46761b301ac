import FlagEngine.Proofs.Discipline
import FlagEngine.Proofs.Interleaving

/-!
# Conduct

Interleaved calls that follow a discipline. As long as the answers to a call are what is relied on, the
rest of the call follows the discipline, however the other calls and the services behave:
`Interleaving.disciplined_after`.
-/

namespace FlagEngine

/-- What is relied on holds of all answers to a call. -/
def Heard {ι α : Type} (D : Discipline) (id : Nat) (log : List (Occurrence ι α)) : Prop :=
  ∀ q a, .asked id q a ∈ log → D.told q a

theorem Heard.of_suffix {ι α : Type} {D : Discipline} {id : Nat} {log log' : List (Occurrence ι α)}
    (h : Heard D id log') (hs : log <:+ log') : Heard D id log :=
  fun q a ha => h q a (hs.subset ha)

/-- How a call goes on under a discipline. -/
def Plan.Progress.Follows {α : Type} (D : Discipline) : Progress α → Prop
  | .finished _ => True
  | .waiting _ next => ∀ reply, (next reply).Follows D fun _ => True

namespace Interleaving

variable {ι α : Type} {D : Discipline} {s : Interleaving ι α} {id : Nat} {x : Plan α}

theorem follows_advance {services : Services} {log : List (Occurrence ι α)}
    (hx : x.Follows D fun _ => True)
    (hd : Heard D id (x.advance (answer id) (services, log)).2.2) :
    (x.advance (answer id) (services, log)).1.Follows D := by
  induction x generalizing services log with
  | done a => trivial
  | ask q next ih =>
    refine ih _ (hx.2 _ (hd q _ ?_)) hd
    exact (suffix_advance id (next _) _ _).subset List.mem_cons_self
  | fetch call next _ => exact hx

theorem follows_proceed {next : Bandit.Reply → Plan α} (hx : x.Follows D fun _ => True)
    (hd : Heard D id (s.proceed id x).log) (hn : (s.proceed id x).waiting id = some next) :
    ∀ reply, (next reply).Follows D fun _ => True := by
  unfold proceed at hd hn
  split at hd
  · next ha =>
    simp only [ha, Function.update_self] at hn
    cases hn
  · next fetch next' services log ha =>
    simp only [ha, Function.update_self, Option.some.injEq] at hn
    subst hn
    have hprogress : (x.advance (answer id) (s.services, s.log)).1.Follows D := by
      refine follows_advance hx ?_
      rw [ha]
      exact hd.of_suffix (List.suffix_cons ..)
    rwa [ha] at hprogress

/-- What holds of all calls that follow a discipline. -/
structure Disciplined (D : Discipline) (s : Interleaving ι α) : Prop where
  asked_lt : ∀ {id q a}, .asked id q a ∈ s.log → id < s.begun
  waiting_lt : ∀ {id next}, s.waiting id = some next → id < s.begun
  follows : ∀ {id next}, s.waiting id = some next → Heard D id s.log →
    ∀ reply, (next reply).Follows D fun _ => True

theorem disciplined_initial (services : Services) :
    Disciplined D (initial services : Interleaving ι α) where
  asked_lt h := by cases h
  waiting_lt h := by cases h
  follows h := by cases h

theorem Disciplined.proceed (h : Disciplined D s) (hid : id < s.begun)
    (hx : Heard D id s.log → x.Follows D fun _ => True) : Disciplined D (s.proceed id x) := by
  refine ⟨fun {id' q a} ha => ?_, fun {id' next} hn => ?_, fun {id' next} hn hd => ?_⟩
  · rw [begun_proceed]
    rcases asked_advance (asked_proceed ha) with ha | rfl
    · exact h.asked_lt ha
    · exact hid
  · rw [begun_proceed]
    by_cases he : id' = id
    · exact he ▸ hid
    · rw [waiting_proceed_of_ne he] at hn
      exact h.waiting_lt hn
  · have hheard := hd.of_suffix (suffix_proceed s id x)
    by_cases he : id' = id
    · subst he
      exact follows_proceed (hx hheard) hd hn
    · rw [waiting_proceed_of_ne he] at hn
      exact h.follows hn hheard

/-- An occurrence that is no answer changes nothing for the calls. -/
theorem Disciplined.note (h : Disciplined D s) {services : Services} {n : Nat} {y : Occurrence ι α}
    (hn : s.begun ≤ n) (hy : ∀ id q a, y ≠ .asked id q a) :
    Disciplined D ⟨services, s.waiting, n, y :: s.log⟩ where
  asked_lt := by
    intro id q a ha
    rcases List.mem_cons.mp ha with ha | ha
    · exact (hy id q a ha.symm).elim
    · exact Nat.lt_of_lt_of_le (h.asked_lt ha) hn
  waiting_lt hw := Nat.lt_of_lt_of_le (h.waiting_lt hw) hn
  follows hw hd := h.follows hw (hd.of_suffix (List.suffix_cons ..))

theorem of_update_none {β : Type} {w : Nat → Option β} {id id' : Nat} {b : β}
    (h : Function.update w id none id' = some b) : w id' = some b := by
  by_cases he : id' = id
  · rw [he, Function.update_self] at h
    cases h
  · rwa [Function.update_of_ne he] at h

theorem Disciplined.step (h : Disciplined D s) {plan : ι → Plan α}
    (hplan : ∀ call, (plan call).Follows D fun _ => True) (y : Step ι) :
    Disciplined D (s.step plan y) := by
  cases y with
  | begin call =>
    have hbegan : Disciplined D { s with begun := s.begun + 1, log := .began s.begun call :: s.log } :=
      h.note (Nat.le_succ _) (by simp)
    exact hbegan.proceed (Nat.lt_succ_self _) fun _ => hplan call
  | reply id reply =>
    simp only [Interleaving.step]
    split
    · exact h
    · next next hw =>
      have hreplied : Disciplined D { s with log := .replied id reply :: s.log } :=
        h.note (Nat.le_refl _) (by simp)
      refine hreplied.proceed (h.waiting_lt hw) fun hd => ?_
      exact h.follows hw (hd.of_suffix (List.suffix_cons ..)) reply
  | abandon id =>
    simp only [Interleaving.step]
    split
    · exact h
    · have habandoned : Disciplined D { s with log := .abandoned id :: s.log } :=
        h.note (Nat.le_refl _) (by simp)
      refine ⟨habandoned.asked_lt, fun hw => ?_, fun hw hd => ?_⟩
      · exact h.waiting_lt (of_update_none hw)
      · exact habandoned.follows (of_update_none hw) hd
  | change change => exact h.note (Nat.le_refl _) (by simp)

theorem disciplined_after {plan : ι → Plan α} (hplan : ∀ call, (plan call).Follows D fun _ => True)
    (services : Services) (steps : List (Step ι)) : Disciplined D (after plan services steps) := by
  induction steps with
  | nil => exact disciplined_initial services
  | cons y earlier ih => exact ih.step hplan y

end Interleaving

end FlagEngine
