import FlagEngine.Proofs.Discipline

/-!
# Runs of deliberations

`Deliberation.Ends` says what a deliberation comes to in a run, and where it leaves the tracker and the
services; of its reasons nothing is said. A deliberation in sequence with another ends as `ends_bind` tells:
a failure of the first is the failure of both, and the second does not come to pass. A deliberation that
never fails, and what it comes to, is told by `Deliberation.Attains`.
-/

namespace FlagEngine

variable {α β σ : Type} {handler : Plan.Handler σ} {reply : Bandit.Call → σ → Bandit.Reply × σ}
  {tracker tracker' : Option Tracker} {s s' : σ}

theorem Plan.run_query_project (f : Option Project → Plan α) (s : σ) :
    ((query .project : Plan (Option Project)) >>= f).run handler reply s
      = (f (handler .project s).1).run handler reply (handler .project s).2 := rfl

namespace Deliberation

/-- A deliberation is carried out, and then the profile is saved. -/
theorem run_settle (x : Deliberation α) (tracker : Option Tracker) (s : σ) :
    let r := (x tracker).run handler reply s
    (x.settle tracker).run handler reply s
      = (r.1, ((Tracker.saveIfAny r.1.tracker).run handler reply r.2).2) := by
  intro r
  unfold settle
  rw [Plan.run_bind, Plan.run_bind]
  rfl

theorem run_each_cons (x : Deliberation α) (xs : List (Deliberation α)) (tracker : Option Tracker) (s : σ) :
    let a := (x tracker).run handler reply s
    let b := (each xs a.1.tracker).run handler reply a.2
    (each (x :: xs) tracker).run handler reply s = ((a.1 :: b.1.1, b.1.2), b.2) := by
  intro a b
  rw [each, Plan.run_bind, Plan.run_bind]
  rfl

/-- In a run the deliberation comes to a result, with the tracker and the services as they are then. -/
def Ends (handler : Plan.Handler σ) (reply : Bandit.Call → σ → Bandit.Reply × σ) (x : Deliberation α)
    (tracker : Option Tracker) (s : σ) (result : Except Bandit.Failure α) (tracker' : Option Tracker)
    (s' : σ) : Prop :=
  ∃ reasons, (x tracker).run handler reply s = (⟨result, tracker', reasons⟩, s')

variable {x : Deliberation α} {f : α → Deliberation β} {result : Except Bandit.Failure α}

theorem exists_ends (handler : Plan.Handler σ) (reply : Bandit.Call → σ → Bandit.Reply × σ)
    (x : Deliberation α) (tracker : Option Tracker) (s : σ) :
    ∃ result tracker' s', x.Ends handler reply tracker s result tracker' s' :=
  ⟨_, _, _, _, rfl⟩

theorem Ends.unique {result' : Except Bandit.Failure α} {tracker'' : Option Tracker} {s'' : σ}
    (h : x.Ends handler reply tracker s result tracker' s')
    (h' : x.Ends handler reply tracker s result' tracker'' s'') :
    result = result' ∧ tracker' = tracker'' ∧ s' = s'' := by
  obtain ⟨reasons, h⟩ := h
  obtain ⟨reasons', h'⟩ := h'
  cases h.symm.trans h'
  exact ⟨rfl, rfl, rfl⟩

/-! ## The parts of a deliberation -/

theorem ends_ofReasoned {r : Reasoned α} :
    (ofReasoned r).Ends handler reply tracker s result tracker' s' ↔
      result = .ok r.value ∧ tracker' = tracker ∧ s' = s := by
  constructor
  · rintro ⟨reasons, h⟩
    cases h
    exact ⟨rfl, rfl, rfl⟩
  · rintro ⟨rfl, rfl, rfl⟩
    exact ⟨_, rfl⟩

theorem ends_note (r : Reason) :
    (note r).Ends handler reply tracker s (.ok ()) tracker s :=
  ends_ofReasoned.mpr ⟨rfl, rfl, rfl⟩

theorem ends_pure {a : α} :
    (Pure.pure a : Deliberation α).Ends handler reply tracker s result tracker' s' ↔
      result = .ok a ∧ tracker' = tracker ∧ s' = s :=
  ends_ofReasoned (r := Pure.pure a)

theorem ends_fail {r : Reason} {e : Bandit.Failure} :
    (fail r e : Deliberation α).Ends handler reply tracker s result tracker' s' ↔
      result = .error e ∧ tracker' = tracker ∧ s' = s := by
  constructor
  · rintro ⟨reasons, h⟩
    cases h
    exact ⟨rfl, rfl, rfl⟩
  · rintro ⟨rfl, rfl, rfl⟩
    exact ⟨_, rfl⟩

theorem ends_ofPlan {plan : Plan α} :
    (ofPlan plan).Ends handler reply tracker s result tracker' s' ↔
      result = .ok (plan.run handler reply s).1 ∧ tracker' = tracker ∧
        s' = (plan.run handler reply s).2 := by
  have hrun : ((ofPlan plan) tracker).run handler reply s
      = (⟨.ok (plan.run handler reply s).1, tracker, []⟩, (plan.run handler reply s).2) :=
    Plan.run_bind ..
  constructor
  · rintro ⟨reasons, h⟩
    cases hrun.symm.trans h
    exact ⟨rfl, rfl, rfl⟩
  · rintro ⟨rfl, rfl, rfl⟩
    exact ⟨_, hrun⟩

theorem ends_ofPlan_of_run {plan : Plan α} {a : α} (h : plan.run handler reply s = (a, s')) :
    (ofPlan plan).Ends handler reply tracker s (.ok a) tracker s' :=
  ends_ofPlan.mpr ⟨by rw [h], rfl, by rw [h]⟩

/-! ## Sequences -/

theorem run_bind_of_error {e : Bandit.Failure} {reasons : List Reason}
    (h : (x tracker).run handler reply s = (⟨.error e, tracker', reasons⟩, s')) :
    ((x >>= f) tracker).run handler reply s = (⟨.error e, tracker', reasons⟩, s') := by
  rw [bind_apply, Plan.run_bind, h]
  rfl

theorem Ends.bind_error {e : Bandit.Failure}
    (h : x.Ends handler reply tracker s (.error e) tracker' s') :
    (x >>= f).Ends handler reply tracker s (.error e) tracker' s' := by
  obtain ⟨reasons, h⟩ := h
  exact ⟨reasons, run_bind_of_error h⟩

theorem Ends.bind {a : α} {result : Except Bandit.Failure β} {tracker'' : Option Tracker} {s'' : σ}
    (h : x.Ends handler reply tracker s (.ok a) tracker' s')
    (hf : (f a).Ends handler reply tracker' s' result tracker'' s'') :
    (x >>= f).Ends handler reply tracker s result tracker'' s'' := by
  obtain ⟨reasons, h⟩ := h
  obtain ⟨reasons', hf⟩ := hf
  refine ⟨reasons ++ reasons', ?_⟩
  rw [bind_apply, Plan.run_bind, h]
  refine (Plan.run_bind ..).trans ?_
  rw [hf]
  rfl

theorem ends_bind {result : Except Bandit.Failure β} :
    (x >>= f).Ends handler reply tracker s result tracker' s' ↔
      (∃ e, result = .error e ∧ x.Ends handler reply tracker s (.error e) tracker' s') ∨
        ∃ a tracker₁ s₁, x.Ends handler reply tracker s (.ok a) tracker₁ s₁ ∧
          (f a).Ends handler reply tracker₁ s₁ result tracker' s' := by
  constructor
  · intro h
    obtain ⟨first, tracker₁, s₁, hx⟩ := exists_ends handler reply x tracker s
    cases first with
    | error e =>
      obtain ⟨rfl, rfl, rfl⟩ := h.unique hx.bind_error
      exact .inl ⟨e, rfl, hx⟩
    | ok a =>
      obtain ⟨second, tracker₂, s₂, hf⟩ := exists_ends handler reply (f a) tracker₁ s₁
      obtain ⟨rfl, rfl, rfl⟩ := h.unique (hx.bind hf)
      exact .inr ⟨a, tracker₁, s₁, hx, hf⟩
  · rintro (⟨e, rfl, hx⟩ | ⟨a, tracker₁, s₁, hx, hf⟩)
    · exact hx.bind_error
    · exact hx.bind hf

/-- If it is known what comes first, it is known how things go on. -/
theorem Ends.bind_iff {a : α} {tracker₁ : Option Tracker} {s₁ : σ} {result : Except Bandit.Failure β}
    (h : x.Ends handler reply tracker s (.ok a) tracker₁ s₁) :
    (x >>= f).Ends handler reply tracker s result tracker' s' ↔
      (f a).Ends handler reply tracker₁ s₁ result tracker' s' := by
  refine ⟨fun hends => ?_, h.bind⟩
  rcases ends_bind.mp hends with ⟨e, rfl, hx⟩ | ⟨a', tracker₂, s₂, hx, hf⟩
  · obtain ⟨⟨⟩, -⟩ := h.unique hx
  · obtain ⟨⟨⟩, rfl, rfl⟩ := h.unique hx
    exact hf

theorem ends_ofReasoned_bind {r : Reasoned α} {result : Except Bandit.Failure β} :
    (ofReasoned r >>= f).Ends handler reply tracker s result tracker' s' ↔
      (f r.value).Ends handler reply tracker s result tracker' s' :=
  (ends_ofReasoned.mpr ⟨rfl, rfl, rfl⟩).bind_iff

theorem ends_pure_bind {a : α} {result : Except Bandit.Failure β} :
    ((Pure.pure a : Deliberation α) >>= f).Ends handler reply tracker s result tracker' s' ↔
      (f a).Ends handler reply tracker s result tracker' s' :=
  (ends_pure.mpr ⟨rfl, rfl, rfl⟩).bind_iff

/-! ## Deliberations that never fail -/

variable {P : α → Prop} {Q : β → Prop}

/-- The deliberation does not fail and comes to a value with the property, whatever it is told on the way. -/
def Attains (P : α → Prop) (x : Deliberation α) : Prop :=
  x.Follows unrestricted (fun _ => True) fun result _ => ∃ a, result = .ok a ∧ P a

theorem Attains.bind (hx : x.Attains P) (hf : ∀ a, P a → (f a).Attains Q) : (x >>= f).Attains Q := by
  refine Follows.bind hx (fun a tracker ha => ?_) ?_
  · obtain ⟨_, ⟨⟩, ha⟩ := ha
    exact hf a ha tracker trivial
  · rintro e tracker ⟨_, ⟨⟩, _⟩

theorem attains_pure {a : α} (h : P a) : (Pure.pure a : Deliberation α).Attains P :=
  fun _ _ => ⟨a, rfl, h⟩

theorem attains_ofReasoned {r : Reasoned α} (h : P r.value) : (ofReasoned r).Attains P :=
  fun _ _ => ⟨r.value, rfl, h⟩

theorem attains_ofReasoned_bind {r : Reasoned α} (h : (f r.value).Attains Q) :
    (ofReasoned r >>= f).Attains Q :=
  (attains_ofReasoned (P := (· = r.value)) rfl).bind fun _ ha => ha ▸ h

/-- A plan does not fail. -/
theorem attains_ofPlan (plan : Plan α) : (ofPlan plan).Attains fun _ => True :=
  fun _ _ => plan.follows_unrestricted.bind fun a _ => ⟨a, rfl, trivial⟩

theorem attains_saved? (experimentId : String) : (saved? experimentId).Attains fun _ => True := by
  intro tracker _
  cases tracker with
  | none => exact ⟨none, rfl, trivial⟩
  | some t =>
    exact (t.saved? experimentId).follows_unrestricted.bind fun answer _ => ⟨answer.1, rfl, trivial⟩

theorem attains_record (experimentId variationId : String) :
    (record experimentId variationId).Attains fun _ => True := by
  intro tracker _
  cases tracker with
  | none => exact ⟨(), rfl, trivial⟩
  | some t =>
    exact (t.record experimentId variationId).follows_unrestricted.bind fun _ _ => ⟨(), rfl, trivial⟩

theorem Attains.of_ends (hx : x.Attains P) (h : x.Ends handler reply tracker s result tracker' s') :
    ∃ a, result = .ok a ∧ P a := by
  obtain ⟨reasons, h⟩ := h
  have hrun : ∃ a, ((x tracker).run handler reply s).1.result = .ok a ∧ P a :=
    (hx tracker trivial).run (fun _ _ => trivial) reply s
  rw [h] at hrun
  exact hrun

/-- To put a user into a variation always succeeds. -/
theorem exists_ends_record (handler : Plan.Handler σ) (reply : Bandit.Call → σ → Bandit.Reply × σ)
    (experimentId variationId : String) (tracker : Option Tracker) (s : σ) :
    ∃ tracker' s', (record experimentId variationId).Ends handler reply tracker s (.ok ()) tracker' s' := by
  obtain ⟨result, tracker', s', h⟩ := exists_ends handler reply (record experimentId variationId) tracker s
  obtain ⟨_, rfl, -⟩ := (attains_record experimentId variationId).of_ends h
  exact ⟨tracker', s', h⟩

end Deliberation

end FlagEngine
