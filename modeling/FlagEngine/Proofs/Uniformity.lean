import FlagEngine.Proofs.WriteBack

/-!
# Uniformity

What a deliberation does depends on the profiles only through the store that saving the tracker would
leave. Whether earlier changes have been saved already makes no difference: `Flag.uniform_deliberate`.
-/

namespace FlagEngine

variable {κ α β : Type} {responder : Responder κ} {owner : Option String}

/-- A tracker of the owner, if there is an owner, that agrees with the profiles of the world. -/
structure Kept (owner : Option String) (a : Option Tracker × World κ) : Prop where
  owned : a.1.map (·.userId) = owner
  coherent : ∀ t, a.1 = some t → t.Coherent a.2.services.profiles

/-- The worlds are the same once the trackers are saved. -/
structure Related (owner : Option String) (a b : Option Tracker × World κ) : Prop where
  left : Kept owner a
  right : Kept owner b
  agrees : a.2.Agrees b.2
  same : (Tracker.flushAny a.1 a.2.services.profiles).Same
    (Tracker.flushAny b.1 b.2.services.profiles)

structure Matched (owner : Option String) (a b : Outcome α × World κ) : Prop where
  result : a.1.result = b.1.result
  reasons : a.1.reasons = b.1.reasons
  related : Related owner (a.1.tracker, a.2) (b.1.tracker, b.2)

/-- From related states the deliberation leads to the same result and to related states. -/
def Uniform (responder : Responder κ) (owner : Option String) (x : Deliberation α) : Prop :=
  ∀ a b, Related owner a b →
    Matched owner ((x a.1).play responder a.2) ((x b.1).play responder b.2)

theorem Uniform.bind {x : Deliberation α} {f : α → Deliberation β} (hx : Uniform responder owner x)
    (hf : ∀ a, Uniform responder owner (f a)) : Uniform responder owner (x >>= f) := by
  intro a b h
  have hm := hx a b h
  rw [Deliberation.bind_apply, Deliberation.bind_apply, Plan.play_bind, Plan.play_bind]
  generalize (x a.1).play responder a.2 = ra at hm ⊢
  generalize (x b.1).play responder b.2 = rb at hm ⊢
  obtain ⟨⟨result, tracker, reasons⟩, w⟩ := ra
  obtain ⟨⟨result', tracker', reasons'⟩, w'⟩ := rb
  obtain ⟨hresult, hreasons, hrelated⟩ := hm
  obtain rfl : result = result' := hresult
  obtain rfl : reasons = reasons' := hreasons
  cases result with
  | error e => exact ⟨rfl, rfl, hrelated⟩
  | ok c =>
    obtain ⟨hresult', hreasons', hrelated'⟩ := hf c _ _ hrelated
    simp only [Deliberation.resume, Plan.play_bind]
    exact ⟨hresult', congrArg (reasons ++ ·) hreasons', hrelated'⟩

/-- Plans that leave profiles alone. -/
theorem uniform_ofPlan {x : Plan α} (hx : x.Follows profileFree fun _ => True) :
    Uniform responder owner (Deliberation.ofPlan x) := by
  rintro ⟨tracker, w⟩ ⟨tracker', w'⟩ h
  have hw : w = w'.withProfiles w.services.profiles := h.agrees.eq
  have hplay : x.play responder w = ((x.play responder w').1,
      (x.play responder w').2.withProfiles w.services.profiles) := by
    rw [hw, Plan.play_withProfiles hx]
    rfl
  have hprofiles : (x.play responder w').2.services.profiles = w'.services.profiles :=
    Plan.play_profiles hx w'
  simp only [Deliberation.ofPlan, Plan.play_bind, hplay]
  refine ⟨rfl, rfl, ⟨h.left.owned, h.left.coherent⟩, ⟨h.right.owned, ?_⟩, rfl, ?_⟩
  · intro t ht
    change t.Coherent (x.play responder w').2.services.profiles
    rw [hprofiles]
    exact h.right.coherent t ht
  · change (Tracker.flushAny tracker _).Same
      (Tracker.flushAny tracker' (x.play responder w').2.services.profiles)
    rw [hprofiles]
    exact h.same

/-! ## The profile -/

namespace Deliberation

theorem play_saved? (responder : Responder κ) {tracker : Option Tracker} {w : World κ}
    (h : Kept owner (tracker, w)) (e : String) :
    ∃ tracker', (saved? e tracker).play responder w = (⟨.ok (owner.bind fun u =>
        ((Tracker.flushAny tracker w.services.profiles).profile u)[e]?), tracker', []⟩, w) ∧
      Kept owner (tracker', w) ∧
      Tracker.flushAny tracker' w.services.profiles = Tracker.flushAny tracker w.services.profiles := by
  obtain ⟨rfl, hc⟩ := h
  cases tracker with
  | none => exact ⟨none, rfl, ⟨rfl, hc⟩, rfl⟩
  | some t =>
    obtain ⟨t', hplay, hu, hf, hc'⟩ := Tracker.play_saved? responder (hc t rfl) e
    refine ⟨some t', ?_, ⟨congrArg some hu, ?_⟩, hf⟩
    · rw [saved?, Plan.play_bind, hplay]
      rfl
    · rintro _ ⟨⟩
      exact hc'

theorem play_record (responder : Responder κ) {tracker : Option Tracker} {w : World κ}
    (h : Kept owner (tracker, w)) (e v : String) :
    ∃ tracker', (record e v tracker).play responder w = (⟨.ok (), tracker', []⟩, w) ∧
      Kept owner (tracker', w) ∧
      (Tracker.flushAny tracker' w.services.profiles).Same
        (owner.elim (Tracker.flushAny tracker w.services.profiles) fun u =>
          (Tracker.flushAny tracker w.services.profiles).save u e v) := by
  obtain ⟨rfl, hc⟩ := h
  cases tracker with
  | none => exact ⟨none, rfl, ⟨rfl, hc⟩, .refl _⟩
  | some t =>
    obtain ⟨t', hplay, hu, hs, hc'⟩ := Tracker.play_record responder (hc t rfl) e v
    refine ⟨some t', ?_, ⟨congrArg some hu, ?_⟩, hs⟩
    · rw [record, Plan.play_bind, hplay]
      rfl
    · rintro _ ⟨⟩
      exact hc'

theorem uniform_saved? (e : String) : Uniform responder owner (saved? e) := by
  rintro ⟨tracker, w⟩ ⟨tracker', w'⟩ ⟨hleft, hright, hagrees, hsame⟩
  obtain ⟨tracker₁, hplay, hkept, hflush⟩ := play_saved? responder hleft e
  obtain ⟨tracker₁', hplay', hkept', hflush'⟩ := play_saved? responder hright e
  rw [hplay, hplay']
  refine ⟨?_, rfl, hkept, hkept', hagrees, ?_⟩
  · cases owner with
    | none => rfl
    | some u => exact congrArg Except.ok ((hsame u).2 e)
  · change (Tracker.flushAny tracker₁ _).Same (Tracker.flushAny tracker₁' _)
    rw [hflush, hflush']
    exact hsame

theorem uniform_record (e v : String) : Uniform responder owner (record e v) := by
  rintro ⟨tracker, w⟩ ⟨tracker', w'⟩ ⟨hleft, hright, hagrees, hsame⟩
  obtain ⟨tracker₁, hplay, hkept, hflush⟩ := play_record responder hleft e v
  obtain ⟨tracker₁', hplay', hkept', hflush'⟩ := play_record responder hright e v
  rw [hplay, hplay']
  refine ⟨rfl, rfl, hkept, hkept', hagrees, (hflush.trans ?_).trans hflush'.symm⟩
  cases owner with
  | none => exact hsame
  | some u => exact hsame.save u e v

end Deliberation

theorem inherited_uniform (responder : Responder κ) (owner : Option String) :
    Inherited fun _ x => Uniform responder owner x where
  ofReasoned _ _ _ h := ⟨rfl, rfl, h⟩
  fail _ _ _ _ h := ⟨rfl, rfl, h⟩
  forced _ _ := uniform_ofPlan (Plan.follows_query trivial fun _ _ => trivial)
  consult _ _ _ _ _ := uniform_ofPlan (Deliberation.follows_consult (fun _ hq _ => hq) ..)
  bind := Uniform.bind

theorem Flag.uniform_deliberate (responder : Responder κ) (engine : Engine) (p : Project)
    (flag : Flag) (user : User) (options : Options) :
    Uniform responder owner (flag.deliberate engine p user options) :=
  (inherited_uniform responder owner).deliberate fun _ _ _ =>
    (inherited_uniform responder owner).serve? (Deliberation.uniform_saved? _)
      (Deliberation.uniform_record _)

end FlagEngine
