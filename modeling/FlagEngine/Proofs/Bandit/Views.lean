import FlagEngine.Proofs.Bandit.Marks

/-!
# Views of the cache

What each operation of a cache does to its two views: its marks, and the entry that is stored under a
key. Tickets depend on the marks alone, so proofs about them need not look at entries.
-/

namespace FlagEngine.Bandit

/-- What the options of a call clear, the latest first. -/
def CacheOptions.clearings (options : CacheOptions) (key : String) : List Clearing :=
  (if options.invalidate then [.removal key] else []) ++ if options.reset then [.reset] else []

theorem CacheOptions.spares_of_mem_clearings {options : CacheOptions} {key other : String} {x : Clearing}
    (h : ¬ (options.reset = true ∨ options.invalidate = true ∧ other = key))
    (hx : x ∈ options.clearings key) : x.Spares other := by
  rw [CacheOptions.clearings, List.mem_append] at hx
  rcases hx with hx | hx
  · split at hx
    · next hi =>
      obtain rfl := List.mem_singleton.mp hx
      exact fun ho => h (.inr ⟨hi, ho.symm⟩)
    · cases hx
  · split at hx
    · next hr => exact (h (.inl hr)).elim
    · cases hx

namespace Cache

def marks (c : Cache) : Marks :=
  ⟨c.generation, c.epoch, c.removals⟩

variable {c : Cache} {key other fingerprint : String} {options : CacheOptions} {e : Entry} {t : Ticket}
  {s : Stored}

/-! ## Marks -/

@[simp] theorem marks_drop : (c.drop key).marks = c.marks := rfl

@[simp] theorem marks_save : (c.save key e).marks = c.marks := rfl

@[simp] theorem marks_elapse (nanos : Nat) : (c.elapse nanos).marks = c.marks := rfl

@[simp] theorem marks_reset : c.reset.marks = c.marks.clear .reset := rfl

@[simp] theorem marks_lookup : (c.lookup key).2.marks = c.marks := by
  unfold lookup
  split <;> rfl

@[simp] theorem marks_complete : (c.complete key e t).2.marks = c.marks := by
  unfold complete
  split <;> rfl

@[simp] theorem marks_remove : (c.remove key).marks = c.marks.clear (.removal key) := by
  by_cases h : c.marks.Folds (.removal key)
  · rw [Marks.clear_of_folds h, remove]
    exact congrArg marks (if_pos h)
  · rw [Marks.clear_of_not_folds h, remove]
    exact congrArg marks (if_neg h)

theorem ticket_eq : c.ticket = c.marks.ticket := rfl

theorem isCurrent_iff_marks : c.isCurrent key t = true ↔ c.marks.IsCurrent key t := by
  simp only [isCurrent, Bool.and_eq_true, beq_iff_eq, Marks.IsCurrent, marks, Option.all_eq_true,
    decide_eq_true_eq]

theorem marks_prepare :
    (c.prepare key options).marks = (options.clearings key).foldr (fun x m => m.clear x) c.marks := by
  unfold prepare CacheOptions.clearings
  cases options.invalidate <;> cases options.reset <;> simp

/-- What a call clears by its options does not put its own ticket out of date. -/
theorem isCurrent_prepare (h : options.reset = true ∨ c.marks.IsCurrent key c.marks.ticket) :
    (c.prepare key options).isCurrent key (c.prepare key options).ticket = true := by
  rw [isCurrent_iff_marks, ticket_eq, marks_prepare, CacheOptions.clearings]
  cases hi : options.invalidate with
  | true => exact Marks.isCurrent_ticket_clear _ (.inr rfl)
  | false =>
    cases hr : options.reset with
    | true => exact Marks.isCurrent_ticket_clear _ (.inl rfl)
    | false => exact h.resolve_left (by simp [hr])

/-! ## Stored entries -/

theorem stored?_reset : c.reset.stored? key = none := rfl

theorem entries_remove : (c.remove key).entries = (c.drop key).entries := by
  unfold remove
  split <;> rfl

theorem stored?_remove :
    (c.remove key).stored? other = if other = key then none else c.stored? other := by
  rw [← stored?_drop, stored?, entries_remove, stored?]

theorem stored?_lookup :
    (c.lookup key).2.stored? other = if other = key then c.live? key else c.stored? other := by
  unfold lookup
  cases h : c.live? key with
  | none => exact stored?_drop c key other
  | some s =>
    by_cases ho : other = key
    · simp [stored?, ho]
    · have hb : (other == key) = false := by simpa using ho
      have hd := stored?_drop c key other
      rw [if_neg ho] at hd ⊢
      rw [← hd, stored?, stored?, List.lookup_cons, hb]

private theorem lookup_take {α : Type} {entries : List (String × α)} {a : α} {n : Nat}
    (h : (entries.take n).lookup key = some a) : entries.lookup key = some a := by
  induction entries generalizing n with
  | nil => simp at h
  | cons e entries ih =>
    cases n with
    | zero => simp at h
    | succ n =>
      rw [List.take_succ_cons, List.lookup_cons] at h
      rw [List.lookup_cons]
      split at h
      · exact h
      · exact ih h

/-- A saved entry can push out another one and does not change it. -/
theorem stored?_save (h : (c.save key e).stored? other = some s) :
    other = key ∧ s = ⟨e, c.now + c.lifetime.nanos⟩ ∨ other ≠ key ∧ c.stored? other = some s := by
  have hs := lookup_take h
  rw [List.lookup_cons] at hs
  by_cases ho : other = key
  · simp only [ho, beq_self_eq_true, Option.some.injEq] at hs
    exact .inl ⟨ho, hs.symm⟩
  · have hb : (other == key) = false := by simpa using ho
    have hd := stored?_drop c key other
    rw [if_neg ho] at hd
    rw [hb] at hs
    exact .inr ⟨ho, hd.symm.trans hs⟩

theorem stored?_complete (h : (c.complete key e t).2.stored? other = some s) :
    other = key ∧ s.entry = e ∧ c.marks.IsCurrent key t ∨ c.stored? other = some s := by
  unfold complete at h
  split at h
  · next hc =>
    rw [Bool.and_eq_true, isCurrent_iff_marks] at hc
    rcases stored?_save h with ⟨ho, rfl⟩ | ⟨_, hs⟩
    · exact .inl ⟨ho, rfl, hc.1⟩
    · exact .inr hs
  · exact .inr h

theorem complete_fst (hc : c.capacity ≠ 0) :
    (c.complete key e t).1 = true ↔ c.marks.IsCurrent key t := by
  rw [← isCurrent_iff_marks, complete]
  cases c.isCurrent key t <;> simp [hc]

theorem live?_eq_some (h : c.live? key = some s) : c.stored? key = some s := by
  rw [live?, Option.filter_eq_some_iff] at h
  exact h.1

theorem stored?_prepare :
    (c.prepare key options).stored? other
      = if options.reset ∨ options.invalidate ∧ other = key then none else c.stored? other := by
  unfold prepare
  cases options.invalidate <;> cases options.reset <;> simp [stored?_remove, stored?_reset]

theorem begin_of_ignore (hi : options.ignore = true) :
    c.begin key fingerprint options = (.miss (c.prepare key options).ticket, c.prepare key options) := by
  simp [begin, hi]

theorem begin_of_live (hi : options.ignore = false) (hs : (c.prepare key options).live? key = some s)
    (hf : s.entry.fingerprint = fingerprint) :
    c.begin key fingerprint options = (.hit s.entry, ((c.prepare key options).lookup key).2) := by
  simp [begin, hi, lookup, hs, hf]

theorem begin_of_changed (hi : options.ignore = false) (hs : (c.prepare key options).live? key = some s)
    (hf : s.entry.fingerprint ≠ fingerprint) :
    c.begin key fingerprint options
      = (.miss (c.prepare key options).ticket, (c.prepare key options).drop key) := by
  simp [begin, hi, lookup, hs, hf, drop, ticket]

theorem begin_of_absent (hi : options.ignore = false) (hs : (c.prepare key options).live? key = none) :
    c.begin key fingerprint options
      = (.miss (c.prepare key options).ticket, (c.prepare key options).drop key) := by
  simp [begin, hi, lookup, hs, drop, ticket]

/-- What comes of a look-up: an entry for the same attributes, or a ticket for a fetch. -/
theorem begin_cases (c : Cache) (key fingerprint : String) (options : CacheOptions) :
    (∃ s, (c.prepare key options).live? key = some s ∧ s.entry.fingerprint = fingerprint ∧
      c.begin key fingerprint options = (.hit s.entry, ((c.prepare key options).lookup key).2)) ∨
    (∃ c', (c' = c.prepare key options ∨ c' = (c.prepare key options).drop key) ∧
      c.begin key fingerprint options = (.miss (c.prepare key options).ticket, c')) := by
  cases hi : options.ignore with
  | true => exact .inr ⟨_, .inl rfl, begin_of_ignore hi⟩
  | false =>
    cases hs : (c.prepare key options).live? key with
    | none => exact .inr ⟨_, .inr rfl, begin_of_absent hi hs⟩
    | some s =>
      by_cases hf : s.entry.fingerprint = fingerprint
      · exact .inl ⟨s, rfl, hf, begin_of_live hi hs hf⟩
      · exact .inr ⟨_, .inr rfl, begin_of_changed hi hs hf⟩

@[simp] theorem marks_begin :
    (c.begin key fingerprint options).2.marks = (c.prepare key options).marks := by
  rcases begin_cases c key fingerprint options with ⟨s, _, _, h⟩ | ⟨c', hc, h⟩
  · rw [h, marks_lookup]
  · rw [h]
    rcases hc with rfl | rfl
    · rfl
    · exact marks_drop

/-- A look-up that has to fetch gives the ticket of the cache that it leaves. -/
theorem begin_miss (h : (c.begin key fingerprint options).1 = .miss t) :
    t = (c.begin key fingerprint options).2.marks.ticket := by
  rw [marks_begin, ← ticket_eq]
  rcases begin_cases c key fingerprint options with ⟨s, _, _, hb⟩ | ⟨c', _, hb⟩
  · rw [hb] at h
    cases h
  · rw [hb] at h
    cases h
    rfl

theorem begin_hit (h : (c.begin key fingerprint options).1 = .hit e) :
    options.reset = false ∧ options.invalidate = false ∧ e.fingerprint = fingerprint ∧
      ∃ s, c.stored? key = some s ∧ s.entry = e := by
  rcases begin_cases c key fingerprint options with ⟨s, hs, hf, hb⟩ | ⟨c', _, hb⟩
  · rw [hb] at h
    cases h
    have hstored := live?_eq_some hs
    rw [stored?_prepare] at hstored
    split at hstored
    · cases hstored
    · next ho =>
      simp only [and_true, not_or, Bool.not_eq_true] at ho
      exact ⟨ho.1, ho.2, hf, s, hstored, rfl⟩
  · rw [hb] at h
    cases h

/-- A look-up adds no entry. -/
theorem stored?_begin (h : (c.begin key fingerprint options).2.stored? other = some s) :
    (c.prepare key options).stored? other = some s := by
  rcases begin_cases c key fingerprint options with ⟨s', hs', _, hb⟩ | ⟨c', hc, hb⟩
  · rw [hb, stored?_lookup] at h
    split at h
    · next ho =>
      rw [ho]
      exact live?_eq_some h
    · exact h
  · rw [hb] at h
    rcases hc with rfl | rfl
    · exact h
    · rw [stored?_drop] at h
      split at h
      · cases h
      · exact h

theorem stored?_begin_of_ne (h : other ≠ key) :
    (c.begin key fingerprint options).2.stored? other = (c.prepare key options).stored? other := by
  rcases begin_cases c key fingerprint options with ⟨s, _, _, hb⟩ | ⟨c', hc, hb⟩
  · rw [hb, stored?_lookup, if_neg h]
  · rcases hc with rfl | rfl <;> rw [hb]
    rw [stored?_drop, if_neg h]

/-! ## Clearings -/

/-- One cache comes from another by some clearings, the latest first. It may have lost further entries. -/
structure Cleared (c : Cache) (clearings : List Clearing) (c' : Cache) : Prop where
  marks : c'.marks = clearings.foldr (fun x m => m.clear x) c.marks
  stored : ∀ {key s}, c'.stored? key = some s →
    c.stored? key = some s ∧ ∀ x ∈ clearings, x.Spares key

theorem Cleared.refl (c : Cache) : Cleared c [] c :=
  ⟨rfl, fun h => ⟨h, by simp⟩⟩

theorem cleared_elapse (nanos : Nat) : Cleared c [] (c.elapse nanos) :=
  ⟨rfl, fun h => ⟨h, by simp⟩⟩

theorem cleared_reset : Cleared c [.reset] c.reset :=
  ⟨rfl, fun h => by cases h⟩

theorem cleared_remove : Cleared c [.removal key] (c.remove key) where
  marks := marks_remove
  stored := by
    intro other s h
    rw [stored?_remove] at h
    split at h
    · cases h
    · next ho =>
      refine ⟨h, fun x hx => ?_⟩
      obtain rfl := List.mem_singleton.mp hx
      exact fun hk => ho hk.symm

theorem cleared_begin :
    Cleared c (options.clearings key) (c.begin key fingerprint options).2 where
  marks := marks_begin.trans marks_prepare
  stored := by
    intro other s h
    have hs := stored?_begin h
    rw [stored?_prepare] at hs
    split at hs
    · cases hs
    · next ho => exact ⟨hs, fun x hx => CacheOptions.spares_of_mem_clearings ho hx⟩

end Cache

end FlagEngine.Bandit
