import FlagEngine.Proofs.Bandit.Views

/-!
# Invalidation

The operations on a cache in any order. An entry is affected by the removals of its own key and by
resets, and by no other clearing. A fetch writes its decision back unless since it began there has been a
reset, a removal of its key or a fold; and there is no fold before more than `Cache.removalLimit` keys
have been removed.
-/

namespace FlagEngine.Bandit

/-- What can be done to a cache. -/
inductive Operation where
  | save (key : String) (e : Entry)
  | lookup (key : String)
  | remove (key : String)
  | reset
  | begin (key fingerprint : String) (options : CacheOptions)
  | complete (key : String) (e : Entry) (t : Ticket)
  | elapse (nanos : Nat)

/-- What an operation clears, the latest first. -/
def Operation.clearings : Operation → List Clearing
  | .remove key => [.removal key]
  | .reset => [.reset]
  | .begin key _ options => options.clearings key
  | .save _ _ | .lookup _ | .complete _ _ _ | .elapse _ => []

/-- What some operations clear, the latest first. -/
def clearings (operations : List Operation) : List Clearing :=
  operations.flatMap Operation.clearings

theorem clearings_append (later earlier : List Operation) :
    clearings (later ++ earlier) = clearings later ++ clearings earlier :=
  List.flatMap_append

namespace Cache

def perform (c : Cache) : Operation → Cache
  | .save key e => c.save key e
  | .lookup key => (c.lookup key).2
  | .remove key => c.remove key
  | .reset => c.reset
  | .begin key fingerprint options => (c.begin key fingerprint options).2
  | .complete key e t => (c.complete key e t).2
  | .elapse nanos => c.elapse nanos

/-- A cache after some operations, the latest first. -/
def after (capacity : Nat) (lifetime : Lifetime) : List Operation → Cache
  | [] => empty capacity lifetime
  | operation :: earlier => (after capacity lifetime earlier).perform operation

variable {capacity : Nat} {lifetime : Lifetime} {c : Cache} {key other : String}

theorem marks_perform (c : Cache) (operation : Operation) :
    (c.perform operation).marks = operation.clearings.foldr (fun x m => m.clear x) c.marks := by
  cases operation with
  | begin key fingerprint options => exact marks_begin.trans marks_prepare
  | save | lookup | remove | reset | complete | elapse => simp [perform, Operation.clearings]

/-- The marks of a cache tell its clearings. -/
theorem marks_after (operations : List Operation) :
    (after capacity lifetime operations).marks = .after (clearings operations) := by
  induction operations with
  | nil => rfl
  | cons operation earlier ih =>
    rw [after, marks_perform, ih, Marks.foldr_clear_after]
    rfl

/-! ## Settings -/

/-- What no operation changes. -/
def settings (c : Cache) : Nat × Lifetime :=
  (c.capacity, c.lifetime)

/-- What nothing but time changes. -/
def standing (c : Cache) : (Nat × Lifetime) × Nat :=
  (c.settings, c.now)

theorem standing_lookup : (c.lookup key).2.standing = c.standing := by
  unfold lookup
  split <;> rfl

theorem standing_remove : (c.remove key).standing = c.standing := by
  unfold remove
  split <;> rfl

theorem standing_prepare (options : CacheOptions) : (c.prepare key options).standing = c.standing := by
  unfold prepare
  cases options.invalidate <;> cases options.reset <;> simp [standing_remove] <;> rfl

theorem standing_begin (fingerprint : String) (options : CacheOptions) :
    (c.begin key fingerprint options).2.standing = c.standing := by
  have hp : (c.prepare key options).standing = c.standing := standing_prepare options
  rcases begin_cases c key fingerprint options with ⟨s, _, _, h⟩ | ⟨c', hc, h⟩
  · rw [h, standing_lookup, hp]
  · rw [h]
    rcases hc with rfl | rfl <;> exact hp

theorem standing_complete (e : Entry) (t : Ticket) : (c.complete key e t).2.standing = c.standing := by
  unfold complete
  split <;> rfl

theorem settings_begin (fingerprint : String) (options : CacheOptions) :
    (c.begin key fingerprint options).2.settings = c.settings :=
  congrArg Prod.fst (standing_begin fingerprint options)

theorem settings_complete (e : Entry) (t : Ticket) : (c.complete key e t).2.settings = c.settings :=
  congrArg Prod.fst (standing_complete e t)

theorem standing_perform (c : Cache) (operation : Operation) :
    (c.perform operation).settings = c.settings ∧ c.now ≤ (c.perform operation).now := by
  have hstanding {c' : Cache} (h : c'.standing = c.standing) : c'.settings = c.settings ∧ c.now ≤ c'.now :=
    ⟨congrArg Prod.fst h, (congrArg Prod.snd h).ge⟩
  cases operation with
  | save | reset => exact ⟨rfl, le_rfl⟩
  | lookup => exact hstanding standing_lookup
  | remove => exact hstanding standing_remove
  | begin => exact hstanding (standing_begin ..)
  | complete => exact hstanding (standing_complete ..)
  | elapse => exact ⟨rfl, Nat.le_add_right ..⟩

theorem settings_perform (c : Cache) (operation : Operation) :
    (c.perform operation).settings = c.settings :=
  (standing_perform c operation).1

/-- Time goes on. -/
theorem now_le_perform (c : Cache) (operation : Operation) : c.now ≤ (c.perform operation).now :=
  (standing_perform c operation).2

theorem settings_after (operations : List Operation) :
    (after capacity lifetime operations).settings = (capacity, lifetime) := by
  induction operations with
  | nil => rfl
  | cons operation earlier ih => rw [after, settings_perform, ih]

theorem capacity_after (operations : List Operation) :
    (after capacity lifetime operations).capacity = capacity :=
  congrArg Prod.fst (settings_after operations)

theorem lifetime_after (operations : List Operation) :
    (after capacity lifetime operations).lifetime = lifetime :=
  congrArg Prod.snd (settings_after operations)

/-! ## Writing back -/

theorem peek?_save_self (hc : c.capacity ≠ 0) (hl : c.lifetime.nanos ≠ 0) (e : Entry) :
    (c.save key e).peek? key = some e := by
  have hnow : c.now < c.now + c.lifetime.nanos := by omega
  rw [peek?, live?, stored?_save_self c key e hc]
  simp only [Option.filter, save, hnow, decide_true, if_true, Option.map_some]

/-- A cache that says that it has written an entry has the entry. -/
theorem peek?_complete (hc : c.capacity ≠ 0) (hl : c.lifetime.nanos ≠ 0) {e : Entry} {t : Ticket}
    (h : (c.complete key e t).1 = true) : (c.complete key e t).2.peek? key = some e := by
  unfold complete at h ⊢
  split at h
  · next hw => rw [if_pos hw, peek?_save_self hc hl]
  · cases h

/-- When a fetched decision is written back. -/
theorem complete_iff_undisturbed {later earlier : List Operation} {begun fingerprint : String}
    {options : CacheOptions} {t : Ticket} (e : Entry) (hc : capacity ≠ 0)
    (hn : (clearings (later ++ .begin begun fingerprint options :: earlier)).length < UInt64.size)
    (ht : ((after capacity lifetime earlier).begin begun fingerprint options).1 = .miss t) :
    ((after capacity lifetime (later ++ .begin begun fingerprint options :: earlier)).complete
        key e t).1 = true
      ↔ Marks.Undisturbed key (clearings (.begin begun fingerprint options :: earlier))
          (clearings later) := by
  have hticket : t = (after capacity lifetime
      (.begin begun fingerprint options :: earlier)).marks.ticket := begin_miss ht
  rw [clearings_append] at hn
  rw [complete_fst (by rwa [capacity_after]), hticket, marks_after, marks_after, clearings_append,
    Marks.isCurrent_iff hn]

/-- A fetch is written back if its key has been spared since it began, and not too many keys have been
removed since the latest reset. -/
theorem complete_of_card_le {later earlier : List Operation} {begun fingerprint : String}
    {options : CacheOptions} {t : Ticket} (e : Entry) (hc : capacity ≠ 0)
    (hn : (clearings (later ++ .begin begun fingerprint options :: earlier)).length < UInt64.size)
    (ht : ((after capacity lifetime earlier).begin begun fingerprint options).1 = .miss t)
    (hcard : (Marks.removed (clearings (later ++ .begin begun fingerprint options :: earlier))).card
      ≤ removalLimit)
    (hs : ∀ x ∈ clearings later, x.Spares key) :
    ((after capacity lifetime (later ++ .begin begun fingerprint options :: earlier)).complete
        key e t).1 = true := by
  rw [complete_iff_undisturbed e hc hn ht]
  rw [clearings_append] at hcard
  exact Marks.undisturbed_of_card_le hs hcard

theorem stored?_begin_of_not_reset {fingerprint : String} {options : CacheOptions}
    (h : other ≠ key) (hr : options.reset = false) :
    (c.begin key fingerprint options).2.stored? other = c.stored? other := by
  rw [stored?_begin_of_ne h, stored?_prepare, if_neg]
  simp [hr, h]

/-- **Invalidation is local.** In every state that a cache can reach:

* to remove or to invalidate a key leaves the entry of every other key as it was;
* a fetch is written back if there was no reset and no removal of its key since it began, provided that
  at most `removalLimit` keys have been removed since the cache was set up or last reset;
* in any case it is written back unless since it began there was a reset, a removal of its key, or a
  fold, so that a fold does not stop the fetches that begin after it;
* the table of removals has at most `removalLimit` keys, and a removal that folds it takes out no entry
  but its own. -/
theorem invalidation_local (hc : capacity ≠ 0) (hl : lifetime.nanos ≠ 0)
    (operations : List Operation) (hn : (clearings operations).length < UInt64.size) :
    let c := after capacity lifetime operations
    (∀ key other, other ≠ key →
      (c.remove key).stored? other = c.stored? other ∧
      ∀ fingerprint options, options.reset = false →
        (c.begin key fingerprint options).2.stored? other = c.stored? other) ∧
    (∀ later earlier begun fingerprint options t key e,
      operations = later ++ .begin begun fingerprint options :: earlier →
      ((after capacity lifetime earlier).begin begun fingerprint options).1 = .miss t →
      ((Marks.removed (clearings operations)).card ≤ removalLimit →
        (∀ x ∈ clearings later, x.Spares key) →
          (c.complete key e t).1 = true ∧ (c.complete key e t).2.peek? key = some e) ∧
      ((c.complete key e t).1 = true
        ↔ Marks.Undisturbed key (clearings (.begin begun fingerprint options :: earlier))
            (clearings later))) ∧
    c.removals.size ≤ removalLimit ∧
    (∀ key, c.marks.Folds (.removal key) →
      ∀ other, other ≠ key → (c.remove key).stored? other = c.stored? other) := by
  intro c
  have hremove : ∀ key other, other ≠ key → (c.remove key).stored? other = c.stored? other := by
    intro key other h
    rw [stored?_remove, if_neg h]
  have hcapacity : c.capacity ≠ 0 := by rwa [capacity_after]
  have hlifetime : c.lifetime.nanos ≠ 0 := by rwa [lifetime_after]
  refine ⟨fun key other h => ⟨hremove key other h, fun _ _ hr => stored?_begin_of_not_reset h hr⟩,
    ?_, ?_, fun key _ => hremove key⟩
  · rintro later earlier begun fingerprint options t key e rfl ht
    refine ⟨fun hcard hs => ?_, complete_iff_undisturbed e hc hn ht⟩
    have hw := complete_of_card_le e hc hn ht hcard hs
    exact ⟨hw, peek?_complete hcapacity hlifetime hw⟩
  · have hbounded := Marks.bounded_after hn
    have hmarks : c.marks = Marks.after (clearings operations) := marks_after operations
    rw [← hmarks] at hbounded
    exact hbounded.size_le

/-- While a fetch for one key is on its way, another key is removed and invalidated. -/
theorem invalidation_local_of_other_key :
    let e : Entry := ⟨"h", "v", "u"⟩
    let later : List Operation := [.begin "b" "h" ⟨false, false, true⟩, .remove "b"]
    let operations := later ++ [.begin "a" "h" ⟨false, false, false⟩, .remove "a"]
    2 ≠ 0 ∧ (Lifetime.ofMillis 1).nanos ≠ 0 ∧ (clearings operations).length < UInt64.size ∧
      ((after 2 (.ofMillis 1) operations).complete "a" e ⟨0, 1⟩).2.peek? "a" = some e := by
  intro e later operations
  have hc : 2 ≠ 0 := by decide
  have hl : (Lifetime.ofMillis 1).nanos ≠ 0 := by decide
  have hn : (clearings operations).length < UInt64.size := by decide
  have ht : ((after 2 (.ofMillis 1) [.remove "a"]).begin "a" "h" ⟨false, false, false⟩).1
      = .miss ⟨0, 1⟩ := by decide
  have hcard : (Marks.removed (clearings operations)).card ≤ removalLimit := by decide
  have hs : ∀ x ∈ clearings later, x.Spares "a" := by
    simp [later, clearings, Operation.clearings, CacheOptions.clearings, Clearing.Spares]
  have h := (invalidation_local hc hl operations hn).2.1 later [.remove "a"] "a" "h"
    ⟨false, false, false⟩ ⟨0, 1⟩ "a" e rfl ht
  exact ⟨hc, hl, hn, (h.1 hcard hs).2⟩

end Cache

end FlagEngine.Bandit
