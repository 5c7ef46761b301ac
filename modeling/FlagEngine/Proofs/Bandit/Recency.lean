import FlagEngine.Proofs.Bandit.Lifetimes
import FlagEngine.Proofs.Bandit.Ranking

/-!
# Recency

Each operation on a cache has effects on its entries. As long as none has expired, the cache holds what the log
of these effects ranks, `Cache.ranked_after`. This settles which entries are there,
`Cache.least_recently_used`.
-/

namespace FlagEngine.Bandit

namespace Cache

/-! ## Effects -/

/-- What it means for the entries that a key is removed. -/
def losses (c : Cache) (key : String) : List Effect :=
  if (c.peek? key).isSome then [.lost key] else []

/-- What the options of a call do to the entries. -/
def clearances (c : Cache) (key : String) (options : CacheOptions) : List Effect :=
  if options.reset then [.emptied] else if options.invalidate then c.losses key else []

/-- What an operation does to the entries, the latest effect first. A key is written if it is saved, or if
`complete` says that it was. It is found if `lookup` gives its entry, or if `begin` hits it. -/
def effects (c : Cache) : Operation → List Effect
  | .save key e => [.wrote key e]
  | .lookup key => if (c.lookup key).1.isSome then [.found key] else []
  | .remove key => c.losses key
  | .reset => [.emptied]
  | .begin key fingerprint options =>
    (match (c.begin key fingerprint options).1 with
      | .hit _ => [.found key]
      | .miss _ =>
        if !options.ignore && ((c.prepare key options).peek? key).any (·.fingerprint != fingerprint) then
          [.lost key]
        else []) ++ c.clearances key options
  | .complete key e t => if (c.complete key e t).1 then [.wrote key e] else []
  | .elapse _ => []

/-- What some operations do to the entries of a new cache, the latest effect first. -/
def effectsAfter (capacity : Nat) (lifetime : Lifetime) : List Operation → List Effect
  | [] => []
  | operation :: earlier =>
    (after capacity lifetime earlier).effects operation ++ effectsAfter capacity lifetime earlier

/-! ## Contents -/

/-- The entries by key, the most recently used one first. -/
def contents (c : Cache) : List (String × Entry) :=
  c.entries.map fun x => (x.1, x.2.entry)

variable {capacity : Nat} {lifetime : Lifetime} {c : Cache} {key fingerprint : String} {e : Entry}
  {options : CacheOptions} {earlier : List Effect} {s : Stored}

theorem contents_drop : (c.drop key).contents = without key c.contents := by
  rw [contents, drop, without, contents, List.filter_map]
  rfl

theorem contents_remove : (c.remove key).contents = without key c.contents := by
  rw [← contents_drop, contents, entries_remove, contents]

theorem contents_save : (c.save key e).contents = ((key, e) :: without key c.contents).take c.capacity := by
  rw [contents, save, List.map_take, List.map_cons, ← contents_drop]
  rfl

theorem mem_contents_of_stored? (h : c.stored? key = some s) : (key, s.entry) ∈ c.contents := by
  obtain ⟨l, r, hentries, -⟩ := List.lookup_eq_some_iff.mp h
  rw [contents, hentries]
  exact List.mem_map.mpr ⟨(key, s), by simp, rfl⟩

theorem notMem_keys_contents (h : c.stored? key = none) : key ∉ keys c.contents := by
  intro hkey
  simp only [keys, contents, List.map_map, List.mem_map, Function.comp_apply] at hkey
  obtain ⟨x, hx, rfl⟩ := hkey
  exact absurd (List.lookup_eq_none_iff.mp h x hx) (by simp)

theorem without_contents (h : c.stored? key = none) : without key c.contents = c.contents := by
  refine List.filter_eq_self.mpr fun x hx => ?_
  have hne : x.1 ≠ key := fun hkey => notMem_keys_contents h (hkey ▸ List.mem_map_of_mem hx)
  simpa using hne

/-! ## Steps -/

section

variable (hc : Ranked capacity earlier c.contents)

include hc

theorem ranked_losses (hu : c.Unexpired) (key : String) :
    Ranked capacity (c.losses key ++ earlier) (without key c.contents) := by
  rw [losses, hu.peek?_eq, Option.isSome_map]
  cases hs : c.stored? key with
  | none =>
    rw [without_contents hs]
    exact hc
  | some s => exact hc.lost key

theorem ranked_lookup (hu : c.Unexpired) (key : String) :
    Ranked capacity (c.effects (.lookup key) ++ earlier) (c.lookup key).2.contents := by
  rw [effects, lookup_fst, hu.peek?_eq, Option.isSome_map]
  cases hs : c.stored? key with
  | none =>
    simp only [lookup, hu key, hs]
    rw [contents_drop, without_contents hs]
    exact hc
  | some s =>
    simp only [lookup, hu key, hs]
    have hfound := hc.found (mem_contents_of_stored? hs)
    rw [← contents_drop] at hfound
    exact hfound

theorem ranked_prepare (hu : c.Unexpired) (key : String) (options : CacheOptions) :
    Ranked capacity (c.clearances key options ++ earlier) (c.prepare key options).contents := by
  rw [clearances, prepare]
  cases options.reset with
  | true =>
    cases options.invalidate with
    | true =>
      simp only [if_true, contents_remove]
      exact hc.emptied
    | false => exact hc.emptied
  | false =>
    cases options.invalidate with
    | true =>
      simp only [Bool.false_eq_true, if_false, if_true, contents_remove]
      exact ranked_losses hc hu key
    | false => exact hc

theorem ranked_begin (hu : c.Unexpired) (key fingerprint : String) (options : CacheOptions) :
    Ranked capacity (c.effects (.begin key fingerprint options) ++ earlier)
      (c.begin key fingerprint options).2.contents := by
  have hprepared := ranked_prepare hc hu key options
  have hunexpired := hu.prepare key options
  rw [effects, List.append_assoc, hunexpired.peek?_eq]
  cases hi : options.ignore with
  | true =>
    rw [begin_of_ignore hi]
    exact hprepared
  | false =>
    cases hs : (c.prepare key options).stored? key with
    | none =>
      rw [begin_of_absent hi ((hunexpired key).trans hs), contents_drop, without_contents hs]
      exact hprepared
    | some s =>
      have hlive := (hunexpired key).trans hs
      by_cases hf : s.entry.fingerprint = fingerprint
      · rw [begin_of_live hi hlive hf]
        have hlookup := ranked_lookup hprepared hunexpired key
        rw [effects, lookup_fst, hunexpired.peek?_eq, hs] at hlookup
        exact hlookup
      · rw [begin_of_changed hi hlive hf, contents_drop]
        have hlost := hprepared.lost key
        simpa [hf] using hlost

theorem ranked_perform (hu : c.Unexpired) (hcapacity : c.capacity = capacity) (operation : Operation) :
    Ranked capacity (c.effects operation ++ earlier) (c.perform operation).contents := by
  have hsave : ∀ key e, Ranked capacity (.wrote key e :: earlier) (c.save key e).contents := by
    intro key e
    rw [contents_save, hcapacity]
    exact hc.wrote key e
  cases operation with
  | save key e => exact hsave key e
  | lookup key => exact ranked_lookup hc hu key
  | remove key =>
    rw [perform, contents_remove]
    exact ranked_losses hc hu key
  | reset => exact hc.emptied
  | begin key fingerprint options => exact ranked_begin hc hu key fingerprint options
  | complete key e t =>
    rw [effects, perform, complete]
    split
    · exact hsave key e
    · exact hc
  | elapse nanos => exact hc

end

/-- The log of a history ranks what the cache holds, as long as the cache is younger than a lifetime. -/
theorem ranked_after {operations : List Operation}
    (hnow : (after capacity lifetime operations).now < lifetime.nanos) :
    Ranked capacity (effectsAfter capacity lifetime operations)
      (after capacity lifetime operations).contents := by
  induction operations with
  | nil => exact .empty
  | cons operation earlier ih =>
    have hearlier := (now_le_perform (after capacity lifetime earlier) operation).trans_lt hnow
    exact ranked_perform (ih hearlier) (unexpired_after hearlier) (capacity_after earlier) operation

/-- A key that is written and not taken out is found until too many other ones have been used. -/
theorem peek?_of_retained (hc : Ranked capacity earlier c.contents) (hu : c.Unexpired)
    (hw : Effects.written? key earlier = some e)
    (hcard : (Effects.used (Effects.since key earlier)).card < capacity) : c.peek? key = some e := by
  have hheld := (hc.retained (Option.isSome_of_eq_some hw) hcard).mem
  rw [hu.peek?_eq]
  cases hs : c.stored? key with
  | none => exact absurd hheld (notMem_keys_contents hs)
  | some s => rw [Option.map_some, ← hw, hc.written (mem_contents_of_stored? hs)]

/-- It is not found after that. -/
theorem peek?_of_evicted (hc : Ranked capacity earlier c.contents) (hu : c.Unexpired)
    (hkept : ∀ x ∈ Effects.since key earlier, x.takesOut = false)
    (hcard : capacity ≤ (Effects.used (Effects.since key earlier)).card) : c.peek? key = none := by
  rw [hu.peek?_eq]
  cases hs : c.stored? key with
  | none => rfl
  | some s => exact absurd (List.mem_map_of_mem (mem_contents_of_stored? hs)) (hc.evicted hkept hcard)

/-! ## Looks -/

/-- An operation, or a look at an entry. -/
inductive Access where
  | operation (x : Operation)
  | peek (key : String)

/-- A look at an entry leaves the cache as it is. -/
def access (c : Cache) : Access → Cache
  | .operation x => c.perform x
  | .peek _ => c

/-- A cache after some operations and looks, the latest first. -/
def reached (capacity : Nat) (lifetime : Lifetime) : List Access → Cache
  | [] => empty capacity lifetime
  | x :: earlier => (reached capacity lifetime earlier).access x

def Access.operation? : Access → Option Operation
  | .operation x => some x
  | .peek _ => none

theorem reached_eq (history : List Access) :
    reached capacity lifetime history = after capacity lifetime (history.filterMap Access.operation?) := by
  induction history with
  | nil => rfl
  | cons x earlier ih =>
    rw [reached, ih]
    cases x <;> rfl

/-! ## Without room -/

theorem begin_of_entries_nil (h : c.entries = []) : ∃ t, (c.begin key fingerprint options).1 = .miss t := by
  cases hb : (c.begin key fingerprint options).1 with
  | miss t => exact ⟨t, rfl⟩
  | hit e =>
    obtain ⟨-, -, -, s, hs, -⟩ := begin_hit hb
    simp [stored?, h] at hs

theorem complete_of_no_room (h : c.capacity = 0) (t : Ticket) : (c.complete key e t).1 = false := by
  simp [complete, h]

theorem entries_save_of_no_room (h : c.capacity = 0) : (c.save key e).entries = [] := by
  simp [save, h]

/-- **Least recently used.** Let a cache of any capacity be younger than its lifetime, after any operations on it
and looks at its entries:

* it has at most as many entries as its capacity;
* the entry that was last written under a key, and not taken out since, is there if fewer other keys than that
  were used since the key was;
* a key has no entry if at least as many other keys were used since it was, and nothing was taken out since;
* the looks make no difference to what the cache is;
* with no capacity nothing is found and nothing is written. -/
theorem least_recently_used (capacity : Nat) (lifetime : Lifetime) (history : List Access)
    (hnow : (reached capacity lifetime history).now < lifetime.nanos) :
    let c := reached capacity lifetime history
    let log := effectsAfter capacity lifetime (history.filterMap Access.operation?)
    c.size ≤ capacity ∧
    (∀ key e, Effects.written? key log = some e → (Effects.used (Effects.since key log)).card < capacity →
      c.peek? key = some e) ∧
    (∀ key, (∀ x ∈ Effects.since key log, x.takesOut = false) →
      capacity ≤ (Effects.used (Effects.since key log)).card → c.peek? key = none) ∧
    c = after capacity lifetime (history.filterMap Access.operation?) ∧
    (capacity = 0 → c.entries = [] ∧ ∀ key, c.peek? key = none ∧ (c.lookup key).1 = none ∧
      (∀ fingerprint options, ∃ t, (c.begin key fingerprint options).1 = .miss t) ∧
      ∀ e, (c.save key e).entries = [] ∧ ∀ t, (c.complete key e t).1 = false) := by
  intro c log
  have hc : c = after capacity lifetime (history.filterMap Access.operation?) := reached_eq history
  rw [reached_eq] at hnow
  have hranked : Ranked capacity log c.contents := hc ▸ ranked_after hnow
  have hunexpired : c.Unexpired := hc ▸ unexpired_after hnow
  have hsize : c.size ≤ capacity := by
    have hle := hranked.length_le
    rwa [contents, List.length_map] at hle
  refine ⟨hsize, fun key e => peek?_of_retained hranked hunexpired,
    fun key => peek?_of_evicted hranked hunexpired, hc, ?_⟩
  rintro rfl
  have hentries : c.entries = [] := List.eq_nil_of_length_eq_zero (Nat.le_zero.mp hsize)
  have hcapacity : c.capacity = 0 := hc ▸ capacity_after _
  have hnone : ∀ key, c.peek? key = none := by
    intro key
    rw [hunexpired.peek?_eq, stored?, hentries]
    rfl
  exact ⟨hentries, fun key => ⟨hnone key, (lookup_fst c key).trans (hnone key),
    fun _ _ => begin_of_entries_nil hentries,
    fun _ => ⟨entries_save_of_no_room hcapacity, complete_of_no_room hcapacity⟩⟩⟩

/-- There is room for two keys. A look at the second one does not keep it from being evicted. -/
theorem least_recently_used_of_three_keys :
    let e (name : String) : Entry := ⟨"h", name, "u"⟩
    let history : List Access := [.operation (.save "c" (e "z")), .peek "b", .operation (.lookup "a"),
      .operation (.save "b" (e "y")), .operation (.save "a" (e "x"))]
    let c := reached 2 (.ofMillis 1) history
    c.now < (Lifetime.ofMillis 1).nanos ∧ c.peek? "a" = some (e "x") ∧ c.peek? "b" = none := by
  intro e history c
  have hnow : c.now < (Lifetime.ofMillis 1).nanos := by decide
  obtain ⟨-, hkept, hgone, -, -⟩ := least_recently_used 2 (.ofMillis 1) history hnow
  exact ⟨hnow, hkept "a" (e "x") (by decide) (by decide), hgone "b" (by decide) (by decide)⟩

end Cache

end FlagEngine.Bandit
