import FlagEngine.Bandit.Basic
import Mathlib.Data.Finset.Card

/-!
# Ranking

What a cache that evicts the least recently used entry holds, told by what has happened to its entries.
`Ranked` is the list of what is held with the most recently used key first. The keys in front of a key are
then among those that were used since it was, `Ranked.retained`, and if nothing was taken out meanwhile they
are all of them, `Ranked.crowded`.
-/

namespace FlagEngine.Bandit

/-- What happens to the entries of a cache. -/
inductive Effect where
  | wrote (key : String) (e : Entry)
  | found (key : String)
  /-- The entry of a key is removed, or dropped for its fingerprint. -/
  | lost (key : String)
  | emptied
deriving DecidableEq, Repr

/-- The key that an effect uses. -/
def Effect.used? : Effect → Option String
  | .wrote key _ | .found key => some key
  | .lost _ | .emptied => none

def Effect.takesOut : Effect → Bool
  | .wrote _ _ | .found _ => false
  | .lost _ | .emptied => true

/-! ## Logs -/

namespace Effects

/-- The keys that are used in a log. -/
def used (log : List Effect) : Finset String :=
  (log.filterMap Effect.used?).toFinset

/-- What has happened since the last use of a key. A log has the latest effect first. -/
def since (key : String) (log : List Effect) : List Effect :=
  log.takeWhile fun x => x.used? != some key

/-- The entry that was last written under a key, unless it was taken out since then. -/
def written? (key : String) : List Effect → Option Entry
  | [] => none
  | .wrote other e :: earlier => if other = key then some e else written? key earlier
  | .found _ :: earlier => written? key earlier
  | .lost other :: earlier => if other = key then none else written? key earlier
  | .emptied :: _ => none

variable {key other : String} {log : List Effect} {x : Effect}

@[simp] theorem used_nil : used [] = ∅ := rfl

theorem used_cons_of_some (h : x.used? = some other) : used (x :: log) = insert other (used log) := by
  rw [used, List.filterMap_cons_some h, List.toFinset_cons, used]

theorem used_cons_of_none (h : x.used? = none) : used (x :: log) = used log := by
  rw [used, List.filterMap_cons_none h, used]

theorem since_cons_of_used (h : x.used? = some key) : since key (x :: log) = [] := by
  simp [since, h]

theorem since_cons_of_ne (h : x.used? ≠ some key) : since key (x :: log) = x :: since key log := by
  simp [since, h]

end Effects

/-! ## Rankings -/

def without (key : String) (held : List (String × Entry)) : List (String × Entry) :=
  held.filter fun x => x.1 != key

/-- What a cache of a given capacity holds after a log, the most recently used key first. -/
inductive Ranked (capacity : Nat) : List Effect → List (String × Entry) → Prop where
  | empty : Ranked capacity [] []
  | wrote {log held} (key : String) (e : Entry) (h : Ranked capacity log held) :
      Ranked capacity (.wrote key e :: log) (((key, e) :: without key held).take capacity)
  | found {log held key e} (h : Ranked capacity log held) (he : (key, e) ∈ held) :
      Ranked capacity (.found key :: log) ((key, e) :: without key held)
  | lost {log held} (key : String) (h : Ranked capacity log held) :
      Ranked capacity (.lost key :: log) (without key held)
  | emptied {log held} (h : Ranked capacity log held) : Ranked capacity (.emptied :: log) []

def keys (held : List (String × Entry)) : List String :=
  held.map (·.1)

/-- The keys in front of a key. -/
def ahead (key : String) (keys : List String) : List String :=
  keys.takeWhile (· != key)

variable {capacity n : Nat} {key other : String} {e : Entry} {log : List Effect}
  {held : List (String × Entry)} {ks : List String}

/-! ### Keys -/

theorem keys_without : keys (without key held) = (keys held).filter (· != key) := by
  rw [keys, without, keys, List.filter_map]
  rfl

theorem keys_take : keys (held.take n) = (keys held).take n :=
  List.map_take ..

/-- The keys when one of them is put in front. -/
theorem keys_cons_without : keys ((key, e) :: without key held) = key :: (keys held).filter (· != key) := by
  rw [keys, List.map_cons, ← keys, keys_without]

/-! ### Positions -/

theorem ahead_cons_self : ahead key (key :: ks) = [] := by
  simp [ahead]

theorem ahead_cons_of_ne (h : other ≠ key) : ahead key (other :: ks) = other :: ahead key ks := by
  simp [ahead, h]

theorem ahead_filter (h : other ≠ key) :
    ahead key (ks.filter (· != other)) = (ahead key ks).filter (· != other) := by
  induction ks with
  | nil => rfl
  | cons k ks ih =>
    by_cases hother : k = other
    · subst hother
      rw [ahead_cons_of_ne h]
      simpa using ih
    · rw [List.filter_cons_of_pos (by simpa using hother)]
      by_cases hk : k = key
      · subst hk
        simp only [ahead_cons_self, List.filter_nil]
      · rw [ahead_cons_of_ne hk, ahead_cons_of_ne hk, ih, List.filter_cons_of_pos (by simpa using hother)]

theorem ahead_take : ahead key (ks.take n) = (ahead key ks).take n := by
  induction ks generalizing n with
  | nil => simp [ahead]
  | cons k ks ih =>
    cases n with
    | zero => rfl
    | succ n =>
      rw [List.take_succ_cons]
      by_cases hk : k = key
      · subst hk
        rw [ahead_cons_self, ahead_cons_self, List.take_nil]
      · rw [ahead_cons_of_ne hk, ahead_cons_of_ne hk, ih, List.take_succ_cons]

theorem length_ahead_lt (h : key ∈ ks) : (ahead key ks).length < ks.length := by
  induction ks with
  | nil => cases h
  | cons k ks ih =>
    by_cases hk : k = key
    · simp [hk, ahead_cons_self]
    · rw [ahead_cons_of_ne hk, List.length_cons, List.length_cons]
      exact Nat.succ_lt_succ (ih ((List.mem_cons.mp h).resolve_left (Ne.symm hk)))

/-- A key is among the first ones exactly if there are not too many keys in front of it. -/
theorem mem_take_iff (h : key ∈ ks) : key ∈ ks.take n ↔ (ahead key ks).length < n := by
  constructor
  · intro ht
    have hlt := length_ahead_lt ht
    rw [ahead_take, List.length_take, List.length_take] at hlt
    omega
  · intro hlt
    induction ks generalizing n with
    | nil => cases h
    | cons k ks ih =>
      cases n with
      | zero => omega
      | succ n =>
        rw [List.take_succ_cons, List.mem_cons]
        by_cases hk : k = key
        · exact .inl hk.symm
        · rw [ahead_cons_of_ne hk, List.length_cons] at hlt
          exact .inr (ih ((List.mem_cons.mp h).resolve_left (Ne.symm hk)) (by omega))

theorem nodup_ahead (h : ks.Nodup) : (ahead key ks).Nodup :=
  h.sublist (List.takeWhile_sublist _)

theorem nodup_cons_filter (h : ks.Nodup) : (key :: ks.filter (· != key)).Nodup :=
  List.nodup_cons.mpr ⟨by simp, h.filter _⟩

/-- A key is there, and all keys in front of it are among the used ones. -/
structure Behind (used : Finset String) (key : String) (ks : List String) : Prop where
  mem : key ∈ ks
  ahead : ∀ k ∈ ahead key ks, k ∈ used

namespace Behind

variable {used : Finset String}

theorem first : Behind used key (key :: ks) where
  mem := List.mem_cons_self
  ahead := by
    rw [ahead_cons_self]
    nofun

theorem filter (h : Behind used key ks) (hne : other ≠ key) : Behind used key (ks.filter (· != other)) where
  mem := List.mem_filter.mpr ⟨h.mem, by simpa using Ne.symm hne⟩
  ahead := by
    rw [ahead_filter hne]
    exact fun k hk => h.ahead k (List.mem_of_mem_filter hk)

/-- Another key is put in front. -/
theorem promote (h : Behind used key ks) (hne : other ≠ key) :
    Behind (insert other used) key (other :: ks.filter (· != other)) where
  mem := List.mem_cons_of_mem _ (h.filter hne).mem
  ahead := by
    rw [ahead_cons_of_ne hne]
    intro k hk
    rcases List.mem_cons.mp hk with rfl | hk
    · exact Finset.mem_insert_self ..
    · exact Finset.mem_insert_of_mem ((h.filter hne).ahead k hk)

/-- The key stays if the keys in front of it leave room for it. -/
theorem take (h : Behind used key ks) (hks : ks.Nodup) (hcard : used.card < n) :
    Behind used key (ks.take n) where
  mem := by
    refine (mem_take_iff h.mem).mpr (lt_of_le_of_lt ?_ hcard)
    rw [← List.toFinset_card_of_nodup (nodup_ahead hks)]
    exact Finset.card_le_card fun k hk => h.ahead k (List.mem_toFinset.mp hk)
  ahead := by
    rw [ahead_take]
    exact fun k hk => h.ahead k (List.mem_of_mem_take hk)

end Behind

/-- Keys in front of a key stay there when another one is put in front. -/
theorem mem_ahead_promote {used : Finset String} (hne : other ≠ key) (h : ∀ k ∈ used, k ∈ ahead key ks) :
    ∀ k ∈ insert other used, k ∈ ahead key (other :: ks.filter (· != other)) := by
  intro k hk
  rw [ahead_cons_of_ne hne, ahead_filter hne, List.mem_cons, List.mem_filter]
  by_cases hother : k = other
  · exact .inl hother
  · exact .inr ⟨h k ((Finset.mem_insert.mp hk).resolve_left hother), by simpa using hother⟩

/-! ### Rankings of a log -/

namespace Ranked

theorem length_le (h : Ranked capacity log held) : held.length ≤ capacity := by
  induction h with
  | empty | emptied => exact Nat.zero_le _
  | wrote => exact List.length_take_le ..
  | found h he ih =>
    -- The entry that is put in front has been there.
    refine le_trans (Nat.succ_le_of_lt ?_) ih
    exact List.length_filter_lt_length_iff_exists.mpr ⟨_, he, by simp⟩
  | lost key h ih => exact (List.length_filter_le ..).trans ih

theorem nodup (h : Ranked capacity log held) : (keys held).Nodup := by
  induction h with
  | empty | emptied => exact List.nodup_nil
  | wrote key e h ih =>
    rw [keys_take, keys_cons_without]
    exact (nodup_cons_filter ih).sublist (List.take_sublist ..)
  | found h he ih =>
    rw [keys_cons_without]
    exact nodup_cons_filter ih
  | lost key h ih =>
    rw [keys_without]
    exact ih.filter _

private theorem mem_cons_without {x : String × Entry} (h : x ∈ (key, e) :: without key held) :
    x = (key, e) ∨ x.1 ≠ key ∧ x ∈ held := by
  rcases List.mem_cons.mp h with h | h
  · exact .inl h
  · obtain ⟨hx, hkey⟩ := List.mem_filter.mp h
    exact .inr ⟨by simpa using hkey, hx⟩

/-- What is held has been written, and has not been taken out or written again since. -/
theorem written (h : Ranked capacity log held) (he : (other, e) ∈ held) : Effects.written? other log = some e := by
  induction h with
  | empty | emptied => cases he
  | wrote key e' h ih =>
    rcases mem_cons_without (List.mem_of_mem_take he) with heq | ⟨hne, he⟩
    · obtain ⟨rfl, rfl⟩ := Prod.mk.inj heq
      exact if_pos rfl
    · exact (if_neg (Ne.symm hne)).trans (ih he)
  | found h he' ih =>
    rcases mem_cons_without he with heq | ⟨-, he⟩
    · obtain ⟨rfl, rfl⟩ := Prod.mk.inj heq
      exact ih he'
    · exact ih he
  | lost key h ih =>
    obtain ⟨he, hne⟩ := List.mem_filter.mp he
    exact (if_neg (Ne.symm (by simpa using hne))).trans (ih he)

/-- The step of `retained` for a key that is used and put in front. -/
private theorem behind_of_use {x : Effect} (hx : x.used? = some other)
    (hcard : (Effects.used (Effects.since key (x :: log))).card < n)
    (ih : other ≠ key → (Effects.used (Effects.since key log)).card < n →
      Behind (Effects.used (Effects.since key log)) key ks) :
    Behind (Effects.used (Effects.since key (x :: log))) key (other :: ks.filter (· != other)) := by
  by_cases hkey : other = key
  · subst hkey
    exact .first
  · rw [Effects.since_cons_of_ne (by simpa [hx] using hkey), Effects.used_cons_of_some hx] at hcard ⊢
    exact (ih hkey ((Finset.card_le_card (Finset.subset_insert ..)).trans_lt hcard)).promote hkey

/-- A key that is written and not taken out is held until as many other keys as there is room for have been
used. Only those are in front of it. -/
theorem retained (h : Ranked capacity log held) (hw : (Effects.written? key log).isSome)
    (hcard : (Effects.used (Effects.since key log)).card < capacity) :
    Behind (Effects.used (Effects.since key log)) key (keys held) := by
  induction h with
  | empty | emptied => cases hw
  | wrote other e h ih =>
    rw [keys_take, keys_cons_without]
    refine (behind_of_use rfl hcard fun hne => ih ?_).take (nodup_cons_filter h.nodup) hcard
    rwa [Effects.written?, if_neg hne] at hw
  | found h he ih =>
    rw [keys_cons_without]
    exact behind_of_use rfl hcard fun _ => ih hw
  | lost other h ih =>
    rw [keys_without]
    by_cases hkey : other = key
    · rw [Effects.written?, if_pos hkey] at hw
      cases hw
    · rw [Effects.since_cons_of_ne (by simp [Effect.used?]), Effects.used_cons_of_none rfl] at hcard ⊢
      rw [Effects.written?, if_neg hkey] at hw
      exact (ih hw hcard).filter hkey

/-- The step of `crowded` for a key that is used and put in front. -/
private theorem mem_ahead_of_use {x : Effect} (hx : x.used? = some other)
    (hs : ∀ y ∈ Effects.since key (x :: log), y.takesOut = false)
    (hkey : key ∈ other :: ks.filter (· != other))
    (ih : (∀ y ∈ Effects.since key log, y.takesOut = false) → key ∈ ks →
      ∀ k ∈ Effects.used (Effects.since key log), k ∈ ahead key ks) :
    ∀ k ∈ Effects.used (Effects.since key (x :: log)), k ∈ ahead key (other :: ks.filter (· != other)) := by
  by_cases hother : other = key
  · rw [Effects.since_cons_of_used (hother ▸ hx)]
    simp
  · rw [Effects.since_cons_of_ne (by simpa [hx] using hother)] at hs ⊢
    rw [Effects.used_cons_of_some hx]
    have hheld := (List.mem_cons.mp hkey).resolve_left (Ne.symm hother)
    exact mem_ahead_promote hother
      (ih (fun y hy => hs y (List.mem_cons_of_mem _ hy)) (List.mem_of_mem_filter hheld))

/-- As long as nothing is taken out, all keys that are used after a key are in front of it. -/
theorem crowded (h : Ranked capacity log held) (hs : ∀ x ∈ Effects.since key log, x.takesOut = false)
    (hkey : key ∈ keys held) : ∀ k ∈ Effects.used (Effects.since key log), k ∈ ahead key (keys held) := by
  induction h with
  | empty | emptied => cases hkey
  | wrote other e h ih =>
    rw [keys_take, keys_cons_without] at hkey ⊢
    have hin := List.mem_of_mem_take hkey
    rw [ahead_take, List.take_of_length_le ((mem_take_iff hin).mp hkey).le]
    exact mem_ahead_of_use rfl hs hin ih
  | found h he ih =>
    rw [keys_cons_without] at hkey ⊢
    exact mem_ahead_of_use rfl hs hkey ih
  | lost other h ih =>
    rw [Effects.since_cons_of_ne (by simp [Effect.used?])] at hs
    exact absurd (hs _ List.mem_cons_self) (by simp [Effect.takesOut])

/-- A key is not held any more when as many other keys as there is room for have been used and nothing was
taken out. -/
theorem evicted (h : Ranked capacity log held) (hs : ∀ x ∈ Effects.since key log, x.takesOut = false)
    (hcard : capacity ≤ (Effects.used (Effects.since key log)).card) : key ∉ keys held := by
  intro hkey
  have hle : (Effects.used (Effects.since key log)).card ≤ (ahead key (keys held)).length :=
    (Finset.card_le_card fun k hk => List.mem_toFinset.mpr (h.crowded hs hkey k hk)).trans
      (List.toFinset_card_le _)
  have hlt := length_ahead_lt hkey
  have hheld := h.length_le
  have hlength : (keys held).length = held.length := List.length_map ..
  omega

end Ranked

end FlagEngine.Bandit
