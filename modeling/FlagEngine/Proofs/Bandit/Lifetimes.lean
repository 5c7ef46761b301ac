import FlagEngine.Proofs.Bandit.Invalidation

/-!
# Lifetimes

Entries are saved for a whole lifetime, `Cache.lasting_after`. So none of them has expired before the cache is
older than that, and until then all of them are alive, `Cache.unexpired_after`.
-/

namespace FlagEngine.Bandit.Cache

variable {capacity : Nat} {lifetime : Lifetime} {c : Cache}

/-- No entry expires before the cache is a whole lifetime old. -/
def Lasting (c : Cache) : Prop :=
  ∀ key s, c.stored? key = some s → c.lifetime.nanos ≤ s.expiry

theorem Lasting.save (h : c.Lasting) (key : String) (e : Entry) : (c.save key e).Lasting := by
  intro other s hs
  rcases stored?_save hs with ⟨-, rfl⟩ | ⟨-, hs⟩
  · exact Nat.le_add_left ..
  · exact h other s hs

/-- Entries that have been there before have not changed. -/
theorem Lasting.of_stored {c' : Cache} (h : c.Lasting) (hsettings : c'.settings = c.settings)
    (hstored : ∀ {key s}, c'.stored? key = some s → c.stored? key = some s) : c'.Lasting := by
  intro key s hs
  have hlifetime : c'.lifetime = c.lifetime := congrArg Prod.snd hsettings
  rw [hlifetime]
  exact h key s (hstored hs)

theorem Lasting.perform (h : c.Lasting) (operation : Operation) : (c.perform operation).Lasting := by
  have hsettings := settings_perform c operation
  cases operation with
  | save key e => exact h.save key e
  | lookup key =>
    refine h.of_stored hsettings fun {other s} hs => ?_
    rw [Cache.perform, stored?_lookup] at hs
    split at hs
    · next ho => exact ho ▸ live?_eq_some hs
    · exact hs
  | remove key => exact h.of_stored hsettings fun hs => (cleared_remove.stored hs).1
  | reset => exact h.of_stored hsettings fun hs => (cleared_reset.stored hs).1
  | begin key fingerprint options => exact h.of_stored hsettings fun hs => (cleared_begin.stored hs).1
  | complete key e t =>
    change (c.complete key e t).2.Lasting
    unfold complete
    split
    · exact h.save key e
    · exact h
  | elapse nanos => exact h

theorem lasting_after (operations : List Operation) : (after capacity lifetime operations).Lasting := by
  induction operations with
  | nil => nofun
  | cons operation earlier ih => exact ih.perform operation

/-- No entry has expired. -/
def Unexpired (c : Cache) : Prop :=
  ∀ key, c.live? key = c.stored? key

/-- In a cache that is younger than a lifetime all entries are alive. -/
theorem Lasting.unexpired (h : c.Lasting) (hnow : c.now < c.lifetime.nanos) : c.Unexpired := by
  intro key
  rw [live?]
  cases hs : c.stored? key with
  | none => rfl
  | some s => exact Option.filter_some_pos (decide_eq_true (hnow.trans_le (h key s hs)))

theorem Unexpired.peek?_eq (h : c.Unexpired) (key : String) :
    c.peek? key = (c.stored? key).map (·.entry) := by
  rw [peek?, h key]

theorem Unexpired.prepare (h : c.Unexpired) (key : String) (options : CacheOptions) :
    (c.prepare key options).Unexpired := by
  intro other
  have hnow : (c.prepare key options).now = c.now := congrArg Prod.snd (standing_prepare options)
  rw [live?, hnow, stored?_prepare]
  split
  · rfl
  · exact h other

theorem unexpired_after {operations : List Operation}
    (hnow : (after capacity lifetime operations).now < lifetime.nanos) :
    (after capacity lifetime operations).Unexpired := by
  refine (lasting_after operations).unexpired ?_
  rwa [lifetime_after]

end FlagEngine.Bandit.Cache
