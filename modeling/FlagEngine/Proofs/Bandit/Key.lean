import FlagEngine.Bandit.Basic
import Std.Data.String.ToNat

/-!
# Cache keys

Different pairs of a user and a rule have different keys: the digits before the first hyphen tell where
the user id ends.
-/

namespace FlagEngine.Bandit

private theorem append_cons_inj {α : Type} {a : α} {l l' r r' : List α} (hl : a ∉ l) (hl' : a ∉ l')
    (h : l ++ a :: r = l' ++ a :: r') : l = l' ∧ r = r' := by
  induction l generalizing l' with
  | nil =>
    cases l' with
    | nil => exact ⟨rfl, (List.cons.inj h).2⟩
    | cons b l' => exact (hl' ((List.cons.inj h).1 ▸ List.mem_cons_self)).elim
  | cons b l ih =>
    cases l' with
    | nil => exact (hl ((List.cons.inj h).1 ▸ List.mem_cons_self)).elim
    | cons b' l' =>
      obtain ⟨rfl, htail⟩ := List.cons.inj h
      obtain ⟨rfl, hr⟩ := ih (fun hm => hl (List.mem_cons_of_mem _ hm))
        (fun hm => hl' (List.mem_cons_of_mem _ hm)) htail
      exact ⟨rfl, hr⟩

private theorem hyphen_notMem_repr (n : Nat) : '-' ∉ n.repr.toList := by
  rw [Nat.toList_repr]
  intro h
  have := Nat.isDigit_of_mem_toDigits (by decide) (by decide) h
  exact absurd this (by decide)

private theorem toList_cacheKey (userId ruleId : String) :
    (cacheKey userId ruleId).toList
      = userId.length.repr.toList ++ '-' :: (userId.toList ++ '-' :: ruleId.toList) := by
  simp [cacheKey, String.toList_append]

theorem eq_of_cacheKey_eq {userId userId' ruleId ruleId' : String}
    (h : cacheKey userId ruleId = cacheKey userId' ruleId') : userId = userId' ∧ ruleId = ruleId' := by
  have hl := congrArg String.toList h
  rw [toList_cacheKey, toList_cacheKey] at hl
  obtain ⟨hlength, hrest⟩ := append_cons_inj (hyphen_notMem_repr _) (hyphen_notMem_repr _) hl
  have hlen : userId.toList.length = userId'.toList.length :=
    Nat.repr_injective (String.toList_inj.mp hlength)
  obtain ⟨huser, hrule⟩ := List.append_inj hrest hlen
  exact ⟨String.toList_inj.mp huser, String.toList_inj.mp (List.cons.inj hrule).2⟩

/-- Users and rules have the same key only if they are the same. -/
theorem cacheKey_inj {userId userId' ruleId ruleId' : String} :
    cacheKey userId ruleId = cacheKey userId' ruleId' ↔ userId = userId' ∧ ruleId = ruleId' := by
  constructor
  · exact eq_of_cacheKey_eq
  · rintro ⟨rfl, rfl⟩
    rfl

example : cacheKey "a-b" "c" ≠ cacheKey "a" "b-c" := by decide

end FlagEngine.Bandit
