import FlagEngine.Text.Search
import Mathlib.Data.List.Basic

/-!
# Replacing texts

A text with replacements for a needle that occurs in it holds the replacement, and tells what it is.
-/

namespace FlagEngine.Text

variable {needle x y cs : List Char} {c : Char}

theorem replaceFrom_eq_replaceAll_drop (needle x : List Char) (skip : Nat) (cs : List Char) :
    replaceFrom needle x skip cs = replaceAll needle x (cs.drop skip) := by
  induction cs generalizing skip with
  | nil => cases skip <;> rfl
  | cons c cs ih =>
    cases skip with
    | zero => rfl
    | succ skip => exact ih skip

theorem replaceAll_cons_of_isPrefixOf (x : List Char) (h : needle.isPrefixOf (c :: cs) = true) :
    replaceAll needle x (c :: cs) = x ++ replaceAll needle x (cs.drop (needle.length - 1)) := by
  rw [replaceAll, replaceFrom, if_pos h, replaceFrom_eq_replaceAll_drop]

theorem replaceAll_cons_of_not_isPrefixOf (x : List Char) (h : ¬ needle.isPrefixOf (c :: cs) = true) :
    replaceAll needle x (c :: cs) = c :: replaceAll needle x cs := by
  rw [replaceAll, replaceFrom, if_neg h]
  rfl

theorem occurs_cons : occurs needle (c :: cs) = true ↔ needle.isPrefixOf (c :: cs) = true ∨ occurs needle cs = true := by
  rw [occurs, Bool.or_eq_true]

theorem replaceAll_of_not_occurs (x : List Char) (h : ¬ occurs needle cs = true) : replaceAll needle x cs = cs := by
  induction cs with
  | nil => rfl
  | cons c cs ih =>
    obtain ⟨hstart, hrest⟩ := not_or.mp (mt occurs_cons.mpr h)
    rw [replaceAll_cons_of_not_isPrefixOf x hstart, ih hrest]

theorem replaceAll_self (hne : needle ≠ []) : replaceAll needle x needle = x := by
  cases needle with
  | nil => exact (hne rfl).elim
  | cons c cs =>
    have hstart : (c :: cs).isPrefixOf (c :: cs) = true := List.isPrefixOf_iff_prefix.mpr (List.prefix_refl _)
    rw [replaceAll_cons_of_isPrefixOf x hstart, List.length_cons, Nat.add_sub_cancel, List.drop_length]
    exact List.append_nil x

/-- What stands before the first occurrence, and what stands after it, does not depend on the replacement. -/
theorem exists_replaceAll_eq (hne : needle ≠ []) (h : occurs needle cs = true) :
    ∃ before rest, ∀ x, replaceAll needle x cs = before ++ (x ++ replaceAll needle x rest) := by
  induction cs with
  | nil => exact (hne (List.isEmpty_iff.mp h)).elim
  | cons c cs ih =>
    by_cases hstart : needle.isPrefixOf (c :: cs) = true
    · exact ⟨[], _, fun x => replaceAll_cons_of_isPrefixOf x hstart⟩
    · obtain ⟨before, rest, hrest⟩ := ih ((occurs_cons.mp h).resolve_left hstart)
      refine ⟨c :: before, rest, fun x => ?_⟩
      rw [replaceAll_cons_of_not_isPrefixOf x hstart, hrest, List.cons_append]

/-- Longer replacements do not make a shorter text. -/
theorem length_replaceFrom_le (h : x.length ≤ y.length) (skip : Nat) (cs : List Char) :
    (replaceFrom needle x skip cs).length ≤ (replaceFrom needle y skip cs).length := by
  induction cs generalizing skip with
  | nil => cases skip <;> exact Nat.le_refl _
  | cons c cs ih =>
    cases skip with
    | succ skip => exact ih skip
    | zero =>
      have hskip := ih (needle.length - 1)
      have hnext := ih 0
      rw [replaceFrom, replaceFrom]
      split
      · rw [List.length_append, List.length_append]
        omega
      · rw [List.length_cons, List.length_cons]
        omega

theorem replaceAll_inj (hne : needle ≠ []) (hoccurs : occurs needle cs = true) :
    replaceAll needle x cs = replaceAll needle y cs ↔ x = y := by
  constructor
  · intro h
    obtain ⟨before, rest, hrest⟩ := exists_replaceAll_eq hne hoccurs
    rw [hrest, hrest] at h
    have htail := List.append_cancel_left h
    have hlength := congrArg List.length htail
    rw [List.length_append, List.length_append] at hlength
    have hle (hxy : x.length ≤ y.length) : (replaceAll needle x rest).length ≤ (replaceAll needle y rest).length :=
      length_replaceFrom_le hxy 0 rest
    have hge (hyx : y.length ≤ x.length) : (replaceAll needle y rest).length ≤ (replaceAll needle x rest).length :=
      length_replaceFrom_le hyx 0 rest
    apply List.append_inj_left htail
    omega
  · intro h
    rw [h]

/-- What is left without the occurrences is left with any replacement. -/
theorem sublist_replaceFrom (skip : Nat) (cs : List Char) :
    (replaceFrom needle [] skip cs).Sublist (replaceFrom needle x skip cs) := by
  induction cs generalizing skip with
  | nil => cases skip <;> exact List.Sublist.refl _
  | cons c cs ih =>
    cases skip with
    | succ skip => exact ih skip
    | zero =>
      rw [replaceFrom, replaceFrom]
      split
      · exact (ih _).trans (List.sublist_append_right x _)
      · exact (ih 0).cons_cons c

theorem mem_replaceFrom (x : List Char) {skip : Nat} (h : c ∈ replaceFrom needle x skip cs) : c ∈ x ∨ c ∈ cs := by
  induction cs generalizing skip with
  | nil => cases skip <;> cases h
  | cons d cs ih =>
    cases skip with
    | succ skip => exact (ih h).imp_right (List.mem_cons_of_mem d)
    | zero =>
      rw [replaceFrom] at h
      split at h
      · rcases List.mem_append.mp h with h | h
        · exact .inl h
        · exact (ih h).imp_right (List.mem_cons_of_mem d)
      · rcases List.mem_cons.mp h with rfl | h
        · exact .inr List.mem_cons_self
        · exact (ih h).imp_right (List.mem_cons_of_mem d)

end FlagEngine.Text
