import FlagEngine.Bandit.Cache
import Mathlib.Data.Finset.Card

/-!
# Marks

What a cache knows of its resets and removals: two counters, and the table of the removals. A history
of clearings is a list with the latest one first, and `Marks.after` are the marks that it leaves behind.

The main statement is `Marks.isCurrent_iff`. A ticket is current for a key exactly if since then there
has been no reset, no removal of the key, and no fold, which is a removal that finds the table full and
starts a new one. The counters are words, so this holds for histories of fewer than `UInt64.size`
clearings.
-/

namespace FlagEngine.Bandit

/-- What makes tickets go out of date. -/
inductive Clearing where
  | reset
  | removal (key : String)
deriving DecidableEq, Repr

/-- Whether a clearing leaves the entry of a key alone. -/
def Clearing.Spares (key : String) : Clearing → Prop
  | .reset => False
  | .removal other => other ≠ key

/-- The part of a cache that tickets are compared with. -/
structure Marks where
  generation : UInt64
  epoch : UInt64
  removals : Index UInt64

namespace Marks

def initial : Marks :=
  ⟨0, 0, ∅⟩

/-- The clearing finds the table full and without its key. -/
def Folds (m : Marks) : Clearing → Prop
  | .reset => False
  | .removal key => Cache.removalLimit ≤ m.removals.size ∧ key ∉ m.removals

instance (m : Marks) (key : String) : Decidable (m.Folds (.removal key)) :=
  inferInstanceAs (Decidable (_ ∧ _))

def clear (m : Marks) : Clearing → Marks
  | .reset => { m with generation := m.generation + 1, removals := ∅ }
  | .removal key =>
    if m.Folds (.removal key) then
      { generation := m.generation + 1
        epoch := m.epoch + 1
        removals := (∅ : Index UInt64).insert key (m.epoch + 1) }
    else { m with epoch := m.epoch + 1, removals := m.removals.insert key (m.epoch + 1) }

/-- The marks after a history. -/
def after : List Clearing → Marks
  | [] => initial
  | x :: earlier => (after earlier).clear x

theorem foldr_clear_after (later earlier : List Clearing) :
    later.foldr (fun x m => m.clear x) (after earlier) = after (later ++ earlier) := by
  induction later with
  | nil => rfl
  | cons x later ih => rw [List.foldr_cons, ih, List.cons_append, after]

def ticket (m : Marks) : Ticket :=
  ⟨m.generation, m.epoch⟩

def IsCurrent (m : Marks) (key : String) (t : Ticket) : Prop :=
  m.generation = t.generation ∧ ∀ epoch, m.removals[key]? = some epoch → epoch ≤ t.epoch

variable {m : Marks} {n : Nat} {t : Ticket} {x : Clearing} {key : String}

/-! ## The range of the marks -/

/-- What holds of the marks after `n` clearings, as long as no counter has run over. -/
structure Bounded (m : Marks) (n : Nat) : Prop where
  generation_le : m.generation.toNat ≤ n
  epoch_le : m.epoch.toNat ≤ n
  removal_le : ∀ {key : String} {epoch : UInt64}, m.removals[key]? = some epoch → epoch ≤ m.epoch
  size_le : m.removals.size ≤ Cache.removalLimit

private theorem toNat_succ {a : UInt64} (ha : a.toNat ≤ n) (hn : n + 1 < UInt64.size) :
    (a + 1).toNat = a.toNat + 1 := by
  rw [UInt64.toNat_add]
  exact Nat.mod_eq_of_lt (by simp [UInt64.size] at *; omega)

theorem Bounded.lt_succ_generation (h : m.Bounded n) (hn : n + 1 < UInt64.size) :
    m.generation < m.generation + 1 := by
  rw [UInt64.lt_iff_toNat_lt, toNat_succ h.generation_le hn]
  omega

theorem Bounded.lt_succ_epoch (h : m.Bounded n) (hn : n + 1 < UInt64.size) :
    m.epoch < m.epoch + 1 := by
  rw [UInt64.lt_iff_toNat_lt, toNat_succ h.epoch_le hn]
  omega

theorem bounded_initial : initial.Bounded 0 where
  generation_le := Nat.le_refl _
  epoch_le := Nat.le_refl _
  removal_le h := by simp [initial] at h
  size_le := by simp [initial]

theorem clear_of_folds (h : m.Folds (.removal key)) : m.clear (.removal key) =
    ⟨m.generation + 1, m.epoch + 1, (∅ : Index UInt64).insert key (m.epoch + 1)⟩ :=
  if_pos h

theorem clear_of_not_folds (h : ¬ m.Folds (.removal key)) : m.clear (.removal key) =
    ⟨m.generation, m.epoch + 1, m.removals.insert key (m.epoch + 1)⟩ :=
  if_neg h

private theorem size_insert_le_of_not_folds (h : m.removals.size ≤ Cache.removalLimit)
    (hf : ¬ m.Folds (.removal key)) (epoch : UInt64) :
    (m.removals.insert key epoch).size ≤ Cache.removalLimit := by
  rw [Std.TreeMap.size_insert]
  split
  · exact h
  · next hc =>
    have hlt : m.removals.size < Cache.removalLimit := by
      refine Nat.lt_of_not_le fun hle => hf ⟨hle, ?_⟩
      rwa [← Std.TreeMap.contains_iff_mem]
    exact hlt

theorem Bounded.clear (h : m.Bounded n) (hn : n + 1 < UInt64.size) (x : Clearing) :
    (m.clear x).Bounded (n + 1) := by
  have hgeneration : (m.generation + 1).toNat ≤ n + 1 := by
    rw [toNat_succ h.generation_le hn]
    exact Nat.succ_le_succ h.generation_le
  have hepoch : (m.epoch + 1).toNat ≤ n + 1 := by
    rw [toNat_succ h.epoch_le hn]
    exact Nat.succ_le_succ h.epoch_le
  cases x with
  | reset =>
    refine ⟨hgeneration, Nat.le_succ_of_le h.epoch_le, fun hr => ?_, Nat.zero_le _⟩
    simp [Marks.clear] at hr
  | removal key =>
    by_cases hf : m.Folds (.removal key)
    · rw [clear_of_folds hf]
      refine ⟨hgeneration, hepoch, fun hr => ?_, ?_⟩
      · simp only [Std.TreeMap.getElem?_insert, Std.TreeMap.getElem?_emptyc] at hr
        split at hr
        · cases hr; exact UInt64.le_refl _
        · cases hr
      · rw [Std.TreeMap.size_insert, Std.TreeMap.size_emptyc]
        split <;> exact Nat.le_of_ble_eq_true rfl
    · rw [clear_of_not_folds hf]
      refine ⟨Nat.le_succ_of_le h.generation_le, hepoch, fun hr => ?_, ?_⟩
      · simp only [Std.TreeMap.getElem?_insert] at hr
        split at hr
        · cases hr; exact UInt64.le_refl _
        · exact UInt64.le_trans (h.removal_le hr) (UInt64.le_of_lt (h.lt_succ_epoch hn))
      · exact size_insert_le_of_not_folds h.size_le hf _

theorem bounded_after {history : List Clearing} (h : history.length < UInt64.size) :
    (after history).Bounded history.length := by
  induction history with
  | nil => exact bounded_initial
  | cons x earlier ih =>
    rw [List.length_cons] at h
    exact (ih (by omega)).clear h x

/-! ## Tickets -/

/-- A ticket that was taken at these marks or before. -/
structure Issued (t : Ticket) (m : Marks) : Prop where
  generation_le : t.generation ≤ m.generation
  epoch_le : t.epoch ≤ m.epoch

theorem issued_ticket (m : Marks) : Issued m.ticket m :=
  ⟨UInt64.le_refl _, UInt64.le_refl _⟩

theorem Issued.clear (ht : Issued t m) (h : m.Bounded n) (hn : n + 1 < UInt64.size)
    (x : Clearing) : Issued t (m.clear x) := by
  have hgeneration := UInt64.le_trans ht.generation_le (UInt64.le_of_lt (h.lt_succ_generation hn))
  have hepoch := UInt64.le_trans ht.epoch_le (UInt64.le_of_lt (h.lt_succ_epoch hn))
  cases x with
  | reset => exact ⟨hgeneration, ht.epoch_le⟩
  | removal key =>
    by_cases hf : m.Folds (.removal key)
    · rw [clear_of_folds hf]
      exact ⟨hgeneration, hepoch⟩
    · rw [clear_of_not_folds hf]
      exact ⟨ht.generation_le, hepoch⟩

theorem Bounded.isCurrent_ticket (h : m.Bounded n) (key : String) : m.IsCurrent key m.ticket :=
  ⟨rfl, fun _ hr => h.removal_le hr⟩

/-- A reset, or a removal of its own key, does not put a ticket out of date that is taken after it. -/
theorem isCurrent_ticket_clear (m : Marks) (hx : x = .reset ∨ x = .removal key) :
    (m.clear x).IsCurrent key (m.clear x).ticket := by
  refine ⟨rfl, fun epoch h => ?_⟩
  rcases hx with rfl | rfl
  · simp [clear] at h
  · by_cases hf : m.Folds (.removal key)
    · rw [clear_of_folds hf] at h ⊢
      simp only [Std.TreeMap.getElem?_insert_self, Option.some.injEq] at h
      exact h ▸ UInt64.le_refl _
    · rw [clear_of_not_folds hf] at h ⊢
      simp only [Std.TreeMap.getElem?_insert_self, Option.some.injEq] at h
      exact h ▸ UInt64.le_refl _

/-- A ticket is out of date once the generation has moved on. -/
private theorem not_isCurrent_of_succ (ht : Issued t m) (h : m.Bounded n) (hn : n + 1 < UInt64.size)
    {m' : Marks} (hm : m'.generation = m.generation + 1) : ¬ m'.IsCurrent key t := by
  intro hc
  have hlt := UInt64.lt_of_le_of_lt ht.generation_le (h.lt_succ_generation hn)
  rw [← hm, hc.1] at hlt
  exact UInt64.lt_irrefl _ hlt

/-- What one clearing does to tickets. -/
theorem isCurrent_clear_iff (ht : Issued t m) (h : m.Bounded n) (hn : n + 1 < UInt64.size) :
    (m.clear x).IsCurrent key t ↔ m.IsCurrent key t ∧ x.Spares key ∧ ¬ m.Folds x := by
  cases x with
  | reset =>
    refine ⟨fun hc => (not_isCurrent_of_succ ht h hn ?_ hc).elim, fun hc => hc.2.1.elim⟩
    rfl
  | removal other =>
    by_cases hf : m.Folds (.removal other)
    · rw [clear_of_folds hf]
      refine ⟨fun hc => (not_isCurrent_of_succ ht h hn ?_ hc).elim, fun hc => (hc.2.2 hf).elim⟩
      rfl
    · rw [clear_of_not_folds hf]
      simp only [IsCurrent, Std.TreeMap.getElem?_insert, Std.LawfulEqCmp.compare_eq_iff_eq,
        Clearing.Spares]
      by_cases ho : other = key
      · subst ho
        refine ⟨fun hc => ?_, fun hc => (hc.2.1 rfl).elim⟩
        have hle := hc.2 (m.epoch + 1) (by simp)
        have hlt := UInt64.lt_of_le_of_lt ht.epoch_le (h.lt_succ_epoch hn)
        exact (UInt64.lt_irrefl _ (UInt64.lt_of_le_of_lt hle hlt)).elim
      · simp [ho, hf]

/-- After the first of two parts of a history, the second leaves the tickets for a key alone. -/
def Undisturbed (key : String) (earlier : List Clearing) : List Clearing → Prop
  | [] => True
  | x :: later =>
    Undisturbed key earlier later ∧ x.Spares key ∧ ¬ (after (later ++ earlier)).Folds x

theorem Undisturbed.spares {earlier later : List Clearing} (h : Undisturbed key earlier later) :
    ∀ x ∈ later, x.Spares key := by
  induction later with
  | nil => simp
  | cons x later ih =>
    intro y hy
    rcases List.mem_cons.mp hy with rfl | hy
    · exact h.2.1
    · exact ih h.1 y hy

theorem issued_after {later earlier : List Clearing}
    (h : (later ++ earlier).length < UInt64.size) :
    Issued (after earlier).ticket (after (later ++ earlier)) := by
  induction later with
  | nil => exact issued_ticket _
  | cons x later ih =>
    rw [List.cons_append, List.length_cons] at h
    exact (ih (by omega)).clear (bounded_after (by omega)) h x

/-- A ticket is current exactly if nothing has disturbed its key since it was taken. -/
theorem isCurrent_iff {later earlier : List Clearing}
    (h : (later ++ earlier).length < UInt64.size) :
    (after (later ++ earlier)).IsCurrent key (after earlier).ticket
      ↔ Undisturbed key earlier later := by
  induction later with
  | nil => exact iff_of_true ((bounded_after h).isCurrent_ticket key) trivial
  | cons x later ih =>
    rw [List.cons_append, List.length_cons] at h
    have hl : (later ++ earlier).length < UInt64.size := by omega
    rw [List.cons_append, after, isCurrent_clear_iff (issued_after hl) (bounded_after hl) h, ih hl,
      Undisturbed]

/-! ## Folds -/

/-- The keys removed since the latest reset. -/
def removed : List Clearing → Finset String
  | [] => ∅
  | .reset :: _ => ∅
  | .removal key :: earlier => insert key (removed earlier)

private theorem card_removed_le {earlier : List Clearing} :
    (removed earlier).card ≤ (removed (.removal key :: earlier)).card :=
  Finset.card_le_card (Finset.subset_insert _ _)

private theorem size_eq_card {index : Index UInt64} {keys : Finset String}
    (h : ∀ key, key ∈ index ↔ key ∈ keys) : index.size = keys.card := by
  have hkeys : index.keys.toFinset = keys := by
    ext key
    rw [List.mem_toFinset, Std.TreeMap.mem_keys, h key]
  rw [← hkeys, List.toFinset_card_of_nodup index.nodup_keys, Std.TreeMap.length_keys]

private theorem not_folds_of_mem_iff {earlier : List Clearing}
    (hm : ∀ key, key ∈ (after earlier).removals ↔ key ∈ removed earlier)
    (h : (removed (.removal key :: earlier)).card ≤ Cache.removalLimit) :
    ¬ (after earlier).Folds (.removal key) := by
  rintro ⟨hle, hk⟩
  rw [size_eq_card hm] at hle
  rw [hm key] at hk
  rw [removed, Finset.card_insert_of_notMem hk] at h
  omega

/-- The table has all removals as long as it never had to be given up. -/
theorem mem_removals_iff {history : List Clearing}
    (h : (removed history).card ≤ Cache.removalLimit) (key : String) :
    key ∈ (after history).removals ↔ key ∈ removed history := by
  induction history generalizing key with
  | nil => simp [after, initial, removed]
  | cons x earlier ih =>
    cases x with
    | reset => simp [after, clear, removed]
    | removal other =>
      have hm := ih (card_removed_le.trans h)
      rw [after, clear_of_not_folds (not_folds_of_mem_iff hm h), removed, Finset.mem_insert, ← hm key,
        Std.TreeMap.mem_insert, Std.LawfulEqCmp.compare_eq_iff_eq, eq_comm]

/-- Without a reset, the table is not given up before too many keys have been removed. -/
theorem undisturbed_of_card_le {later earlier : List Clearing}
    (hs : ∀ x ∈ later, x.Spares key)
    (h : (removed (later ++ earlier)).card ≤ Cache.removalLimit) :
    Undisturbed key earlier later := by
  induction later with
  | nil => trivial
  | cons x later ih =>
    have hx := hs x List.mem_cons_self
    cases x with
    | reset => exact hx.elim
    | removal other =>
      have hl := card_removed_le.trans h
      refine ⟨ih (fun y hy => hs y (List.mem_cons_of_mem _ hy)) hl, hx, ?_⟩
      exact not_folds_of_mem_iff (mem_removals_iff hl) h

end Marks

end FlagEngine.Bandit
