import FlagEngine.Traffic
import Mathlib.Data.List.Basic

/-!
# Allocating bucket values

The first range that ends after a bucket value gets it, however the ranges are ordered (`Gets`). Its entity is the
outcome. So ranges may be appended, and the last one may be widened, without taking a value away from an entity:
`first_range_decides`.
-/

namespace FlagEngine

/-- The entity that a range is allocated to. -/
def TrafficRange.entity? (r : TrafficRange) : Option String :=
  if r.entityId = "" then none else some r.entityId

namespace Traffic

variable {ranges more before : List TrafficRange} {value : UInt32} {i j : Nat} {r b : TrafficRange}

/-- The range `r` at the index `i` gets the bucket value: it ends after the value, and the ranges before it do not. -/
structure Gets (ranges : List TrafficRange) (value : UInt32) (i : Nat) (r : TrafficRange) : Prop where
  getElem? : ranges[i]? = some r
  lt_end : value < r.endOfRange
  ends_le : ∀ b ∈ ranges.take i, b.endOfRange ≤ value

/-- Where the range at an index begins. -/
def start (ranges : List TrafficRange) : Nat → UInt32
  | 0 => 0
  | i + 1 => ranges[i]?.elim 0 (·.endOfRange)

theorem allocate?_cons_of_lt (h : value < r.endOfRange) : allocate? (r :: ranges) value = r.entity? := by
  rw [allocate?_cons, if_pos h, TrafficRange.entity?]
  simp only [String.isEmpty_iff]

theorem allocate?_cons_of_le (h : r.endOfRange ≤ value) : allocate? (r :: ranges) value = allocate? ranges value := by
  rw [allocate?_cons, if_neg (UInt32.not_lt.mpr h)]

/-! ## The range that gets a value -/

/-- Ranges that end up to the value are passed over. -/
theorem allocate?_append_of_ends_le (h : ∀ b ∈ before, b.endOfRange ≤ value) :
    allocate? (before ++ ranges) value = allocate? ranges value := by
  induction before with
  | nil => rfl
  | cons b before ih =>
    obtain ⟨hb, hbefore⟩ := List.forall_mem_cons.mp h
    rw [List.cons_append, allocate?_cons_of_le hb, ih hbefore]

theorem allocate?_eq_none (h : ∀ b ∈ ranges, b.endOfRange ≤ value) : allocate? ranges value = none := by
  rw [← List.append_nil ranges, allocate?_append_of_ends_le h, allocate?_nil]

namespace Gets

theorem lt_length (h : Gets ranges value i r) : i < ranges.length :=
  (List.getElem?_eq_some_iff.mp h.getElem?).1

theorem eq_append (h : Gets ranges value i r) : ranges = ranges.take i ++ r :: ranges.drop (i + 1) := by
  obtain ⟨hi, rfl⟩ := List.getElem?_eq_some_iff.mp h.getElem?
  rw [← List.drop_eq_getElem_cons hi, List.take_append_drop]

theorem allocate?_eq (h : Gets ranges value i r) : allocate? ranges value = r.entity? := by
  rw [h.eq_append, allocate?_append_of_ends_le h.ends_le, allocate?_cons_of_lt h.lt_end]

theorem append (h : Gets ranges value i r) (more : List TrafficRange) : Gets (ranges ++ more) value i r where
  getElem? := by rw [List.getElem?_append_left h.lt_length, h.getElem?]
  lt_end := h.lt_end
  ends_le := by
    rw [List.take_append_of_le_length (Nat.le_of_lt h.lt_length)]
    exact h.ends_le

/-- No range before another one gets a value that the other one gets. -/
theorem not_lt (h : Gets ranges value i r) (h' : Gets ranges value j b) : ¬ i < j := by
  intro hlt
  have hmem : r ∈ ranges.take j := List.mem_of_getElem? ((List.getElem?_take_of_lt hlt).trans h.getElem?)
  exact UInt32.not_lt.mpr (h'.ends_le r hmem) h.lt_end

theorem unique (h : Gets ranges value i r) (h' : Gets ranges value j b) : i = j :=
  Nat.le_antisymm (Nat.le_of_not_lt (h'.not_lt h)) (Nat.le_of_not_lt (h.not_lt h'))

theorem zero (h : value < r.endOfRange) : Gets (r :: ranges) value 0 r where
  getElem? := rfl
  lt_end := h
  ends_le := List.forall_mem_nil _

theorem cons (h : Gets ranges value i r) (hb : b.endOfRange ≤ value) : Gets (b :: ranges) value (i + 1) r where
  getElem? := h.getElem?
  lt_end := h.lt_end
  ends_le := List.forall_mem_cons.mpr ⟨hb, h.ends_le⟩

end Gets

theorem exists_gets (h : ∃ b ∈ ranges, value < b.endOfRange) : ∃ i r, Gets ranges value i r := by
  induction ranges with
  | nil => simp at h
  | cons b ranges ih =>
    by_cases hb : value < b.endOfRange
    · exact ⟨0, b, .zero hb⟩
    · rw [List.exists_mem_cons_iff] at h
      obtain ⟨i, r, hr⟩ := ih (h.resolve_left hb)
      exact ⟨i + 1, r, hr.cons (UInt32.not_lt.mp hb)⟩

theorem gets_or_ends_le (ranges : List TrafficRange) (value : UInt32) :
    (∃ i r, Gets ranges value i r) ∨ ∀ b ∈ ranges, b.endOfRange ≤ value := by
  by_cases h : ∃ b ∈ ranges, value < b.endOfRange
  · exact .inl (exists_gets h)
  · exact .inr fun b hb => UInt32.not_lt.mp fun hlt => h ⟨b, hb, hlt⟩

/-! ## Ascending ends -/

/-- Of ends in ascending order only the last one counts. -/
theorem ends_le_iff_start_le (hascending : ranges.Pairwise (·.endOfRange ≤ ·.endOfRange)) (hi : i ≤ ranges.length) :
    (∀ b ∈ ranges.take i, b.endOfRange ≤ value) ↔ start ranges i ≤ value := by
  cases i with
  | zero => simp [start]
  | succ i =>
    have hlast : ranges.take (i + 1) = ranges.take i ++ [ranges[i]] := by simp
    have hends := hascending.sublist (List.take_sublist (i + 1) ranges)
    rw [hlast, List.pairwise_append] at hends
    obtain ⟨-, -, hends⟩ := hends
    rw [start, List.getElem?_eq_getElem hi, Option.elim_some, hlast]
    constructor
    · intro h
      exact h _ (List.mem_append_right _ (.head _))
    · intro h b hb
      rcases List.mem_append.mp hb with hb | hb
      · exact UInt32.le_trans (hends b hb _ (.head _)) h
      · rwa [List.mem_singleton.mp hb]

theorem gets_iff_of_ascending (hascending : ranges.Pairwise (·.endOfRange ≤ ·.endOfRange))
    (hr : ranges[i]? = some r) : Gets ranges value i r ↔ start ranges i ≤ value ∧ value < r.endOfRange := by
  obtain ⟨hi, -⟩ := List.getElem?_eq_some_iff.mp hr
  rw [← ends_le_iff_start_le hascending (Nat.le_of_lt hi)]
  exact ⟨fun h => ⟨h.ends_le, h.lt_end⟩, fun ⟨hends, hlt⟩ => ⟨hr, hlt, hends⟩⟩

/-! ## Tables that grow -/

theorem allocate?_append_of_lt (h : ∃ b ∈ ranges, value < b.endOfRange) (more : List TrafficRange) :
    allocate? (ranges ++ more) value = allocate? ranges value := by
  obtain ⟨i, r, hr⟩ := exists_gets h
  rw [hr.allocate?_eq, (hr.append more).allocate?_eq]

/-- Widening the last range gives it values that no entity had. -/
theorem allocate?_widen {e : UInt32} {id : String} (he : r.endOfRange ≤ e)
    (h : allocate? (ranges ++ [r]) value = some id) :
    allocate? (ranges ++ [{ r with endOfRange := e }]) value = some id := by
  by_cases hranges : ∃ b ∈ ranges, value < b.endOfRange
  · rwa [allocate?_append_of_lt hranges] at h ⊢
  · have hends (b : TrafficRange) (hb : b ∈ ranges) : b.endOfRange ≤ value :=
      UInt32.not_lt.mp fun hlt => hranges ⟨b, hb, hlt⟩
    rw [allocate?_append_of_ends_le hends] at h ⊢
    by_cases hr : value < r.endOfRange
    · rw [allocate?_cons_of_lt hr] at h
      rw [allocate?_cons_of_lt (UInt32.lt_of_lt_of_le hr he)]
      exact h
    · rw [allocate?_cons_of_le (UInt32.not_lt.mp hr)] at h
      cases h

/-- **The first range that ends after a bucket value decides**: its entity is the outcome, and without such a range
there is none. Where the ends ascend, a range gets the values from the end of the one before it up to its own.
Ranges that are appended decide where the others do not, and widening the last range takes no value away from the
entity that it had. -/
theorem first_range_decides (ranges : List TrafficRange) (value : UInt32) :
    ((∃ i r, Gets ranges value i r ∧ allocate? ranges value = r.entity?) ∨
      (∀ b ∈ ranges, b.endOfRange ≤ value) ∧ allocate? ranges value = none) ∧
    (ranges.Pairwise (·.endOfRange ≤ ·.endOfRange) → ∀ i r, ranges[i]? = some r →
      (Gets ranges value i r ↔ start ranges i ≤ value ∧ value < r.endOfRange)) ∧
    (∀ more : List TrafficRange,
      ((∃ b ∈ ranges, value < b.endOfRange) → allocate? (ranges ++ more) value = allocate? ranges value) ∧
      ((∀ b ∈ ranges, b.endOfRange ≤ value) → allocate? (ranges ++ more) value = allocate? more value)) ∧
    ∀ (before : List TrafficRange) (last : TrafficRange) (e : UInt32), ranges = before ++ [last] →
      last.endOfRange ≤ e → ∀ id, allocate? ranges value = some id →
      allocate? (before ++ [{ last with endOfRange := e }]) value = some id := by
  refine ⟨?_, fun hascending i r hr => gets_iff_of_ascending hascending hr,
    fun more => ⟨fun h => allocate?_append_of_lt h more, allocate?_append_of_ends_le⟩, ?_⟩
  · rcases gets_or_ends_le ranges value with ⟨i, r, h⟩ | h
    · exact .inl ⟨i, r, h, h.allocate?_eq⟩
    · exact .inr ⟨h, allocate?_eq_none h⟩
  · rintro before last e rfl he id h
    exact allocate?_widen he h

namespace Sample

/-- An entity with two ranges, and between them one without values and one without an entity. -/
def table : List TrafficRange :=
  [⟨"a", 3000⟩, ⟨"b", 3000⟩, ⟨"", 4000⟩, ⟨"a", 5000⟩]

def extension : List TrafficRange :=
  [⟨"b", 4000⟩, ⟨"c", 10000⟩]

end Sample

/-- The gap stays empty when ranges are appended. -/
theorem first_range_decides_of_table :
    Gets Sample.table 4500 3 ⟨"a", 5000⟩ ∧
      allocate? (Sample.table ++ Sample.extension) 3500 = allocate? Sample.table 3500 ∧
      allocate? (Sample.table ++ Sample.extension) 6000 = allocate? Sample.extension 6000 ∧
      allocate? [⟨"a", 3000⟩, ⟨"b", 3000⟩, ⟨"", 4000⟩, ⟨"a", 7000⟩] 4500 = some "a" := by
  obtain ⟨-, hascending, -, hwiden⟩ := first_range_decides Sample.table 4500
  obtain ⟨-, -, hgap, -⟩ := first_range_decides Sample.table 3500
  obtain ⟨-, -, hfree, -⟩ := first_range_decides Sample.table 6000
  refine ⟨(hascending (by decide) 3 _ rfl).mpr (by decide), (hgap Sample.extension).1 (by decide),
    (hfree Sample.extension).2 (by decide), ?_⟩
  exact hwiden [⟨"a", 3000⟩, ⟨"b", 3000⟩, ⟨"", 4000⟩] ⟨"a", 5000⟩ 7000 rfl (by decide) "a" rfl

end Traffic

end FlagEngine
