import FlagEngine.Proofs.Json.Written
import FlagEngine.Proofs.Json.Fields

/-!
# Values that are read again

What is read is regular: its numbers are in range, its objects in order and its levels bounded
(`Document.regular_of_toJson?`). A regular value whose numbers read back is read from its own text
(`ofText?_text`).
-/

namespace FlagEngine.Json

/-- The numbers in a value have the property `P`, the fields of its objects are in ascending order, and
at most `levels` arrays and objects stand inside each other. -/
inductive Regular (P : Number → Prop) : Nat → Json → Prop where
  | null {levels : Nat} : Regular P levels .null
  | bool {levels : Nat} (b : Bool) : Regular P levels (.bool b)
  | number {levels : Nat} {n : Number} (h : P n) : Regular P levels (.number n)
  | string {levels : Nat} (s : String) : Regular P levels (.string s)
  | array {levels : Nat} {xs : List Json} (h : ∀ x ∈ xs, Regular P levels x) :
    Regular P (levels + 1) (.array xs)
  | object {levels : Nat} {fs : List (String × Json)} (hascending : Ascending fs)
    (h : ∀ f ∈ fs, Regular P levels f.2) : Regular P (levels + 1) (.object fs)

mutual

/-- How many arrays and objects stand inside each other at most. -/
def levels : Json → Nat
  | .array xs => itemLevels xs + 1
  | .object fs => fieldLevels fs + 1
  | _ => 0

def itemLevels : List Json → Nat
  | [] => 0
  | x :: xs => max x.levels (itemLevels xs)

def fieldLevels : List (String × Json) → Nat
  | [] => 0
  | (_, x) :: fs => max x.levels (fieldLevels fs)

end

theorem levels_le_itemLevels {xs : List Json} {x : Json} (h : x ∈ xs) : x.levels ≤ itemLevels xs := by
  induction xs with
  | nil => cases h
  | cons y ys ih =>
    rw [itemLevels]
    rcases List.mem_cons.mp h with rfl | h
    · exact Nat.le_max_left _ _
    · exact Nat.le_trans (ih h) (Nat.le_max_right _ _)

theorem levels_le_fieldLevels {fs : List (String × Json)} {f : String × Json} (h : f ∈ fs) :
    f.2.levels ≤ fieldLevels fs := by
  induction fs with
  | nil => cases h
  | cons g gs ih =>
    rw [fieldLevels]
    rcases List.mem_cons.mp h with rfl | h
    · exact Nat.le_max_left _ _
    · exact Nat.le_trans (ih h) (Nat.le_max_right _ _)

theorem ofFields_ne_null (fields : List (String × Json)) : ofFields fields ≠ .null := by
  intro h
  cases h

namespace Regular

variable {P Q : Number → Prop} {k l : Nat} {j : Json}

theorem of_levels_le (h : Regular P k j) (hle : j.levels ≤ l) : Regular P l j := by
  induction h generalizing l with
  | null => exact .null
  | bool b => exact .bool b
  | number h => exact .number h
  | string s => exact .string s
  | array _ ih =>
    rw [levels] at hle
    obtain ⟨l, rfl⟩ := Nat.exists_eq_add_of_lt hle
    refine .array fun x hx => ih x hx ?_
    have hx := levels_le_itemLevels hx
    omega
  | object hascending _ ih =>
    rw [levels] at hle
    obtain ⟨l, rfl⟩ := Nat.exists_eq_add_of_lt hle
    refine .object hascending fun f hf => ih f hf ?_
    have hf := levels_le_fieldLevels hf
    omega

theorem mono (h : Regular P k j) (hle : k ≤ l) : Regular P l j := by
  induction h generalizing l with
  | null => exact .null
  | bool b => exact .bool b
  | number h => exact .number h
  | string s => exact .string s
  | array _ ih =>
    obtain ⟨l, rfl⟩ : ∃ k, l = k + 1 := ⟨l - 1, by omega⟩
    exact .array fun x hx => ih x hx (Nat.le_of_succ_le_succ hle)
  | object hascending _ ih =>
    obtain ⟨l, rfl⟩ : ∃ k, l = k + 1 := ⟨l - 1, by omega⟩
    exact .object hascending fun f hf => ih f hf (Nat.le_of_succ_le_succ hle)

theorem forall_numbers (h : Regular P l j) : ∀ n ∈ j.numbers, P n := by
  induction h with
  | null | bool | string => exact List.forall_mem_nil _
  | number h => exact List.forall_mem_singleton.mpr h
  | array _ ih =>
    intro n hn
    obtain ⟨x, hx, hn⟩ := mem_itemNumbers.mp hn
    exact ih x hx n hn
  | object _ _ ih =>
    intro n hn
    obtain ⟨f, hf, hn⟩ := mem_fieldNumbers.mp hn
    exact ih f hf n hn

theorem imp_numbers (h : Regular P l j) (hnumbers : ∀ n ∈ j.numbers, P n → Q n) : Regular Q l j := by
  induction h with
  | null => exact .null
  | bool b => exact .bool b
  | number h => exact .number (hnumbers _ (List.mem_singleton.mpr rfl) h)
  | string s => exact .string s
  | array _ ih => exact .array fun x hx => ih x hx fun n hn => hnumbers n (mem_itemNumbers.mpr ⟨x, hx, hn⟩)
  | object hascending _ ih =>
    exact .object hascending fun f hf => ih f hf fun n hn => hnumbers n (mem_fieldNumbers.mpr ⟨f, hf, hn⟩)

/-- A value in range reads back if its numbers do that are no integers. -/
theorem readsBack (h : Regular Number.InRange l j)
    (hfloats : ∀ x, .float x ∈ j.numbers → (Number.float x).ReadsBack) : Regular Number.ReadsBack l j := by
  refine h.imp_numbers fun n hn hrange => ?_
  cases n with
  | int n => exact Number.readsBack_int hrange
  | float x => exact hfloats x hn

variable {fields : List (String × Json)}

theorem ofFields (h : ∀ f ∈ fields, f.2.Regular P l) : (ofFields fields).Regular P (l + 1) :=
  .object (ascending_sortFields fields) fun f hf => h f (mem_of_mem_sortFields hf)

theorem of_ofFields (h : (Json.ofFields fields).Regular P l) (hnodup : (fields.map Prod.fst).Nodup) :
    ∃ k, l = k + 1 ∧ ∀ name x, fields.lookup name = some x → x.Regular P k := by
  cases h with
  | object _ h =>
    refine ⟨_, rfl, fun name x hx => ?_⟩
    rw [← lookup_sortFields hnodup] at hx
    exact h (name, x) (mem_of_lookup hx)

end Regular

namespace Document

mutual

/-- A value that is read is regular. -/
theorem regular_of_toJson? {l : Nat} {d : Document} {j : Json} (h : d.toJson? l = some j) :
    j.Regular Number.InRange l := by
  match d, l with
  | .null, _ =>
    cases h
    exact .null
  | .bool b, _ =>
    cases h
    exact .bool b
  | .number n, _ =>
    rw [toJson?] at h
    obtain ⟨m, hm, rfl⟩ := Option.map_eq_some_iff.mp h
    exact .number (Numeral.inRange_of_toNumber? hm)
  | .string s, _ =>
    rw [toJson?] at h
    obtain ⟨s, -, rfl⟩ := Option.map_eq_some_iff.mp h
    exact .string s
  | .array xs, 0 => cases h
  | .object ms, 0 => cases h
  | .array xs, l + 1 =>
    rw [toJson?] at h
    obtain ⟨js, hjs, rfl⟩ := Option.map_eq_some_iff.mp h
    exact .array (regular_of_itemsToJson? hjs)
  | .object ms, l + 1 =>
    rw [toJson?] at h
    obtain ⟨fields, hfields, rfl⟩ := Option.map_eq_some_iff.mp h
    exact .ofFields (regular_of_membersToJson? hfields)

theorem regular_of_itemsToJson? {l : Nat} {xs : List Document} {js : List Json}
    (h : itemsToJson? l xs = some js) :
    ∀ j ∈ js, j.Regular Number.InRange l := by
  match xs with
  | [] =>
    cases h
    exact List.forall_mem_nil _
  | x :: xs =>
    rw [itemsToJson?] at h
    obtain ⟨j, hj, h⟩ := Option.bind_eq_some_iff.mp h
    obtain ⟨js, hjs, h⟩ := Option.bind_eq_some_iff.mp h
    cases h
    exact List.forall_mem_cons.mpr ⟨regular_of_toJson? hj, regular_of_itemsToJson? hjs⟩

theorem regular_of_membersToJson? {l : Nat} {ms : List (Option String × Document)}
    {fields : List (String × Json)} (h : membersToJson? l ms = some fields) :
    ∀ f ∈ fields, f.2.Regular Number.InRange l := by
  match ms with
  | [] =>
    cases h
    exact List.forall_mem_nil _
  | (name, x) :: ms =>
    rw [membersToJson?] at h
    obtain ⟨name, -, h⟩ := Option.bind_eq_some_iff.mp h
    obtain ⟨j, hj, h⟩ := Option.bind_eq_some_iff.mp h
    obtain ⟨fields, hfields, h⟩ := Option.bind_eq_some_iff.mp h
    cases h
    exact List.forall_mem_cons.mpr ⟨regular_of_toJson? hj, regular_of_membersToJson? hfields⟩

end

variable {l : Nat}

theorem toJson?_ne_null {d : Document} (h : d ≠ .null) : d.toJson? l ≠ some .null := by
  intro he
  cases d with
  | null => exact h rfl
  | bool | number | string => simp [toJson?] at he
  | array | object => cases l <;> simp [toJson?, ofFields] at he

theorem itemsToJson?_itemDocuments {xs : List Json} (h : ∀ x ∈ xs, x.document.toJson? l = some x) :
    itemsToJson? l (itemDocuments xs) = some xs := by
  induction xs with
  | nil => rfl
  | cons x xs ih =>
    obtain ⟨hx, hxs⟩ := List.forall_mem_cons.mp h
    rw [itemDocuments, itemsToJson?, hx, ih hxs]
    rfl

theorem membersToJson?_fieldDocuments {fs : List (String × Json)}
    (h : ∀ f ∈ fs, f.2.document.toJson? l = some f.2) : membersToJson? l (fieldDocuments fs) = some fs := by
  induction fs with
  | nil => rfl
  | cons f fs ih =>
    obtain ⟨hf, hfs⟩ := List.forall_mem_cons.mp h
    rw [fieldDocuments, membersToJson?, hf, ih hfs]
    rfl

/-- A regular value whose numbers read back is the value of its own document. -/
theorem toJson?_document {j : Json} (h : j.Regular Number.ReadsBack l) : j.document.toJson? l = some j := by
  induction h with
  | null | bool | string => rfl
  | number h => rw [document, toJson?, h.2, Option.map_some]
  | array _ ih => rw [document, toJson?, itemsToJson?_itemDocuments ih, Option.map_some]
  | object hascending _ ih =>
    rw [document, toJson?, membersToJson?_fieldDocuments ih, Option.map_some, ofFields,
      hascending.sortFields_eq]

end Document

/-- A regular value whose numbers read back is read from its own text. -/
theorem ofText?_text {j : Json} (h : j.Regular Number.ReadsBack Document.maxLevels) :
    ofText? j.text = some j := by
  rw [ofText?, Document.ofText?_text fun n hn => (h.forall_numbers n hn).1]
  exact Document.toJson?_document h

end FlagEngine.Json
