import FlagEngine.Proofs.Datafile.Trees
import Mathlib.Data.List.Forall2

/-!
# Writing condition trees

The tree of a value is written with the operator of each branch and with those fields of each test that are known and
not null. Nothing else of the value is changed, at any depth: `keeps_toJson_ofJson`. The leaves of the tree are the
values in operand position, before and after (`hasLeaf_ofJson_iff`), and the tree that is read again is the same:
`survives_reencoding`.
-/

namespace FlagEngine.Condition

open Json (Ascending)

variable {fields : List (String × Json)} {name : String} {v x j : Json} {l : Leaf} {t : Test}

/-! ## Fields of tests -/

namespace Test

/-- The fields are those of a test: its name, its kind and its matching are texts, if they are there and not null. -/
def Readable (fields : List (String × Json)) : Prop :=
  ∀ name ∈ ["name", "type", "match"], ∀ v, fields.lookup name = some v → v = .null ∨ ∃ s, v = .string s

theorem exists_textField?_iff {o : Option Json} :
    (∃ s, textField? o = some s) ↔ ∀ v, o = some v → v = .null ∨ ∃ s, v = .string s := by
  rcases o with _ | (_ | _ | _ | _ | _ | _) <;> simp [textField?]

theorem exists_ofFields?_iff : (∃ t, ofFields? fields = some t) ↔ Readable fields := by
  simp only [Readable, List.forall_mem_cons, ← exists_textField?_iff, ofFields?_eq_some_iff]
  constructor
  · rintro ⟨t, hname, hkind, hmatching, -⟩
    exact ⟨⟨_, hname⟩, ⟨_, hkind⟩, ⟨_, hmatching⟩, List.forall_mem_nil _⟩
  · rintro ⟨⟨name, hname⟩, ⟨kind, hkind⟩, ⟨matching, hmatching⟩, -⟩
    exact ⟨⟨name, kind, matching, _⟩, hname, hkind, hmatching, rfl⟩

/-- The fields that are known. -/
def fieldNames : List String :=
  ["name", "type", "match", "value"]

theorem map_string_eq_some_iff {o : Option Json} {s : Option String} (h : textField? o = some s) :
    s.map .string = some v ↔ o = some v ∧ v ≠ .null := by
  unfold textField? at h
  split at h <;> cases h <;> grind

theorem valueField_eq_some_iff {o : Option Json} : valueField o = some v ↔ o = some v ∧ v ≠ .null := by
  unfold valueField
  split <;> grind

theorem mem_fieldNames_of_lookup (h : t.fields.lookup name = some v) : name ∈ fieldNames := by
  have hmem := Json.mem_of_lookup h
  simp only [fields, List.mem_append, Option.mem_toList, Option.map_eq_some_iff, Prod.mk.injEq] at hmem
  rcases hmem with ((⟨_, _, rfl, _⟩ | ⟨_, _, rfl, _⟩) | ⟨_, _, rfl, _⟩) | ⟨_, _, rfl, _⟩ <;> decide

/-- The fields that are written are those that were read, save the unknown ones and the null ones. -/
theorem lookup_fields_eq_some_iff (h : ofFields? fields = some t) :
    t.fields.lookup name = some v ↔ fields.lookup name = some v ∧ name ∈ fieldNames ∧ v ≠ .null := by
  obtain ⟨hname, hkind, hmatching, hvalue⟩ := ofFields?_eq_some_iff.mp h
  obtain ⟨hname', hkind', hmatching', hvalue'⟩ := t.lookup_fields
  by_cases hknown : name ∈ fieldNames
  · have hcases : name = "name" ∨ name = "type" ∨ name = "match" ∨ name = "value" := by
      simpa [fieldNames] using hknown
    simp only [hknown, true_and]
    rcases hcases with rfl | rfl | rfl | rfl
    · rw [hname', map_string_eq_some_iff hname]
    · rw [hkind', map_string_eq_some_iff hkind]
    · rw [hmatching', map_string_eq_some_iff hmatching]
    · rw [hvalue', hvalue, valueField_eq_some_iff]
  · exact iff_of_false (fun hv => hknown (mem_fieldNames_of_lookup hv)) fun ⟨_, hmem, _⟩ => hknown hmem

end Test

/-! ## What is kept -/

/-- The value is no condition: it is neither a text nor an array, and no object with the fields of a test. -/
inductive Malformed : Json → Prop where
  | null : Malformed .null
  | bool (b : Bool) : Malformed (.bool b)
  | number (n : Json.Number) : Malformed (.number n)
  | object {fields : List (String × Json)} (h : ¬ Test.Readable fields) : Malformed (.object fields)

/-- The second value is the first one but for operators that are added, and for fields of tests that are unknown or
null and that are left out. -/
inductive Keeps : Json → Json → Prop where
  | text (s : String) : Keeps (.string s) (.string s)
  | malformed {j : Json} (h : Malformed j) : Keeps j j
  | test {fields kept : List (String × Json)} (h : Test.Readable fields) (hascending : Ascending kept)
    (hkept : ∀ name v, kept.lookup name = some v ↔
      fields.lookup name = some v ∧ name ∈ Test.fieldNames ∧ v ≠ .null) :
    Keeps (.object fields) (.object kept)
  | named (op : Operator) {items kept : List Json} (h : List.Forall₂ Keeps items kept) :
    Keeps (.array (.string op.name :: items)) (.array (.string op.name :: kept))
  | unnamed {items kept : List Json} (hfirst : ∀ op : Operator, items.head? ≠ some (.string op.name))
    (h : List.Forall₂ Keeps items kept) :
    Keeps (.array items) (.array (.string Operator.or.name :: kept))

theorem ofJson_object (fields : List (String × Json)) :
    (∃ t, Test.ofFields? fields = some t ∧ ofJson (.object fields) = .leaf (.test t)) ∨
      ¬ Test.Readable fields ∧ ofJson (.object fields) = .leaf (.malformed (.object fields)) := by
  rw [← Test.exists_ofFields?_iff]
  cases ht : Test.ofFields? fields with
  | none => exact .inr ⟨nofun, by simp only [ofJson, ht]⟩
  | some t => exact .inl ⟨t, rfl, by simp only [ofJson, ht]⟩

theorem keeps_toJson (h : Test.ofFields? fields = some t) : Keeps (.object fields) t.toJson := by
  refine .test (Test.exists_ofFields?_iff.mp ⟨t, h⟩) (Json.ascending_sortFields t.fields) fun name v => ?_
  rw [Json.lookup_sortFields t.nodup_fields, Test.lookup_fields_eq_some_iff h]

theorem keeps_items {xs : List Json} (h : ∀ x ∈ xs, Keeps x (ofJson x).toJson) :
    List.Forall₂ Keeps xs (itemsToJson (xs.map ofJson)) := by
  rw [itemsToJson_eq_map, List.map_map, List.forall₂_map_right_iff]
  exact List.forall₂_same.mpr h

/-- What is written for the tree of a value is the value, but for operators and fields of tests. -/
theorem keeps_toJson_ofJson (j : Json) : Keeps j (ofJson j).toJson := by
  induction j using Json.inductionOn with
  | null => exact .malformed .null
  | bool b => exact .malformed (.bool b)
  | number n => exact .malformed (.number n)
  | string s => exact .text s
  | array xs ih =>
    rcases ofJson_array xs with ⟨op, items, rfl, h⟩ | ⟨hfirst, h⟩
    · rw [h, toJson]
      exact .named op (keeps_items fun x hx => ih x (.tail _ hx))
    · rw [h, toJson]
      exact .unnamed hfirst (keeps_items ih)
  | object fields =>
    rcases ofJson_object fields with ⟨t, ht, h⟩ | ⟨hfields, h⟩
    · rw [h]
      exact keeps_toJson ht
    · rw [h]
      exact .malformed (.object hfields)

/-! ## Leaves -/

/-- The one value stands where the other one, or an array inside it, has an operand. -/
inductive Operand (x : Json) : Json → Prop where
  | self : Operand x x
  | named {op : Operator} {items : List Json} {y : Json} :
    y ∈ items → Operand x y → Operand x (.array (.string op.name :: items))
  | unnamed {items : List Json} {y : Json} (hfirst : ∀ op : Operator, items.head? ≠ some (.string op.name)) :
    y ∈ items → Operand x y → Operand x (.array items)

theorem ofJson_array_ne_leaf (xs : List Json) (l : Leaf) : ofJson (.array xs) ≠ .leaf l := by
  intro hl
  rcases ofJson_array xs with ⟨op, items, rfl, h⟩ | ⟨-, h⟩
  · cases h.symm.trans hl
  · cases h.symm.trans hl

theorem ofJson_eq_audience_iff {s : String} : ofJson x = .leaf (.audience s) ↔ x = .string s := by
  constructor
  · intro h
    cases x with
    | null | bool | number => cases h
    | string t =>
      cases h
      rfl
    | array xs => exact (ofJson_array_ne_leaf xs _ h).elim
    | object fields =>
      rcases ofJson_object fields with ⟨t, -, heq⟩ | ⟨-, heq⟩
      · cases heq.symm.trans h
      · cases heq.symm.trans h
  · rintro rfl
    rfl

theorem ofJson_eq_malformed_iff : ofJson x = .leaf (.malformed j) ↔ x = j ∧ Malformed j := by
  constructor
  · intro h
    cases x with
    | null =>
      cases h
      exact ⟨rfl, .null⟩
    | bool b =>
      cases h
      exact ⟨rfl, .bool b⟩
    | number n =>
      cases h
      exact ⟨rfl, .number n⟩
    | string s => cases h
    | array xs => exact (ofJson_array_ne_leaf xs _ h).elim
    | object fields =>
      rcases ofJson_object fields with ⟨t, -, heq⟩ | ⟨hfields, heq⟩
      · cases heq.symm.trans h
      · cases heq.symm.trans h
        exact ⟨rfl, .object hfields⟩
  · rintro ⟨rfl, h⟩
    cases h with
    | null | bool | number => rfl
    | object hfields =>
      rcases ofJson_object _ with ⟨t, ht, -⟩ | ⟨-, heq⟩
      · exact (hfields (Test.exists_ofFields?_iff.mp ⟨t, ht⟩)).elim
      · exact heq

theorem hasLeaf_branch_map_iff {op : Operator} {xs : List Json} :
    (branch op (xs.map ofJson)).HasLeaf l ↔ ∃ x ∈ xs, (ofJson x).HasLeaf l := by
  constructor
  · intro h
    cases h with
    | branch hc hl =>
      obtain ⟨x, hx, rfl⟩ := List.mem_map.mp hc
      exact ⟨x, hx, hl⟩
  · rintro ⟨x, hx, hl⟩
    exact .branch (List.mem_map_of_mem hx) hl

theorem exists_operand_of_leaf {l' : Leaf} (heq : ofJson j = .leaf l') (h : (ofJson j).HasLeaf l) :
    ∃ x, Operand x j ∧ ofJson x = .leaf l := by
  rw [heq] at h
  cases h
  exact ⟨j, .self, heq⟩

/-- The leaves of a tree are the operands that are no arrays. -/
theorem hasLeaf_ofJson_iff : (ofJson j).HasLeaf l ↔ ∃ x, Operand x j ∧ ofJson x = .leaf l := by
  constructor
  · intro h
    induction j using Json.inductionOn with
    | null | bool | number | string => exact exists_operand_of_leaf rfl h
    | array xs ih =>
      rcases ofJson_array xs with ⟨op, items, rfl, heq⟩ | ⟨hfirst, heq⟩
      · rw [heq, hasLeaf_branch_map_iff] at h
        obtain ⟨y, hy, h⟩ := h
        obtain ⟨x, hx, hl⟩ := ih y (.tail _ hy) h
        exact ⟨x, .named hy hx, hl⟩
      · rw [heq, hasLeaf_branch_map_iff] at h
        obtain ⟨y, hy, h⟩ := h
        obtain ⟨x, hx, hl⟩ := ih y hy h
        exact ⟨x, .unnamed hfirst hy hx, hl⟩
    | object fields =>
      rcases ofJson_object fields with ⟨t, -, heq⟩ | ⟨-, heq⟩
      · exact exists_operand_of_leaf heq h
      · exact exists_operand_of_leaf heq h
  · rintro ⟨x, hx, hl⟩
    induction hx with
    | self =>
      rw [hl]
      exact .leaf
    | @named op items y hy hx ih =>
      rcases ofJson_array (.string op.name :: items) with ⟨op', items', hcons, heq⟩ | ⟨hfirst, -⟩
      · obtain ⟨-, rfl⟩ := List.cons.inj hcons
        rw [heq, hasLeaf_branch_map_iff]
        exact ⟨y, hy, ih⟩
      · exact (hfirst op rfl).elim
    | @unnamed items y hfirst hy hx ih =>
      rcases ofJson_array items with ⟨op, items', rfl, -⟩ | ⟨-, heq⟩
      · exact (hfirst op rfl).elim
      · rw [heq, hasLeaf_branch_map_iff]
        exact ⟨y, hy, ih⟩

theorem hasLeaf_audience_iff {s : String} : (ofJson j).HasLeaf (.audience s) ↔ Operand (.string s) j := by
  rw [hasLeaf_ofJson_iff]
  simp only [ofJson_eq_audience_iff, exists_eq_right]

theorem hasLeaf_malformed_iff : (ofJson j).HasLeaf (.malformed x) ↔ Malformed x ∧ Operand x j := by
  rw [hasLeaf_ofJson_iff]
  simp only [ofJson_eq_malformed_iff]
  constructor
  · rintro ⟨_, hx, rfl, hmalformed⟩
    exact ⟨hmalformed, hx⟩
  · rintro ⟨hmalformed, hx⟩
    exact ⟨x, hx, rfl, hmalformed⟩

/-- **Condition trees survive being written.** The tree of a value is read again from what is written for it, and so
has the same value whatever its leaves are worth. What is written is the value it was read from, but for operators that
are added and fields of tests that are left out. The texts in operand position, whatever they spell, are the audiences
of the tree both before and after, and malformed operands are kept as they are. -/
theorem survives_reencoding (j : Json) :
    ofJson (ofJson j).toJson = ofJson j ∧
    (∀ (m : Type → Type) [Monad m] (leaf : Leaf → m Truth),
      evaluateM leaf (ofJson (ofJson j).toJson) = evaluateM leaf (ofJson j)) ∧
    Keeps j (ofJson j).toJson ∧
    (∀ s, ((ofJson j).HasLeaf (.audience s) ↔ Operand (.string s) j) ∧
      (Operand (.string s) (ofJson j).toJson ↔ Operand (.string s) j)) ∧
    ∀ x, ((ofJson j).HasLeaf (.malformed x) ↔ Malformed x ∧ Operand x j) ∧
      (Malformed x ∧ Operand x (ofJson j).toJson ↔ Malformed x ∧ Operand x j) := by
  have hagain := ofJson_toJson_ofJson j
  refine ⟨hagain, fun m _ leaf => by rw [hagain], keeps_toJson_ofJson j, fun s => ⟨hasLeaf_audience_iff, ?_⟩,
    fun x => ⟨hasLeaf_malformed_iff, ?_⟩⟩
  · rw [← hasLeaf_audience_iff, ← hasLeaf_audience_iff, hagain]
  · rw [← hasLeaf_malformed_iff, ← hasLeaf_malformed_iff, hagain]

/-- A text that spells an operator stays an audience when an operator is written before it. -/
example :
    (ofJson (.array [.string "x", .string "and", .object [("type", .null), ("x", .bool true)], .null])).toJson
      = .array [.string "or", .string "x", .string "and", .object [], .null] :=
  rfl

end FlagEngine.Condition
