import FlagEngine.Proofs.Conditions
import FlagEngine.Proofs.Json.Regular

/-!
# Condition trees that are read again

The tree of a value has a value of its own, with the operator of each branch and the known fields of each
test. It is regular where the first one is (`regular_toJson_ofJson`), and its tree is the same
(`ofJson_toJson_ofJson`). So it is for the tree of a text inside a string, unless it is a mere reference
(`ofEmbedded_toJson_ofEmbedded`).
-/

namespace FlagEngine.Condition

open Json (Regular Number)

/-! ## Tests -/

namespace Test

variable {fields : List (String × Json)} {t : Test}

theorem ofFields?_eq_some_iff :
    ofFields? fields = some t ↔
      textField? (fields.lookup "name") = some t.name ∧ textField? (fields.lookup "type") = some t.kind ∧
        textField? (fields.lookup "match") = some t.matching ∧ t.value = valueField (fields.lookup "value") := by
  unfold ofFields?
  constructor
  · intro h
    obtain ⟨name, hname, h⟩ := Option.bind_eq_some_iff.mp h
    obtain ⟨kind, hkind, h⟩ := Option.bind_eq_some_iff.mp h
    obtain ⟨matching, hmatching, h⟩ := Option.bind_eq_some_iff.mp h
    cases h
    exact ⟨hname, hkind, hmatching, rfl⟩
  · rintro ⟨hname, hkind, hmatching, hvalue⟩
    rw [hname, hkind, hmatching, ← hvalue]
    rfl

theorem value_of_ofFields? (h : ofFields? fields = some t) : t.value = valueField (fields.lookup "value") :=
  (ofFields?_eq_some_iff.mp h).2.2.2

theorem valueField_ne_null (v : Option Json) : valueField v ≠ some .null := by
  unfold valueField
  split
  · exact nofun
  · next hne => exact hne

theorem valueField_eq_of_ne {v : Option Json} (h : v ≠ some .null) : valueField v = v := by
  unfold valueField
  split
  · exact (h rfl).elim
  · rfl

theorem value_ne_null (h : ofFields? fields = some t) : t.value ≠ some .null := by
  rw [value_of_ofFields? h]
  exact valueField_ne_null _

/-- The value that a test compares with is a field of what it is read from. -/
theorem lookup_of_value {v : Json} (h : ofFields? fields = some t) (hv : t.value = some v) :
    fields.lookup "value" = some v := by
  rw [value_of_ofFields? h] at hv
  unfold valueField at hv
  split at hv
  · cases hv
  · exact hv

theorem textField?_map_string (o : Option String) : textField? (o.map .string) = some o := by
  cases o <;> rfl

theorem nodup_fields (t : Test) : (t.fields.map Prod.fst).Nodup := by
  obtain ⟨name, kind, matching, value⟩ := t
  cases name <;> cases kind <;> cases matching <;> cases value <;> simp [fields]

theorem lookup_fields (t : Test) :
    t.fields.lookup "name" = t.name.map .string ∧ t.fields.lookup "type" = t.kind.map .string ∧
      t.fields.lookup "match" = t.matching.map .string ∧ t.fields.lookup "value" = t.value := by
  obtain ⟨name, kind, matching, value⟩ := t
  cases name <;> cases kind <;> cases matching <;> cases value <;> exact ⟨rfl, rfl, rfl, rfl⟩

/-- A test is read from the fields that are written for it. -/
theorem ofFields?_sortFields (h : t.value ≠ some .null) : ofFields? (Json.sortFields t.fields) = some t := by
  obtain ⟨hname, hkind, hmatching, hvalue⟩ := t.lookup_fields
  have hlookup := Json.lookup_sortFields t.nodup_fields
  rw [ofFields?_eq_some_iff, hlookup, hlookup, hlookup, hlookup, hname, hkind, hmatching, hvalue,
    textField?_map_string, textField?_map_string, textField?_map_string, valueField_eq_of_ne h]
  exact ⟨rfl, rfl, rfl, rfl⟩

theorem regular_toJson {P : Number → Prop} {l : Nat} (h : ∀ v, t.value = some v → v.Regular P l) :
    t.toJson.Regular P (l + 1) := by
  refine .ofFields fun f hf => ?_
  unfold fields at hf
  simp only [List.mem_append, Option.mem_toList, Option.map_eq_some_iff] at hf
  rcases hf with ((⟨s, -, rfl⟩ | ⟨s, -, rfl⟩) | ⟨s, -, rfl⟩) | ⟨v, hv, rfl⟩
  · exact .string s
  · exact .string s
  · exact .string s
  · exact h v hv

end Test

/-! ## Trees -/

theorem ofItems_eq_map (xs : List Json) : ofItems xs = xs.map ofJson := by
  induction xs with
  | nil => rfl
  | cons x xs ih => rw [ofItems, ih, List.map_cons]

theorem itemsToJson_eq_map (cs : List Condition) : itemsToJson cs = cs.map toJson := by
  induction cs with
  | nil => rfl
  | cons c cs ih => rw [itemsToJson, ih, List.map_cons]

theorem ofName?_name (op : Operator) : Operator.ofName? op.name = some op := by
  cases op <;> rfl

theorem eq_name_of_ofName? {s : String} {op : Operator} (h : Operator.ofName? s = some op) : s = op.name := by
  unfold Operator.ofName? at h
  split at h <;> cases h <;> rfl

/-- The tree of an array is a branch over the trees of its items, save the operator if that is named first. -/
theorem ofJson_array (xs : List Json) :
    (∃ op items, xs = .string (Operator.name op) :: items ∧ ofJson (.array xs) = .branch op (items.map ofJson)) ∨
      (∀ op : Operator, xs.head? ≠ some (.string op.name)) ∧ ofJson (.array xs) = .branch .or (xs.map ofJson) := by
  cases xs with
  | nil => exact .inr ⟨nofun, rfl⟩
  | cons x items =>
    cases x with
    | string s =>
      cases hop : Operator.ofName? s with
      | none =>
        refine .inr ⟨?_, by simp only [ofJson, hop, ofItems_eq_map, List.map_cons]⟩
        rintro op ⟨⟩
        cases hop.symm.trans (ofName?_name op)
      | some op =>
        exact .inl ⟨op, items, by rw [eq_name_of_ofName? hop], by simp only [ofJson, hop, ofItems_eq_map]⟩
    | null | bool | number | array | object =>
      exact .inr ⟨nofun, by rw [← ofItems_eq_map]; rfl⟩

theorem exists_ofJson_array (xs : List Json) :
    ∃ op operands, ofJson (.array xs) = .branch op (operands.map ofJson) ∧ operands ⊆ xs := by
  rcases ofJson_array xs with ⟨op, items, rfl, h⟩ | ⟨-, h⟩
  · exact ⟨op, items, h, List.subset_cons_self _ _⟩
  · exact ⟨.or, xs, h, List.Subset.refl _⟩

/-- A branch is read again if its operands are. -/
theorem ofJson_toJson_branch {op : Operator} {operands : List Condition}
    (h : ∀ c ∈ operands, ofJson c.toJson = c) :
    ofJson (toJson (.branch op operands)) = .branch op operands := by
  have hoperands : (operands.map toJson).map ofJson = operands := by
    rw [List.map_map]
    exact (List.map_congr_left h).trans (List.map_id _)
  rw [toJson, itemsToJson_eq_map, ofJson, ofName?_name, ofItems_eq_map, hoperands]

/-- The tree of a value is read again from the value that is written for it. -/
theorem ofJson_toJson_ofJson (j : Json) : ofJson (ofJson j).toJson = ofJson j := by
  induction j using Json.inductionOn with
  | null | bool | number | string => rfl
  | array xs ih =>
    obtain ⟨op, operands, heq, hsub⟩ := exists_ofJson_array xs
    rw [heq]
    refine ofJson_toJson_branch fun c hc => ?_
    obtain ⟨x, hx, rfl⟩ := List.mem_map.mp hc
    exact ih x (hsub hx)
  | object fields =>
    cases ht : Test.ofFields? fields with
    | none => simp only [ofJson, ht, toJson, Leaf.toJson]
    | some t =>
      have hagain := Test.ofFields?_sortFields (Test.value_ne_null ht)
      simp only [ofJson, ht, toJson, Leaf.toJson, Test.toJson, Json.ofFields, hagain]

theorem regular_toJson_ofJson {P : Number → Prop} {l : Nat} {j : Json} (h : j.Regular P l) :
    (ofJson j).toJson.Regular P l := by
  induction h with
  | null => exact .null
  | bool b => exact .bool b
  | number h => exact .number h
  | string s => exact .string s
  | @array _ xs _ ih =>
    obtain ⟨op, operands, heq, hsub⟩ := exists_ofJson_array xs
    rw [heq, toJson, itemsToJson_eq_map, List.map_map]
    refine .array (List.forall_mem_cons.mpr ⟨.string _, fun x hx => ?_⟩)
    obtain ⟨y, hy, rfl⟩ := List.mem_map.mp hx
    exact ih y (hsub hy)
  | @object _ fields hascending h _ =>
    cases ht : Test.ofFields? fields with
    | none =>
      simp only [ofJson, ht, toJson, Leaf.toJson]
      exact .object hascending h
    | some t =>
      simp only [ofJson, ht, toJson, Leaf.toJson]
      exact t.regular_toJson fun v hv => h _ (Json.mem_of_lookup (Test.lookup_of_value ht hv))

/-- What is no array and no object is written as it was. -/
theorem toJson_ofJson_shape (j : Json) :
    (ofJson j).toJson = j ∨ (∃ xs, (ofJson j).toJson = .array xs) ∨
      ∃ fields, (ofJson j).toJson = .object fields := by
  cases j with
  | null | bool | number | string => exact .inl rfl
  | array xs =>
    obtain ⟨op, operands, heq, -⟩ := exists_ofJson_array xs
    rw [heq]
    exact .inr (.inl ⟨_, rfl⟩)
  | object fields =>
    rw [ofJson]
    split
    · exact .inr (.inr ⟨_, rfl⟩)
    · exact .inl rfl

theorem toJson_ofJson_ne_null {j : Json} (hj : j ≠ .null) : (ofJson j).toJson ≠ .null := by
  intro he
  rcases toJson_ofJson_shape j with h | ⟨xs, h⟩ | ⟨fields, h⟩
  · exact hj (h.symm.trans he)
  · cases h.symm.trans he
  · cases h.symm.trans he

/-! ## Trees inside strings -/

/-- The tree is no more than a reference to an audience. -/
def isReference : Condition → Bool
  | .leaf (.audience _) => true
  | _ => false

/-- Only a reference is written as a string. -/
theorem toJson_ofJson_ne_string {j : Json} (hbare : (ofJson j).isReference = false) (s : String) :
    (ofJson j).toJson ≠ .string s := by
  intro he
  rcases toJson_ofJson_shape j with h | ⟨xs, h⟩ | ⟨fields, h⟩
  · cases h.symm.trans he
    cases hbare
  · cases h.symm.trans he
  · cases h.symm.trans he

theorem ofEmbedded_of_ne_string {j : Json} (h : ∀ s, j ≠ .string s) : ofEmbedded j = ofJson j := by
  cases j with
  | string s => exact (h s rfl).elim
  | _ => rfl

/-- A tree that may stand in a string is read again, unless it is a mere reference. That one is written as
the audience's id, and the id would be taken for the text of a tree. -/
theorem ofEmbedded_toJson_ofEmbedded {j : Json} (hbare : (ofEmbedded j).isReference = false) :
    ofEmbedded (ofEmbedded j).toJson = ofEmbedded j := by
  have hread (x : Json) (hx : ofEmbedded j = ofJson x) : ofEmbedded (ofEmbedded j).toJson = ofEmbedded j := by
    rw [hx] at hbare ⊢
    rw [ofEmbedded_of_ne_string (toJson_ofJson_ne_string hbare), ofJson_toJson_ofJson]
  cases j with
  | string s =>
    cases hs : Json.ofText? s with
    | none => simp only [ofEmbedded, hs, toJson, Leaf.toJson]
    | some x => exact hread x (by simp only [ofEmbedded, hs])
  | null | bool | number | array | object => exact hread _ rfl

/-- Whichever way a tree is spelt, it is written in order and with numbers in range, its depth apart. -/
theorem exists_regular_toJson_ofEmbedded {j : Json} {l : Nat} (h : j.Regular Number.InRange l) :
    ∃ k, (ofEmbedded j).toJson.Regular Number.InRange k := by
  cases j with
  | string s =>
    cases hs : Json.ofText? s with
    | none =>
      simp only [ofEmbedded, hs]
      exact ⟨0, .string s⟩
    | some x =>
      simp only [ofEmbedded, hs]
      obtain ⟨d, -, hx⟩ := Option.bind_eq_some_iff.mp hs
      exact ⟨_, regular_toJson_ofJson (Json.Document.regular_of_toJson? hx)⟩
  | null | bool | number | array | object => exact ⟨l, regular_toJson_ofJson h⟩

end FlagEngine.Condition
