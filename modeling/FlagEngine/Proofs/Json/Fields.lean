import FlagEngine.Json.Basic

/-!
# Sorted fields

`sortFields` leaves the fields in ascending order of their names. Of a repeated name the last field counts
(`lookup_sortFields_eq_reverse`); where none is repeated no field is lost (`lookup_sortFields`), and fields in
order stay as they are (`Ascending.sortFields_eq`).
-/

namespace FlagEngine.Json

variable {α : Type} {fields : List (String × α)} {name : String} {value : α}

/-- The fields stand in ascending order of their names, each name once. -/
def Ascending (fields : List (String × α)) : Prop :=
  fields.Pairwise fun f g => f.1 < g.1

/-! ## One field -/

theorem mem_setField {f : String × α} (h : f ∈ setField name value fields) :
    f = (name, value) ∨ f ∈ fields := by
  induction fields with
  | nil => exact .inl (List.mem_singleton.mp h)
  | cons g rest ih =>
    rw [setField] at h
    split at h
    · exact List.mem_cons.mp h
    · split at h
      · exact (List.mem_cons.mp h).imp_right (List.mem_cons_of_mem g)
      · rcases List.mem_cons.mp h with rfl | h
        · exact .inr (.head rest)
        · exact (ih h).imp_right (List.mem_cons_of_mem g)

theorem Ascending.setField (h : Ascending fields) : Ascending (setField name value fields) := by
  induction fields with
  | nil => exact List.pairwise_singleton _ _
  | cons g rest ih =>
    obtain ⟨hg, hrest⟩ := List.pairwise_cons.mp h
    rw [Json.setField]
    split
    · next hlt =>
      have hall : ∀ f ∈ g :: rest, name < f.1 :=
        List.forall_mem_cons.mpr ⟨hlt, fun f hf => String.lt_trans hlt (hg f hf)⟩
      exact List.pairwise_cons.mpr ⟨hall, h⟩
    · next hge =>
      split
      · next heq =>
        subst heq
        exact List.pairwise_cons.mpr ⟨hg, hrest⟩
      · next hne =>
        have hlt : g.1 < name := Std.lt_of_le_of_ne (String.not_lt.mp hge) (Ne.symm hne)
        refine List.pairwise_cons.mpr ⟨fun f hf => ?_, ih hrest⟩
        rcases mem_setField hf with rfl | hf
        · exact hlt
        · exact hg f hf

theorem lookup_cons_eq (f : String × α) (m : String) :
    (f :: fields).lookup m = if m = f.1 then some f.2 else fields.lookup m := by
  rw [List.lookup_cons]
  split
  · next hm => rw [if_pos (eq_of_beq hm)]
  · next hm => rw [if_neg (ne_of_beq_false hm)]

theorem lookup_setField (m : String) :
    (setField name value fields).lookup m = if m = name then some value else fields.lookup m := by
  induction fields with
  | nil => rw [setField, lookup_cons_eq]
  | cons g rest ih =>
    rw [setField]
    split
    · rw [lookup_cons_eq]
    · split
      · next heq =>
        rw [lookup_cons_eq, lookup_cons_eq]
        split
        · rfl
        · next hm => rw [if_neg (heq ▸ hm)]
      · next hne =>
        rw [lookup_cons_eq, ih, lookup_cons_eq]
        split
        · next hm => rw [if_neg (fun h => hne (h.symm.trans hm))]
        · rfl

/-- A field that comes after all others is set at the end. -/
theorem setField_of_forall_lt (h : ∀ f ∈ fields, f.1 < name) :
    setField name value fields = fields ++ [(name, value)] := by
  induction fields with
  | nil => rfl
  | cons g rest ih =>
    obtain ⟨hg, hrest⟩ := List.forall_mem_cons.mp h
    rw [setField, if_neg (String.lt_asymm hg), if_neg, ih hrest, List.cons_append]
    rintro rfl
    exact String.lt_irrefl _ hg

/-! ## All fields -/

theorem ascending_sortFields (fields : List (String × α)) : Ascending (sortFields fields) :=
  List.foldlRecOn fields _ .nil fun _ h _ _ => h.setField

theorem mem_of_mem_sortFields {f : String × α} (h : f ∈ sortFields fields) : f ∈ fields := by
  have hall : ∀ g ∈ sortFields fields, g ∈ fields := by
    refine List.foldlRecOn (motive := fun sorted => ∀ g ∈ sorted, g ∈ fields) fields _
      (List.forall_mem_nil _) fun sorted hsorted f hf g hg => ?_
    rcases mem_setField hg with rfl | hg
    · exact hf
    · exact hsorted g hg
  exact hall f h

theorem lookup_foldl_setField (sorted : List (String × α)) (m : String) :
    (fields.foldl (fun sorted f => setField f.1 f.2 sorted) sorted).lookup m
      = (fields.reverse.lookup m).or (sorted.lookup m) := by
  induction fields generalizing sorted with
  | nil => rfl
  | cons f rest ih =>
    rw [List.foldl_cons, ih, lookup_setField, List.reverse_cons, List.lookup_append, lookup_cons_eq,
      Option.or_assoc]
    split <;> rfl

/-- The last field of a name counts. -/
theorem lookup_sortFields_eq_reverse (fields : List (String × α)) (m : String) :
    (sortFields fields).lookup m = fields.reverse.lookup m := by
  unfold sortFields
  rw [lookup_foldl_setField, List.lookup_nil, Option.or_none]

theorem lookup_reverse (h : (fields.map Prod.fst).Nodup) (m : String) :
    fields.reverse.lookup m = fields.lookup m := by
  induction fields with
  | nil => rfl
  | cons f rest ih =>
    obtain ⟨hf, hrest⟩ := List.nodup_cons.mp h
    rw [List.reverse_cons, List.lookup_append, ih hrest, lookup_cons_eq, lookup_cons_eq]
    split
    · next hm =>
      have hnone : rest.lookup m = none := by
        refine List.lookup_eq_none_iff.mpr fun g hg => bne_iff_ne.mpr fun hmg => hf ?_
        exact List.mem_map.mpr ⟨g, hg, (hm.symm.trans hmg).symm⟩
      rw [hnone]
      rfl
    · exact Option.or_none

/-- Where no name is repeated every field is found among the sorted ones. -/
theorem lookup_sortFields (h : (fields.map Prod.fst).Nodup) (m : String) :
    (sortFields fields).lookup m = fields.lookup m :=
  (lookup_sortFields_eq_reverse fields m).trans (lookup_reverse h m)

theorem foldl_setField_of_ascending {sorted : List (String × α)} (h : Ascending (sorted ++ fields)) :
    fields.foldl (fun sorted f => setField f.1 f.2 sorted) sorted = sorted ++ fields := by
  induction fields generalizing sorted with
  | nil => exact (List.append_nil sorted).symm
  | cons f rest ih =>
    have hlast : ∀ g ∈ sorted, g.1 < f.1 := fun g hg =>
      (List.pairwise_append.mp h).2.2 g hg f (.head rest)
    have hassoc : sorted ++ f :: rest = sorted ++ [f] ++ rest := by simp
    rw [hassoc] at h ⊢
    rw [List.foldl_cons, setField_of_forall_lt hlast]
    exact ih h

theorem Ascending.sortFields_eq (h : Ascending fields) : sortFields fields = fields :=
  @foldl_setField_of_ascending α fields [] h

theorem Ascending.nodup (h : Ascending fields) : (fields.map Prod.fst).Nodup := by
  refine List.pairwise_map.mpr (List.Pairwise.imp (fun hlt heq => ?_) h)
  rw [heq] at hlt
  exact String.lt_irrefl _ hlt

/-- Fields keep their order when their values are replaced. -/
theorem Ascending.map {β : Type} (h : Ascending fields) (g : String × α → β) :
    Ascending (fields.map fun f => (f.1, g f)) :=
  List.pairwise_map.mpr h

theorem mem_of_lookup {f : List (String × α)} (h : f.lookup name = some value) : (name, value) ∈ f := by
  obtain ⟨before, after, rfl, -⟩ := List.lookup_eq_some_iff.mp h
  exact List.mem_append_right _ (.head _)

end FlagEngine.Json
