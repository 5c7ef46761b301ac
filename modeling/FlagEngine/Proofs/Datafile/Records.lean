import FlagEngine.Datafile.Decode
import FlagEngine.Datafile.Encode
import FlagEngine.Proofs.Json.Regular

/-!
# Records that are read again

A record is read from the object that is written for it (`Decode.record?_ofFields`), whatever the order in
which its fields are written. The records of a datafile without conditions in them are all restored.
-/

namespace FlagEngine

open Json (Document Regular Number Ascending)

namespace Decode

section Reading

variable {α : Type} {decode? : Nat → Document → Option α} {l : Nat}

/-- A step of a reader that comes to a value, as `do` writes it. -/
theorem some_bind {β : Type} (a : α) (f : α → Option β) : (some a >>= f) = f a := rfl

theorem bind_eq_some {β : Type} {x : Option α} {f : α → Option β} {b : β} :
    (x >>= f) = some b ↔ ∃ a, x = some a ∧ f a = some b :=
  Option.bind_eq_some_iff

/-! ## What is read -/

theorem exists_of_mem_of_mapM {f : Document → Option α} {ds : List Document} {xs : List α} {x : α}
    (h : ds.mapM f = some xs) (hx : x ∈ xs) : ∃ d ∈ ds, f d = some x := by
  induction ds generalizing xs with
  | nil =>
    cases h
    cases hx
  | cons d ds ih =>
    rw [List.mapM_cons] at h
    obtain ⟨y, hy, h⟩ := Option.bind_eq_some_iff.mp h
    obtain ⟨ys, hys, h⟩ := Option.bind_eq_some_iff.mp h
    cases h
    rcases List.mem_cons.mp hx with rfl | hx
    · exact ⟨d, .head _, hy⟩
    · obtain ⟨d', hd', hx⟩ := ih hys hx
      exact ⟨d', .tail _ hd', hx⟩

theorem exists_of_mem_of_list? {d : Document} {xs : List α} {x : α} (h : list? decode? l d = some xs)
    (hx : x ∈ xs) : ∃ k d', l = k + 1 ∧ decode? k d' = some x := by
  unfold list? at h
  split at h
  · next k ds =>
    obtain ⟨d', -, hd'⟩ := exists_of_mem_of_mapM h hx
    exact ⟨k, d', rfl, hd'⟩
  · cases h

/-- An element of a list that may be missing was read from somewhere. -/
theorem exists_of_mem {field : Option Document} {xs : List α} {x : α}
    (h : withDefault? [] (list? decode? l) field = some xs) (hx : x ∈ xs) :
    ∃ k d, l = k + 1 ∧ decode? k d = some x := by
  cases field with
  | none =>
    cases h
    cases hx
  | some d => exact exists_of_mem_of_list? h hx

theorem exists_of_record? {names : List String} {d : Document} {r : Nat × Fields}
    (h : record? names l d = some r) : l = r.1 + 1 := by
  unfold record? at h
  split at h
  · obtain ⟨ms, -, h⟩ := Option.bind_eq_some_iff.mp h
    cases h
    rfl
  · obtain ⟨_, -, h⟩ := Option.bind_eq_some_iff.mp h
    cases h
    rfl
  · cases h

theorem ascending_of_withDefault? {field : Option Document} {texts : List (String × String)}
    (h : withDefault? [] textMap? field = some texts) : Ascending texts := by
  cases field with
  | none =>
    cases h
    exact .nil
  | some d =>
    rw [withDefault?, textMap?.eq_def] at h
    split at h
    · obtain ⟨pairs, -, h⟩ := Option.bind_eq_some_iff.mp h
      cases h
      exact Json.ascending_sortFields pairs
    · cases h

end Reading

/-! ## What is written -/

section Writing

variable {α : Type} {decode? : Nat → Document → Option α} {toJson : α → Json}
  {fields : List (String × Json)} {names : List String} {l : Nat}

/-- Wherever its value has room and reads back, the thing is read again from what is written for it. -/
def Restores (decode? : Nat → Document → Option α) (toJson : α → Json) (x : α) : Prop :=
  ∀ l, (toJson x).Regular Number.ReadsBack l → decode? l (toJson x).document = some x

theorem lookup_map_document (fields : List (String × Json)) (name : String) :
    (fields.map fun f => (f.1, f.2.document)).lookup name = (fields.lookup name).map Json.document := by
  induction fields with
  | nil => rfl
  | cons f fields ih =>
    rw [List.map_cons, Json.lookup_cons_eq, Json.lookup_cons_eq, ih]
    split <;> rfl

theorem members?_fieldDocuments (hnodup : (fields.map Prod.fst).Nodup) :
    members? names (Json.fieldDocuments fields) = some (fields.map fun f => (f.1, f.2.document)) := by
  induction fields with
  | nil => rfl
  | cons f fields ih =>
    obtain ⟨hf, hfields⟩ := List.nodup_cons.mp hnodup
    have hnone : fields.lookup f.1 = none :=
      List.lookup_eq_none_iff.mpr fun g hg => bne_iff_ne.mpr fun hfg =>
        hf (List.mem_map.mpr ⟨g, hg, hfg.symm⟩)
    rw [Json.fieldDocuments, members?, ih hfields]
    dsimp only [Option.bind_eq_bind, Option.bind_some]
    rw [lookup_map_document, hnone, Option.map_none, Option.isSome_none, Bool.and_false]
    rfl

/-- The fields of a record are found in the object that is written for it. -/
theorem record?_ofFields (hnodup : (fields.map Prod.fst).Nodup) :
    record? names (l + 1) (Json.ofFields fields).document
      = some (l, fun name => (fields.lookup name).map Json.document) := by
  have hsorted := (Json.ascending_sortFields fields).nodup
  have hlookup : ∀ name, ((Json.sortFields fields).map fun f => (f.1, f.2.document)).lookup name
      = (fields.lookup name).map Json.document := fun name => by
    rw [lookup_map_document, Json.lookup_sortFields hnodup]
  unfold record? Json.ofFields
  rw [Json.document]
  dsimp only
  rw [members?_fieldDocuments hsorted]
  simp only [Option.bind_eq_bind, Option.bind_some, hlookup, Option.pure_def]

/-- A record is restored if its fields are. -/
theorem restores_record {x : α} (htoJson : toJson x = .ofFields fields) (hnodup : (fields.map Prod.fst).Nodup)
    (h : ∀ (l : Nat) (d : Document) (found : Fields), (∀ names, record? names (l + 1) d = some (l, found)) →
      (∀ name, found name = (fields.lookup name).map Json.document) →
      (∀ name v, fields.lookup name = some v → v.Regular Number.ReadsBack l) →
      decode? (l + 1) d = some x) : Restores decode? toJson x := by
  intro l hregular
  rw [htoJson] at hregular ⊢
  obtain ⟨k, rfl, hfields⟩ := hregular.of_ofFields hnodup
  exact h k _ _ (fun _ => record?_ofFields hnodup) (fun _ => rfl) hfields

/-! ## Fields -/

@[simp] theorem text?_string (s : String) : text? (Json.string s).document = some s := rfl

@[simp] theorem bool?_bool (b : Bool) : bool? (Json.bool b).document = some b := rfl

@[simp] theorem name?_string (s : String) : name? (Json.string s).document = some s := rfl

@[simp] theorem withDefault?_some (default : α) (decode : Document → Option α) (d : Document) :
    withDefault? default decode (some d) = decode d := rfl

@[simp] theorem lookup_optional (name : String) (value : Option α) (m : String) :
    (Encode.optional name toJson value).lookup m = if m = name then value.map toJson else none := by
  cases value with
  | none => exact (ite_self _).symm
  | some x =>
    change [(name, toJson x)].lookup m = _
    rw [Json.lookup_cons_eq]
    rfl

/-- A field that may be left out is read again if what is written for it is not null. -/
theorem optional?_map {decode : Document → Option α} {value : Option α}
    (h : ∀ x, value = some x → toJson x ≠ .null ∧ decode (toJson x).document = some x) :
    optional? decode (value.map (Json.document ∘ toJson)) = some value := by
  cases value with
  | none => rfl
  | some x =>
    obtain ⟨hnull, hx⟩ := h x rfl
    have hdocument : (toJson x).document ≠ .null := by
      intro he
      cases hj : toJson x with
      | null => exact hnull hj
      | _ =>
        rw [hj] at he
        cases he
    rw [Option.map_some, Function.comp_apply, optional?, hx]
    · rfl
    · exact hdocument

theorem mapM_map_eq_some {β : Type} {f : β → Option α} {g : α → β} {xs : List α}
    (h : ∀ x ∈ xs, f (g x) = some x) : (xs.map g).mapM f = some xs := by
  induction xs with
  | nil => rfl
  | cons x xs ih =>
    obtain ⟨hx, hxs⟩ := List.forall_mem_cons.mp h
    rw [List.map_cons, List.mapM_cons, hx, ih hxs]
    rfl

theorem list?_array {xs : List α} (hregular : (Json.array (xs.map toJson)).Regular Number.ReadsBack l)
    (h : ∀ x ∈ xs, Restores decode? toJson x) :
    list? decode? l (Json.array (xs.map toJson)).document = some xs := by
  cases hregular with
  | @array l _ hregular =>
    rw [Json.document, Json.itemDocuments_eq_map, List.map_map, list?]
    exact mapM_map_eq_some fun x hx => h x hx l (hregular _ (List.mem_map_of_mem hx))

theorem texts?_texts {texts : List String} (hregular : (Encode.texts texts).Regular Number.ReadsBack l) :
    texts? l (Encode.texts texts).document = some texts :=
  list?_array hregular fun _ _ _ _ => rfl

/-- Integers of 32 bits read back. -/
@[simp] theorem word?_word (n : UInt32) : word? (Encode.word n).document = some n := by
  have hlt : n.toNat < 0x100000000 := n.toNat_lt
  have hread : (Number.int n.toNat).ReadsBack := Number.readsBack_int ⟨by omega, by omega⟩
  have hword : (0 : Int) ≤ n.toNat ∧ (n.toNat : Int) < 0x100000000 := by omega
  unfold Encode.word Json.ofNat
  rw [Json.document, word?, hread.2]
  dsimp only
  rw [if_pos hword, Int.toNat_natCast, UInt32.ofNat_toNat]

theorem textMap?_ofFields {texts : List (String × String)} (h : Ascending texts) :
    textMap? (Json.ofFields (texts.map fun f => (f.1, .string f.2))).document = some texts := by
  have hwritten : Ascending (texts.map fun f => (f.1, Json.string f.2)) := h.map fun f => Json.string f.2
  rw [Json.ofFields, hwritten.sortFields_eq, Json.document, Json.fieldDocuments_eq_map, List.map_map, textMap?,
    mapM_map_eq_some]
  · rw [Option.bind_eq_bind, Option.bind_some, h.sortFields_eq]
    rfl
  · exact fun f _ => rfl

end Writing

section Regular

variable {α : Type} {toJson : α → Json} {P : Number → Prop} {l : Nat}

@[simp] theorem regular_string (s : String) : (Json.string s).Regular P l := .string s

@[simp] theorem regular_bool (b : Bool) : (Json.bool b).Regular P l := .bool b

@[simp] theorem regular_word (n : UInt32) : (Encode.word n).Regular Number.InRange l := by
  have hlt : n.toNat < 0x100000000 := n.toNat_lt
  exact .number ⟨by omega, by omega⟩

theorem regular_array {xs : List α} (h : ∀ x ∈ xs, (toJson x).Regular P l) :
    (Json.array (xs.map toJson)).Regular P (l + 1) :=
  .array (List.forall_mem_map.mpr h)

@[simp] theorem regular_texts (texts : List String) : (Encode.texts texts).Regular P (l + 1) :=
  regular_array fun s _ => .string s

theorem forall_mem_optional {name : String} {value : Option α} {Q : String × Json → Prop} :
    (∀ f ∈ Encode.optional name toJson value, Q f) ↔ ∀ x, value = some x → Q (name, toJson x) := by
  cases value <;> simp [Encode.optional]

end Regular

end Decode

open Decode

/-! ## Records without conditions -/

section Plain

variable {l : Nat}

theorem Override.restores (o : Override) : Restores decode? toJson o := by
  refine restores_record rfl (by simp) fun l d fields hrecord hfields _ => ?_
  simp [-Option.bind_eq_bind, decode?, hrecord, hfields, some_bind, Json.lookup_cons_eq]

theorem Override.regular_toJson (o : Override) : o.toJson.Regular Number.InRange (l + 1) :=
  .ofFields (by simp)

theorem Variation.restores (v : Variation) : Restores decode? toJson v := by
  refine restores_record rfl ?_ fun l d fields hrecord hfields hregular => ?_
  · cases v.featureEnabled <;> simp [Encode.optional]
  · have hfeature : optional? bool? (v.featureEnabled.map (Json.document ∘ .bool)) = some v.featureEnabled :=
      optional?_map fun _ _ => ⟨nofun, rfl⟩
    have hoverrides := list?_array (hregular "variables" (.array (v.overrides.map Override.toJson))
      (by simp [List.lookup_append, Json.lookup_cons_eq])) fun o _ => o.restores
    simp [-Option.bind_eq_bind, decode?, hrecord, hfields, some_bind, List.lookup_append, Json.lookup_cons_eq,
      hfeature, hoverrides]

theorem Variation.regular_toJson (v : Variation) : v.toJson.Regular Number.InRange (l + 3) := by
  have hoverrides : (Json.array (v.overrides.map Override.toJson)).Regular Number.InRange (l + 2) :=
    regular_array fun o _ => o.regular_toJson
  refine .ofFields ?_
  simp only [List.forall_mem_append, forall_mem_optional]
  exact ⟨⟨by simp, fun b _ => .bool b⟩, by simp [hoverrides]⟩

theorem TrafficRange.restores (r : TrafficRange) : Restores decode? toJson r := by
  refine restores_record rfl (by simp) fun l d fields hrecord hfields _ => ?_
  simp [-Option.bind_eq_bind, decode?, hrecord, hfields, some_bind, Json.lookup_cons_eq]

theorem TrafficRange.regular_toJson (r : TrafficRange) : r.toJson.Regular Number.InRange (l + 1) :=
  .ofFields (by simp)

theorem Experiment.Bandit.restores (b : Experiment.Bandit) : Restores decode? toJson b := by
  refine restores_record rfl (by simp) fun l d fields hrecord hfields hregular => ?_
  have hids := texts?_texts (hregular "attributeIds" (Encode.texts b.attributeIds)
    (by simp [Json.lookup_cons_eq]))
  simp [-Option.bind_eq_bind, decode?, hrecord, hfields, some_bind, Json.lookup_cons_eq, hids]

theorem Experiment.Bandit.regular_toJson (b : Experiment.Bandit) :
    b.toJson.Regular Number.InRange (l + 2) :=
  .ofFields (by simp)

theorem Variable.restores (v : Variable) : Restores decode? toJson v := by
  have hkind : Variable.Kind.ofName v.kind.name = v.kind := by cases v.kind <;> rfl
  refine restores_record rfl ?_ fun l d fields hrecord hfields _ => ?_
  · cases v.subKind <;> simp [Encode.optional]
  · have hsub : optional? text? (v.subKind.map (Json.document ∘ .string)) = some v.subKind :=
      optional?_map fun _ _ => ⟨nofun, rfl⟩
    simp [-Option.bind_eq_bind, decode?, hrecord, hfields, some_bind, List.lookup_append, Json.lookup_cons_eq,
      hkind, hsub]

theorem Variable.regular_toJson (v : Variable) : v.toJson.Regular Number.InRange (l + 1) := by
  refine .ofFields ?_
  simp only [List.forall_mem_append, forall_mem_optional]
  exact ⟨⟨by simp, fun s _ => .string s⟩, by simp⟩

theorem Flag.restores (f : Flag) : Restores decode? toJson f := by
  refine restores_record rfl (by simp) fun l d fields hrecord hfields hregular => ?_
  have hids := texts?_texts (hregular "experimentIds" (Encode.texts f.experimentIds)
    (by simp [Json.lookup_cons_eq]))
  have hvars := list?_array (hregular "variables" (.array (f.vars.map Variable.toJson))
    (by simp [Json.lookup_cons_eq])) fun v _ => v.restores
  simp [-Option.bind_eq_bind, decode?, hrecord, hfields, some_bind, Json.lookup_cons_eq, hids, hvars]

theorem Flag.regular_toJson (f : Flag) : f.toJson.Regular Number.InRange (l + 3) := by
  have hvars : (Json.array (f.vars.map Variable.toJson)).Regular Number.InRange (l + 2) :=
    regular_array fun v _ => v.regular_toJson
  exact .ofFields (by simp [hvars])

theorem AttributeKey.restores (a : AttributeKey) : Restores decode? toJson a := by
  refine restores_record rfl (by simp) fun l d fields hrecord hfields _ => ?_
  simp [-Option.bind_eq_bind, decode?, hrecord, hfields, some_bind, Json.lookup_cons_eq]

theorem AttributeKey.regular_toJson (a : AttributeKey) : a.toJson.Regular Number.InRange (l + 1) :=
  .ofFields (by simp)

end Plain

end FlagEngine
