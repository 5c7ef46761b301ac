import FlagEngine.Proofs.Consulted
import FlagEngine.Proofs.Json.Floats
import FlagEngine.Proofs.Json.Written

/-!
# Fingerprints

Attributes have the fingerprint of a text in which every name and every value can be read again:
`Attributes.fingerprint_identifies`. The order in which they came together, or are gone through, is not seen in it. Two
different maps of finite numbers therefore have the same fingerprint only if their two texts have the same hash. Zero
and negative zero are different values here, although conditions take them to be equal.
-/

namespace FlagEngine

open Json (Document)

/-! ## What is written for attributes -/

namespace Attribute

/-- The value is no infinity and is not not-a-number, for which null would be written. -/
def IsFinite : Attribute → Prop
  | .number (.infinite _) | .number .nan => False
  | _ => True

instance : DecidablePred IsFinite
  | .string _ | .number (.finite _) | .boolean _ | .null => .isTrue trivial
  | .number (.infinite _) | .number .nan => .isFalse id

variable {v w : Attribute}

theorem isNumeral_of_mem_numbers {n : Json.Number} (h : n ∈ v.toJson.numbers) : n.IsNumeral := by
  match v, h with
  | .number (.finite x), h =>
    rw [List.mem_singleton.mp h]
    exact (Json.Number.numeral_float x).1

/-- The document of a finite value. Each kind of value has its own kind of documents. -/
inductive Spells : Attribute → Document → Prop
  | string (s : String) : Spells (.string s) (.string (some s))
  | number (x : Binary64.Finite) {n : Json.Numeral} (h : (Json.Number.float x).numeral = n) :
    Spells (.number (.finite x)) (.number n)
  | boolean (b : Bool) : Spells (.boolean b) (.bool b)
  | null : Spells .null .null

theorem spells_document (h : v.IsFinite) : v.Spells v.toJson.document := by
  match v, h with
  | .string s, _ => exact .string s
  | .number (.finite x), _ => exact .number x rfl
  | .boolean b, _ => exact .boolean b
  | .null, _ => exact .null

theorem Spells.unique {d : Document} (hv : v.Spells d) (hw : w.Spells d) : v = w := by
  cases hv with
  | string s =>
    cases hw
    rfl
  | number x hx =>
    cases hw with
    | number y hy => rw [Json.Number.numeral_float_injective (hx.trans hy.symm)]
  | boolean b =>
    cases hw
    rfl
  | null =>
    cases hw
    rfl

/-- The document of a value tells its kind and the value. -/
theorem eq_of_document_eq (hv : v.IsFinite) (hw : w.IsFinite) (h : v.toJson.document = w.toJson.document) : v = w := by
  have hspells := spells_document hv
  rw [h] at hspells
  exact hspells.unique (spells_document hw)

end Attribute

namespace Attributes

variable {a b : Attributes} {entries entries' : List (String × Attribute)}

/-- All numbers are finite. -/
def IsFinite (a : Attributes) : Prop :=
  ∀ e ∈ a.toList, e.2.IsFinite

instance : DecidablePred IsFinite := fun a =>
  inferInstanceAs (Decidable (∀ e ∈ a.toList, e.2.IsFinite))

/-- A name and its value as they are written. -/
def pair (e : String × Attribute) : Json :=
  .array [.string e.1, e.2.toJson]

theorem document_pairs (a : Attributes) : a.pairs.document = .array (a.toList.map fun e => (pair e).document) := by
  change Document.array (Json.itemDocuments (a.toList.map pair)) = _
  rw [Json.itemDocuments_eq_map, List.map_map]
  rfl

theorem isNumeral_of_mem_numbers {n : Json.Number} (h : n ∈ a.pairs.numbers) : n.IsNumeral := by
  obtain ⟨x, hx, hn⟩ := Json.mem_itemNumbers.mp h
  obtain ⟨e, -, rfl⟩ := List.mem_map.mp hx
  have hvalue : n ∈ e.2.toJson.numbers := by simpa [Json.numbers, Json.itemNumbers] using hn
  exact Attribute.isNumeral_of_mem_numbers hvalue

theorem eq_of_map_document_eq (ha : ∀ e ∈ entries, e.2.IsFinite) (hb : ∀ e ∈ entries', e.2.IsFinite)
    (h : entries.map (fun e => (pair e).document) = entries'.map fun e => (pair e).document) : entries = entries' := by
  induction entries generalizing entries' with
  | nil =>
    cases entries' with
    | nil => rfl
    | cons e' rest' => cases h
  | cons e rest ih =>
    cases entries' with
    | nil => cases h
    | cons e' rest' =>
      obtain ⟨he, hrest⟩ := List.forall_mem_cons.mp ha
      obtain ⟨he', hrest'⟩ := List.forall_mem_cons.mp hb
      obtain ⟨hpair, htail⟩ := List.cons.inj h
      obtain ⟨hname, hvalue⟩ := List.cons.inj (Document.array.inj hpair)
      have hname : e.1 = e'.1 := Option.some.inj (Document.string.inj hname)
      have hvalue : e.2 = e'.2 := Attribute.eq_of_document_eq he he' (List.cons.inj hvalue).1
      rw [Prod.ext hname hvalue, ih hrest hrest' htail]

/-- Every name and every value can be read again in the text that is hashed. -/
theorem toList_eq_of_text_eq (ha : a.IsFinite) (hb : b.IsFinite) (h : a.pairs.text = b.pairs.text) :
    a.toList = b.toList := by
  have hread := Document.ofText?_text fun n => isNumeral_of_mem_numbers (a := a) (n := n)
  have hread' := Document.ofText?_text fun n => isNumeral_of_mem_numbers (a := b) (n := n)
  rw [h, hread', document_pairs, document_pairs] at hread
  exact eq_of_map_document_eq ha hb (Document.array.inj (Option.some.inj hread)).symm

/-! ## The order of attributes -/

/-- What is written for entries in any order. They are sorted by their names first. -/
def sortedText (entries : List (String × Attribute)) : String :=
  (Json.array ((entries.mergeSort fun e f => (compare e.1 f.1).isLE).map pair)).text

/-- Sorting restores the order of the names, of which there is one, since no name stands twice. -/
theorem mergeSort_eq_toList (h : entries.Perm a.toList) :
    entries.mergeSort (fun e f => (compare e.1 f.1).isLE) = a.toList := by
  have hordered : a.toList.Pairwise fun e f => compare e.1 f.1 = .lt := Std.TreeMap.ordered_keys_toList
  refine List.Perm.eq_of_pairwise ?_ (List.pairwise_mergeSort ?_ ?_ entries) (hordered.imp ?_)
    ((List.mergeSort_perm entries _).trans h)
  · intro e f he hf hef hfe
    have hname : e.1 = f.1 := Std.LawfulEqOrd.eq_of_compare (Std.OrientedCmp.isLE_antisymm hef hfe)
    have he : a[e.1]? = some e.2 :=
      Std.TreeMap.mem_toList_iff_getElem?_eq_some.mp (h.subset ((List.mergeSort_perm entries _).subset he))
    have hf : a[f.1]? = some f.2 := Std.TreeMap.mem_toList_iff_getElem?_eq_some.mp hf
    rw [hname, hf] at he
    exact Prod.ext hname (Option.some.inj he).symm
  · intro e f g
    exact Std.TransCmp.isLE_trans
  · intro e f
    rw [Std.OrientedOrd.eq_swap (a := f.1)]
    cases compare e.1 f.1 <;> rfl
  · intro e f hlt
    rw [hlt]
    rfl

theorem toList_eq_iff : a.toList = b.toList ↔ ∀ name : String, a[name]? = b[name]? := by
  constructor
  · intro h name
    exact (Std.TreeMap.equiv_iff_toList_eq.mpr h).getElem?_eq
  · intro h
    exact (Std.TreeMap.Equiv.of_forall_constGet?_eq h).toList_eq

/-! ## Hexadecimal digits -/

/-- The number that hexadecimal digits stand for. -/
def hexValue (cs : List Char) : Nat :=
  cs.foldl (fun n c => n * 16 + (Text.hexDigit? c).getD 0) 0

theorem hexDigit_digitChar {n : Nat} (h : n < 16) : (Text.hexDigit? n.digitChar).getD 0 = n := by
  decide +revert

theorem hexValue_toDigits (n : Nat) : hexValue (Nat.toDigits 16 n) = n := by
  induction n using Nat.strong_induction_on with
  | _ n ih =>
    by_cases h : n < 16
    · rw [Nat.toDigits_of_lt_base h]
      change 0 * 16 + (Text.hexDigit? n.digitChar).getD 0 = n
      rw [hexDigit_digitChar h]
      omega
    · have hdiv := ih (n / 16) (by omega)
      unfold hexValue at hdiv ⊢
      rw [Nat.toDigits_of_base_le (by decide) (Nat.le_of_not_lt h), List.foldl_append, hdiv]
      change n / 16 * 16 + (Text.hexDigit? (n % 16).digitChar).getD 0 = n
      rw [hexDigit_digitChar (Nat.mod_lt n (by decide))]
      omega

theorem hexValue_zeros (k : Nat) (cs : List Char) : hexValue (List.replicate k '0' ++ cs) = hexValue cs := by
  induction k with
  | zero => rfl
  | succ k ih => exact ih

/-- Nothing of the hash is lost in its digits. -/
theorem fingerprint_eq_iff : a.fingerprint = b.fingerprint ↔ a.hash = b.hash := by
  constructor
  · intro h
    have hdigits := congrArg hexValue (String.ofList_inj.mp h)
    rw [hexValue_zeros, hexValue_zeros, hexValue_toDigits, hexValue_toDigits] at hdigits
    exact UInt32.toNat_inj.mp hdigits
  · intro h
    rw [fingerprint, fingerprint, h]

/-! ## What a fingerprint identifies -/

/-- The order of entries is not seen in what is hashed, equal maps have the same fingerprint, and different maps of
finite numbers have different texts, so that they have the same fingerprint only by a collision of the hash. -/
theorem fingerprint_identifies (a b : Attributes) :
    (∀ entries : List (String × Attribute), entries.Perm a.toList → sortedText entries = a.pairs.text) ∧
    ((∀ name : String, a[name]? = b[name]?) → a.fingerprint = b.fingerprint) ∧
    (a.IsFinite → b.IsFinite →
      (a.pairs.text = b.pairs.text → ∀ name : String, a[name]? = b[name]?) ∧
      (a.fingerprint = b.fingerprint →
        (∀ name : String, a[name]? = b[name]?) ∨
        a.pairs.text ≠ b.pairs.text ∧ Murmur.hashText 0 a.pairs.text = Murmur.hashText 0 b.pairs.text)) := by
  refine ⟨fun entries h => ?_, fun h => fingerprint_congr (toList_eq_iff.mpr h), fun ha hb => ?_⟩
  · rw [sortedText, mergeSort_eq_toList h]
    rfl
  · have hsame (h : a.pairs.text = b.pairs.text) : ∀ name : String, a[name]? = b[name]? :=
      toList_eq_iff.mp (toList_eq_of_text_eq ha hb h)
    refine ⟨hsame, fun h => ?_⟩
    by_cases htext : a.pairs.text = b.pairs.text
    · exact .inl (hsame htext)
    · exact .inr ⟨htext, fingerprint_eq_iff.mp h⟩

theorem fingerprint_identifies_signed_zeros :
    let a : Attributes := (∅ : Attributes).insert "x" (.number (.finite .zero))
    let b : Attributes := (∅ : Attributes).insert "x" (.number (.finite (.neg .zero)))
    a.IsFinite ∧ b.IsFinite ∧ a.pairs.text ≠ b.pairs.text := by
  intro a b
  have ha : a.IsFinite := by decide
  have hb : b.IsFinite := by decide
  refine ⟨ha, hb, fun h => ?_⟩
  have hx := ((fingerprint_identifies a b).2.2 ha hb).1 h "x"
  revert hx
  simp [a, b, Binary64.Finite.neg, Binary64.Finite.zero]

end Attributes

end FlagEngine
