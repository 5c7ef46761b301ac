import FlagEngine.Proofs.Json.Fields
import FlagEngine.Proofs.Scans
import FlagEngine.Variables

/-!
# Values of flag variables

The text of a variable is the one that the served variation overrides it with, if the feature is on, and its
default otherwise: `Variable.HasText`. What a text stands for depends on the kind of the variable,
`Variable.Denotes`, and some texts stand for nothing. `Flag.accounts_for_variables` tells from these two what
values a flag has and what is reported.
-/

namespace FlagEngine

/-! ## Texts and what they stand for -/

/-- The text of a variable for the variation that is served. Of several overrides of a variable the first one
counts. -/
inductive Variable.HasText (v : Variable) : Option Variation → String → Prop where
  | overridden {s o} (hon : s.featureEnabled = some true) (ho : IsFirst (·.id = v.id) s.overrides o) :
      v.HasText (some s) o.value
  | default {served}
      (h : ∀ s ∈ served, s.featureEnabled = some true → ∀ o ∈ s.overrides, o.id ≠ v.id) :
      v.HasText served v.defaultValue

/-- What a text stands for as a value of the kind of a variable. -/
inductive Variable.Denotes (v : Variable) (text : String) : Json → Prop where
  | string (hk : v.kind = .string) (hsub : v.subKind ≠ some "json") : v.Denotes text (.string text)
  | unknown (hk : v.kind = .unknown) : v.Denotes text (.string text)
  | integer {n} (hk : v.kind = .integer) (hn : Literal.int64? (Text.trim text) = some n)
      (hlower : -0x8000000000000000 ≤ n) (hupper : n < 0x8000000000000000) : v.Denotes text (.number (.int n))
  | double {x} (hk : v.kind = .double) (hx : Literal.binary64? (Text.trim text) = some (.finite x)) :
      v.Denotes text (.number (.float x))
  | yes (hk : v.kind = .boolean) (ht : Text.trim text = "true") : v.Denotes text (.bool true)
  | no (hk : v.kind = .boolean) (ht : Text.trim text = "false") : v.Denotes text (.bool false)
  | json {j} (hk : v.kind = .json ∨ v.kind = .string ∧ v.subKind = some "json") (hj : Json.ofText? text = some j) :
      v.Denotes text j

/-! ## Literals, variations and fields -/

theorem Literal.int64?_bounds {s : String} {n : Int} (h : int64? s = some n) :
    -0x8000000000000000 ≤ n ∧ n < 0x8000000000000000 := by
  simpa using (Option.filter_eq_some_iff.mp h).2

theorem Variation.isEnabled_iff {s : Variation} : s.isEnabled = true ↔ s.featureEnabled = some true :=
  beq_iff_eq

/-- The last field of a name is the one that is found. -/
theorem Json.lookup_sortFields_eq_some_iff {α : Type} {fields : List (String × α)} {name : String} {value : α} :
    (sortFields fields).lookup name = some value ↔ IsLast (·.1 = name) fields (name, value) := by
  rw [lookup_sortFields_eq_reverse, isLast_iff_isFirst_reverse, List.lookup_eq_some_iff]
  constructor
  · rintro ⟨before, after, hfields, hbefore⟩
    exact ⟨before, after, hfields, rfl, fun f hf hname => by simpa [hname] using hbefore f hf⟩
  · rintro ⟨before, after, hfields, -, hbefore⟩
    exact ⟨before, after, hfields, fun f hf => bne_iff_ne.mpr (Ne.symm (hbefore f hf))⟩

namespace Variable

variable {v : Variable} {served : Option Variation} {s : Variation} {text : String} {j : Json}

theorem isJson_iff : v.isJson = true ↔ v.kind = .json ∨ v.kind = .string ∧ v.subKind = some "json" := by
  simp [isJson]

/-! ## What texts stand for -/

theorem Denotes.parse?_eq (h : v.Denotes text j) : v.parse? text = some j := by
  cases h with
  | json hk hj => rw [parse?, if_pos (isJson_iff.mpr hk), hj]
  | string hk hsub => simp [parse?, isJson_iff, hk, hsub]
  | unknown hk => simp [parse?, isJson_iff, hk]
  | integer hk hn => simp [parse?, isJson_iff, hk, hn, Json.ofInt]
  | double hk hx => simp [parse?, isJson_iff, hk, hx]
  | yes hk ht | no hk ht => simp [parse?, isJson_iff, hk, ht]

theorem denotes_of_parse? (h : v.parse? text = some j) : v.Denotes text j := by
  rw [parse?] at h
  split at h
  · next hjson => exact .json (isJson_iff.mp hjson) h
  next hjson =>
  rw [isJson_iff, not_or, not_and] at hjson
  obtain ⟨hnotJson, hsub⟩ := hjson
  split at h
  · next hk =>
    obtain ⟨n, hn, rfl⟩ := Option.map_eq_some_iff.mp h
    obtain ⟨hlower, hupper⟩ := Literal.int64?_bounds hn
    exact .integer hk hn hlower hupper
  · next hk =>
    split at h
    · next hx => exact Option.some.inj h ▸ .double hk hx
    · cases h
  · next hk =>
    split at h
    · next ht => exact Option.some.inj h ▸ .yes hk ht
    · next ht => exact Option.some.inj h ▸ .no hk ht
    · cases h
  · next hk => exact Option.some.inj h ▸ .string hk (hsub hk)
  · next hk => exact absurd hk hnotJson
  · next hk => exact Option.some.inj h ▸ .unknown hk

theorem parse?_eq_some_iff : v.parse? text = some j ↔ v.Denotes text j :=
  ⟨denotes_of_parse?, Denotes.parse?_eq⟩

/-! ## The text of a variable -/

theorem rawText_of_on (hon : s.featureEnabled = some true) :
    v.rawText (some s) = ((s.overrides.find? (·.id == v.id)).map (·.value)).getD v.defaultValue := by
  rw [rawText, Option.filter_some, if_pos (Variation.isEnabled_iff.mpr hon)]
  rfl

theorem rawText_of_off (hoff : s.featureEnabled ≠ some true) : v.rawText (some s) = v.rawText none := by
  rw [rawText, Option.filter_some, if_neg (mt Variation.isEnabled_iff.mp hoff)]
  rfl

theorem hasText_rawText (v : Variable) (served : Option Variation) : v.HasText served (v.rawText served) := by
  cases served with
  | none => exact .default nofun
  | some s =>
    by_cases hon : s.featureEnabled = some true
    · rw [rawText_of_on hon]
      cases ho : s.overrides.find? (·.id == v.id) with
      | some o => exact .overridden hon (by simpa using find?_eq_some_iff_isFirst.mp ho)
      | none =>
        refine .default fun s' hs _ o hmem => ?_
        obtain rfl := Option.some.inj hs
        simpa using List.find?_eq_none.mp ho o hmem
    · rw [rawText_of_off hon]
      exact .default fun _ hs hs' => absurd (Option.some.inj hs ▸ hs') hon

theorem HasText.rawText_eq (h : v.HasText served text) : v.rawText served = text := by
  cases h with
  | @overridden s o hon ho =>
    have hfind : s.overrides.find? (·.id == v.id) = some o :=
      find?_eq_some_iff_isFirst.mpr (by simpa using ho)
    rw [rawText_of_on hon, hfind]
    rfl
  | default h =>
    cases served with
    | none => rfl
    | some s =>
      by_cases hon : s.featureEnabled = some true
      · have hfind : s.overrides.find? (·.id == v.id) = none := by
          simpa using h s rfl hon
        rw [rawText_of_on hon, hfind]
        rfl
      · exact rawText_of_off hon

/-! ## The value of a variable -/

/-- The value that a variable has for the variation that is served. -/
def HasValue (v : Variable) (served : Option Variation) (j : Json) : Prop :=
  ∃ text, v.HasText served text ∧ v.Denotes text j

/-- The variable has a value. -/
def IsValued (v : Variable) (served : Option Variation) : Prop :=
  ∃ j, v.HasValue served j

theorem hasValue_iff : v.HasValue served j ↔ v.parse? (v.rawText served) = some j := by
  rw [parse?_eq_some_iff]
  constructor
  · rintro ⟨text, ht, hj⟩
    exact ht.rawText_eq ▸ hj
  · intro hj
    exact ⟨_, hasText_rawText v served, hj⟩

theorem isValued_iff : v.IsValued served ↔ (v.parse? (v.rawText served)).isSome = true := by
  simp only [IsValued, hasValue_iff, Option.isSome_iff_exists]

instance : Decidable (v.IsValued served) :=
  decidable_of_iff _ isValued_iff.symm

theorem value_value? (v : Variable) (served : Option Variation) :
    (v.value? served).value = v.parse? (v.rawText served) := by
  rw [value?]
  split
  · next hj => exact hj.symm
  · next hj => exact hj.symm

theorem reasons_value? (v : Variable) (served : Option Variation) :
    (v.value? served).reasons = if v.IsValued served then [] else [.invalidVariable v.key] := by
  rw [value?]
  split
  · next hj => rw [if_pos (isValued_iff.mpr (Option.isSome_of_eq_some hj)), Reasoned.reasons_pure]
  · next hj =>
    have hnone : ¬ v.IsValued served := by simp [isValued_iff, hj]
    rw [if_neg hnone]
    rfl

theorem value_values (served : Option Variation) (vs : List Variable) :
    (values served vs).value
      = vs.flatMap fun v => ((v.parse? (v.rawText served)).map fun j => (v.key, j)).toList := by
  induction vs with
  | nil => rfl
  | cons v vs ih =>
    rw [values, List.flatMap_cons, ← ih, ← v.value_value?]
    rfl

theorem reasons_values (served : Option Variation) (vs : List Variable) :
    (values served vs).reasons
      = (vs.filter fun v => ¬ v.IsValued served).map fun v => .invalidVariable v.key := by
  induction vs with
  | nil => rfl
  | cons v vs ih =>
    rw [values, Reasoned.reasons_bind, v.reasons_value?, Reasoned.reasons_bind, ih, Reasoned.reasons_pure,
      List.append_nil, List.filter_cons]
    by_cases hv : v.IsValued served <;> simp [hv]

/-- What is served with the feature off overrides nothing. -/
theorem values_of_off (hoff : s.featureEnabled ≠ some true) (vs : List Variable) :
    values (some s) vs = values none vs := by
  induction vs with
  | nil => rfl
  | cons v vs ih => rw [values, values, ih, value?, value?, rawText_of_off hoff]

theorem remark_invalidVariable (key : String) :
    (Reason.invalidVariable key).remark
      = ⟨true, "Variable value for key (" ++ key ++ ") is invalid or wrong type."⟩ := by
  have htext :
      (Reason.invalidVariable key).text = "Variable value for key (" ++ key ++ ") is invalid or wrong type." := by
    change "Variable value for key " ++ ("(" ++ key ++ ")") ++ " is invalid or wrong type." = _
    rw [← String.append_assoc, ← String.append_assoc, @String.append_assoc _ ")"]
    rfl
  rw [Reason.remark, htext]
  rfl

end Variable

/-! ## The values of a flag -/

namespace Flag

variable {f : Flag} {served : Option Variation} {key : String} {j : Json}

theorem value_values (f : Flag) (served : Option Variation) :
    (f.values served).value = Json.sortFields (Variable.values served f.vars).value := rfl

theorem reasons_values (f : Flag) (served : Option Variation) :
    (f.values served).reasons = (Variable.values served f.vars).reasons := by
  rw [values, Reasoned.reasons_bind, Reasoned.reasons_pure, List.append_nil]

theorem lookup_values :
    (f.values served).value.lookup key = some j ↔
      ∃ v, IsLast (fun v => v.key = key ∧ v.IsValued served) f.vars v ∧ v.HasValue served j := by
  have hshows (v : Variable) :
      (∃ field ∈ ((v.parse? (v.rawText served)).map fun j => (v.key, j)).toList, field.1 = key)
        ↔ v.key = key ∧ v.IsValued served := by
    rw [Variable.isValued_iff]
    cases v.parse? (v.rawText served) <;> simp
  rw [value_values, Variable.value_values, Json.lookup_sortFields_eq_some_iff, IsLast.flatMap_iff]
  simp only [hshows, IsLast.toList_iff, Option.map_eq_some_iff, Prod.mk.injEq, Variable.hasValue_iff]
  constructor
  · rintro ⟨v, hv, ⟨j', hj, -, rfl⟩, -⟩
    exact ⟨v, hv, hj⟩
  · rintro ⟨v, hv, hj⟩
    exact ⟨v, hv, ⟨j, hj, hv.holds.1, rfl⟩, trivial⟩

theorem mem_keys_values :
    key ∈ (f.values served).value.map Prod.fst ↔ ∃ v ∈ f.vars, v.key = key ∧ v.IsValued served := by
  have hlookup :
      key ∈ (f.values served).value.map Prod.fst ↔ ∃ j, (f.values served).value.lookup key = some j := by
    rw [← Option.isSome_iff_exists, List.lookup_isSome_iff, List.mem_map]
    exact exists_congr fun field => and_congr_right fun _ => by rw [beq_iff_eq, eq_comm]
  simp only [hlookup, lookup_values]
  rw [← IsLast.exists_iff]
  constructor
  · rintro ⟨j, v, hv, -⟩
    exact ⟨v, hv⟩
  · rintro ⟨v, hv⟩
    obtain ⟨j, hj⟩ := hv.holds.2
    exact ⟨j, v, hv, hj⟩

/-- **Every variable is accounted for**, whatever variation is served:

* the values are those of the variables whose texts denote one, as values of their kinds. Of several such
  variables with a key the last one counts, and no key is there twice;
* for every other variable there is one error, in the order in which the flag lists its variables;
* a variation with the feature off makes no difference to serving nothing. -/
theorem accounts_for_variables (f : Flag) (served : Option Variation) :
    (∀ key j, (f.values served).value.lookup key = some j ↔
      ∃ v, IsLast (fun v => v.key = key ∧ v.IsValued served) f.vars v ∧ v.HasValue served j) ∧
    (∀ key, key ∈ (f.values served).value.map Prod.fst ↔ ∃ v ∈ f.vars, v.key = key ∧ v.IsValued served) ∧
    Json.Ascending (f.values served).value ∧
    (f.values served).reasons.map Reason.remark
      = (f.vars.filter fun v => ¬ v.IsValued served).map (fun v =>
          ⟨true, "Variable value for key (" ++ v.key ++ ") is invalid or wrong type."⟩) ∧
    ∀ s, s.featureEnabled ≠ some true → f.values (some s) = f.values none := by
  refine ⟨fun key j => lookup_values, fun key => mem_keys_values, Json.ascending_sortFields _, ?_,
    fun s hoff => ?_⟩
  · rw [reasons_values, Variable.reasons_values, List.map_map]
    exact List.map_congr_left fun v _ => Variable.remark_invalidVariable v.key
  · rw [values, values, Variable.values_of_off hoff]

namespace Sample

def count (id defaultValue : String) : Variable :=
  ⟨id, "count", .integer, none, defaultValue⟩

/-- Three variables share a key. -/
def counting : Flag :=
  { (default : Flag) with
    vars := [count "1" "1", count "2" "2", count "3" "3"] }

/-- The second variable is overridden twice, and the third one with a text that is no integer. -/
def overriding (featureEnabled : Option Bool) : Variation :=
  { (default : Variation) with
    featureEnabled
    overrides := [⟨"2", " +07 "⟩, ⟨"3", "many"⟩, ⟨"2", "8"⟩] }

end Sample

/-- The third variable lacks a value, so that the first text of the second one counts. With the feature off the
default of the third one counts. -/
theorem accounts_for_variables_of_count :
    (∃ v,
      IsLast (fun v => v.key = "count" ∧ v.IsValued (some (Sample.overriding (some true)))) Sample.counting.vars v ∧
        v.HasValue (some (Sample.overriding (some true))) (.number (.int 7))) ∧
    (Sample.overriding none).featureEnabled ≠ some true ∧
    Sample.counting.values (some (Sample.overriding none)) = Sample.counting.values none ∧
    (Sample.counting.values none).value.lookup "count" = some (.number (.int 3)) := by
  obtain ⟨hlookup, -⟩ := accounts_for_variables Sample.counting (some (Sample.overriding (some true)))
  obtain ⟨-, -, -, -, hoff⟩ := accounts_for_variables Sample.counting none
  have hnone : (Sample.overriding none).featureEnabled ≠ some true := nofun
  exact ⟨(hlookup "count" _).mp rfl, hnone, hoff _ hnone, rfl⟩

end Flag

end FlagEngine
