import FlagEngine.Proofs.Json.Numerals

/-!
# Reading what is written

The text of a value, whatever stands behind it, is read as the document of the value if its numbers are
written as numerals: `Document.value_chars`.
-/

namespace FlagEngine.Json

/-! ## Strings -/

namespace Document

theorem joinUnits_unit {n : Nat} (hn : n < 0xD800) (ps : List Piece) :
    joinUnits (.unit n :: ps) = (joinUnits ps).map (Char.ofNat n :: ·) := by
  have hlow : ¬ (0xD800 ≤ n ∧ n < 0xDC00) := by omega
  have hhigh : ¬ (0xDC00 ≤ n ∧ n < 0xE000) := by omega
  have hsurrogate : ¬ (0xD800 ≤ n ∧ n < 0xE000) := by omega
  cases ps with
  | nil => simp only [joinUnits, if_neg hsurrogate]
  | cons p ps =>
    cases p with
    | char c => simp only [joinUnits, if_neg hsurrogate]
    | unit lo => simp only [joinUnits, if_neg hlow, if_neg hhigh]

theorem hexUnit?_control : ∀ n < 0x20,
    hexUnit? '0' '0' (if n < 0x10 then '0' else '1') (Nat.digitChar (n % 16)) = some n := by
  decide

theorem pieces_cons {c : Char} (hquote : c ≠ '"') (hbackslash : c ≠ '\\') (hcontrol : ¬ c.toNat < 0x20)
    (cs : List Char) : pieces (c :: cs) = (pieces cs).map fun r => (.char c :: r.1, r.2) := by
  have hguard : c ≠ '\\' ∧ 0x20 ≤ c.toNat := ⟨hbackslash, Nat.le_of_not_lt hcontrol⟩
  rw [pieces]
  · rw [(Option.guard_eq_some' ()).mpr hguard]
    cases pieces cs <;> rfl
  · exact hquote
  · exact fun _ _ _ _ _ h => (hbackslash h).elim
  · exact fun _ _ h => (hbackslash h).elim

theorem pieces_escape {e c : Char} (hu : e ≠ 'u') (he : escape? e = some c) (cs : List Char) :
    pieces ('\\' :: e :: cs) = (pieces cs).map fun r => (.char c :: r.1, r.2) := by
  rw [pieces]
  · rw [he]
    cases pieces cs <;> rfl
  · exact fun _ _ _ _ _ h => (hu h).elim

theorem pieces_unit {a b c d : Char} {n : Nat} (h : hexUnit? a b c d = some n) (cs : List Char) :
    pieces ('\\' :: 'u' :: a :: b :: c :: d :: cs) = (pieces cs).map fun r => (.unit n :: r.1, r.2) := by
  rw [pieces, h]
  cases pieces cs <;> rfl

/-- A character of a written string is read as one piece, which stands for it. -/
theorem exists_piece (c : Char) : ∃ p,
    (∀ cs, pieces (escapeChar c ++ cs) = (pieces cs).map fun r => (p :: r.1, r.2)) ∧
      ∀ ps, joinUnits (p :: ps) = (joinUnits ps).map (c :: ·) := by
  unfold escapeChar
  split
  iterate 7
    exact ⟨.char _, fun cs => pieces_escape (by decide) rfl cs, fun ps => rfl⟩
  next hquote hbackslash _ _ _ _ _ =>
    split
    · next hcontrol =>
      refine ⟨.unit c.toNat, fun cs => ?_, fun ps => ?_⟩
      · exact pieces_unit (hexUnit?_control c.toNat hcontrol) cs
      · rw [joinUnits_unit (by omega), Char.ofNat_toNat]
    · next hcontrol =>
      refine ⟨.char c, fun cs => ?_, fun ps => rfl⟩
      exact pieces_cons hquote hbackslash hcontrol cs

theorem exists_pieces (cs rest : List Char) :
    ∃ ps, pieces (cs.flatMap escapeChar ++ '"' :: rest) = some (ps, rest) ∧ joinUnits ps = some cs := by
  induction cs with
  | nil => exact ⟨[], rfl, rfl⟩
  | cons c cs ih =>
    obtain ⟨ps, hpieces, hjoin⟩ := ih
    obtain ⟨p, hp, hjoined⟩ := exists_piece c
    refine ⟨p :: ps, ?_, ?_⟩
    · rw [List.flatMap_cons, List.append_assoc, hp, hpieces]
      rfl
    · rw [hjoined, hjoin]
      rfl

/-- A string is read as it is written. -/
theorem literal_written (s : String) (rest : List Char) :
    literal (s.toList.flatMap escapeChar ++ '"' :: rest) = some (some s, rest) := by
  obtain ⟨ps, hpieces, hjoin⟩ := exists_pieces s.toList rest
  unfold literal
  rw [hpieces]
  dsimp only [Option.bind_eq_bind, Option.bind_some]
  rw [hjoin, Option.map_some, String.ofList_toList]
  rfl

end Document

/-! ## Values -/

/-- What passes from the values inside to an array and to an object holds of all values. -/
@[elab_as_elim]
theorem inductionOn {P : Json → Prop} (j : Json) (null : P .null) (bool : ∀ b, P (.bool b))
    (number : ∀ n, P (.number n)) (string : ∀ s, P (.string s))
    (array : ∀ xs, (∀ x ∈ xs, P x) → P (.array xs))
    (object : ∀ fs, (∀ f ∈ fs, P f.2) → P (.object fs)) : P j :=
  @Json.rec P (fun xs => ∀ x ∈ xs, P x) (fun fs => ∀ f ∈ fs, P f.2) (fun f => P f.2) null bool number string
    array object (fun _ h => nomatch h) (fun _ _ hx hxs => List.forall_mem_cons.mpr ⟨hx, hxs⟩)
    (fun _ h => nomatch h) (fun _ _ hf hfs => List.forall_mem_cons.mpr ⟨hf, hfs⟩) (fun _ _ h => h) j

mutual

/-- The numbers that stand in a value. -/
def numbers : Json → List Number
  | .number n => [n]
  | .array xs => itemNumbers xs
  | .object fs => fieldNumbers fs
  | _ => []

def itemNumbers : List Json → List Number
  | [] => []
  | x :: xs => x.numbers ++ itemNumbers xs

def fieldNumbers : List (String × Json) → List Number
  | [] => []
  | (_, x) :: fs => x.numbers ++ fieldNumbers fs

end

mutual

/-- The document of the text that is written for a value. -/
def document : Json → Document
  | .null => .null
  | .bool b => .bool b
  | .number n => .number n.numeral
  | .string s => .string (some s)
  | .array xs => .array (itemDocuments xs)
  | .object fs => .object (fieldDocuments fs)

def itemDocuments : List Json → List Document
  | [] => []
  | x :: xs => x.document :: itemDocuments xs

def fieldDocuments : List (String × Json) → List (Option String × Document)
  | [] => []
  | (name, x) :: fs => (some name, x.document) :: fieldDocuments fs

end

theorem itemDocuments_eq_map (xs : List Json) : itemDocuments xs = xs.map document := by
  induction xs with
  | nil => rfl
  | cons x xs ih => rw [itemDocuments, ih, List.map_cons]

theorem fieldDocuments_eq_map (fs : List (String × Json)) :
    fieldDocuments fs = fs.map fun f => (some f.1, f.2.document) := by
  induction fs with
  | nil => rfl
  | cons f fs ih => rw [fieldDocuments, ih, List.map_cons]

theorem mem_itemNumbers {xs : List Json} {n : Number} :
    n ∈ itemNumbers xs ↔ ∃ x ∈ xs, n ∈ x.numbers := by
  induction xs with
  | nil => simp [itemNumbers]
  | cons x xs ih => simp [itemNumbers, ih]

theorem mem_fieldNumbers {fs : List (String × Json)} {n : Number} :
    n ∈ fieldNumbers fs ↔ ∃ f ∈ fs, n ∈ f.2.numbers := by
  induction fs with
  | nil => simp [fieldNumbers]
  | cons f fs ih => simp [fieldNumbers, ih]

namespace Document

variable {fuel : Nat} {rest : List Char}

theorem endsNumeral_cons {c : Char} (h : c = ',' ∨ c = ']' ∨ c = '\x7d') : EndsNumeral (c :: rest) := by
  rintro _ _ ⟨⟩
  rcases h with rfl | rfl | rfl <;> decide

theorem skipSpace_cons {c : Char} (h : isSpace c = false) : skipSpace (c :: rest) = c :: rest :=
  List.dropWhile_cons_of_neg (by simp [h])

theorem isSpace_of_isDigit {c : Char} (h : c.isDigit = true) : isSpace c = false := by
  unfold isSpace
  simp only [Bool.or_eq_false_iff, beq_eq_false_iff_ne]
  refine ⟨⟨⟨?_, ?_⟩, ?_⟩, ?_⟩ <;> (rintro rfl; cases h)

/-- The text of a value begins with no space and closes nothing. -/
theorem exists_head_chars (j : Json) (hread : ∀ n ∈ j.numbers, n.IsNumeral) :
    ∃ c t, j.chars = c :: t ∧ isSpace c = false ∧ c ≠ ']' ∧ c ≠ '\x7d' := by
  cases j with
  | null => exact ⟨_, _, rfl, by decide⟩
  | bool b => cases b <;> exact ⟨_, _, rfl, by decide⟩
  | string s => exact ⟨_, _, rfl, by decide⟩
  | array xs => exact ⟨_, _, rfl, by decide⟩
  | object fs => exact ⟨_, _, rfl, by decide⟩
  | number n =>
    obtain ⟨c, t, hct, hc⟩ := exists_head_of_numeral (hread n (List.mem_singleton.mpr rfl))
    refine ⟨c, t, hct, ?_⟩
    rcases hc with rfl | hc
    · decide
    · refine ⟨isSpace_of_isDigit hc, ?_, ?_⟩ <;> (rintro rfl; cases hc)

theorem value_number {cs : List Char} {n : Numeral} (h : numeral cs = some (n, rest)) :
    value (fuel + 1) cs = some (.number n, rest) := by
  obtain ⟨c, t, rfl, hc⟩ := exists_head_of_numeral h
  have hspace : isSpace c = false := by
    rcases hc with rfl | hc
    · decide
    · exact isSpace_of_isDigit hc
  -- No other kind of value begins with a sign or a digit.
  have hother : ∀ c', (c' = 'n' ∨ c' = 't' ∨ c' = 'f' ∨ c' = '"' ∨ c' = '[' ∨ c' = '\x7b') → c ≠ c' := by
    rintro c' hc' rfl
    rcases hc with rfl | hc
    · revert hc'
      decide
    · rcases hc' with rfl | rfl | rfl | rfl | rfl | rfl <;> cases hc
  rw [value, skipSpace_cons hspace]
  split
  case h_7 => rw [h]; rfl
  all_goals
    next hcons => exact (hother _ (by decide) (List.cons.inj hcons).1).elim

theorem value_quote (cs : List Char) :
    value (fuel + 1) ('"' :: cs) = (literal cs).map fun (s, rest) => (.string s, rest) := rfl

theorem value_bracket (cs : List Char) :
    value (fuel + 1) ('[' :: cs) = match skipSpace cs with
      | ']' :: rest => some (.array [], rest)
      | rest => (items fuel rest).map fun (xs, rest) => (.array xs, rest) := rfl

theorem value_brace (cs : List Char) :
    value (fuel + 1) ('\x7b' :: cs) = match skipSpace cs with
      | '\x7d' :: rest => some (.object [], rest)
      | rest => (members fuel rest).map fun (ms, rest) => (.object ms, rest) := rfl

theorem members_quote (cs : List Char) :
    members (fuel + 1) ('"' :: cs) = (literal cs).bind fun (name, rest) =>
      match skipSpace rest with
      | ':' :: rest => (value fuel rest).bind fun (x, rest) =>
        match skipSpace rest with
        | ',' :: rest => (members fuel rest).map fun (ms, rest) => ((name, x) :: ms, rest)
        | '\x7d' :: rest => some ([(name, x)], rest)
        | _ => none
      | _ => none := rfl

/-- The text of the value, whatever stands behind it, is read as the document of the value. -/
def IsRead (j : Json) : Prop :=
  ∀ fuel rest, 2 * j.chars.length ≤ fuel → EndsNumeral rest →
    value fuel (j.chars ++ rest) = some (j.document, rest)

theorem items_written {xs : List Json} (hne : xs ≠ []) (hread : ∀ x ∈ xs, IsRead x)
    (hfuel : 2 * (itemChars xs).length + 1 ≤ fuel) :
    items fuel (itemChars xs ++ ']' :: rest) = some (itemDocuments xs, rest) := by
  induction xs generalizing fuel with
  | nil => exact (hne rfl).elim
  | cons x xs ih =>
    obtain ⟨fuel, rfl⟩ : ∃ k, fuel = k + 1 := ⟨fuel - 1, by omega⟩
    obtain ⟨hx, hxs⟩ := List.forall_mem_cons.mp hread
    cases xs with
    | nil =>
      rw [itemChars] at hfuel
      have hvalue := hx fuel (']' :: rest) (by omega) (endsNumeral_cons (.inr (.inl rfl)))
      rw [itemChars, items, hvalue]
      rfl
    | cons y ys =>
      rw [itemChars, List.length_append, List.length_cons] at hfuel
      have hvalue := hx fuel (',' :: (itemChars (y :: ys) ++ ']' :: rest)) (by omega)
        (endsNumeral_cons (.inl rfl))
      have hitems : items fuel (itemChars (y :: ys) ++ ']' :: rest) = some (itemDocuments (y :: ys), rest) :=
        ih (List.cons_ne_nil y ys) hxs (by omega)
      rw [itemChars, List.append_assoc, List.cons_append, items, hvalue]
      dsimp only [Option.bind_eq_bind, Option.bind_some]
      rw [skipSpace_cons (by decide)]
      change (items fuel (itemChars (y :: ys) ++ ']' :: rest)).map _ = _
      rw [hitems]
      rfl

/-- A member up to its value is read as it is written. -/
theorem members_name (name : String) (cs : List Char) :
    members (fuel + 1) (stringText name ++ ':' :: cs) = (value fuel cs).bind fun (x, rest) =>
      match skipSpace rest with
      | ',' :: rest => (members fuel rest).map fun (ms, rest) => ((some name, x) :: ms, rest)
      | '\x7d' :: rest => some ([(some name, x)], rest)
      | _ => none := by
  have htext : stringText name ++ ':' :: cs
      = '"' :: (name.toList.flatMap escapeChar ++ '"' :: ':' :: cs) := by
    simp [stringText]
  rw [htext, members_quote, literal_written, Option.bind_some]
  dsimp only
  rw [skipSpace_cons (by decide)]
  rfl

theorem members_written {fs : List (String × Json)} (hne : fs ≠ []) (hread : ∀ f ∈ fs, IsRead f.2)
    (hfuel : 2 * (fieldChars fs).length + 1 ≤ fuel) :
    members fuel (fieldChars fs ++ '\x7d' :: rest) = some (fieldDocuments fs, rest) := by
  induction fs generalizing fuel with
  | nil => exact (hne rfl).elim
  | cons f fs ih =>
    obtain ⟨name, x⟩ := f
    obtain ⟨fuel, rfl⟩ : ∃ k, fuel = k + 1 := ⟨fuel - 1, by omega⟩
    obtain ⟨hx, hfs⟩ := List.forall_mem_cons.mp hread
    cases fs with
    | nil =>
      rw [fieldChars, List.length_append, List.length_cons] at hfuel
      have hvalue := hx fuel ('\x7d' :: rest) (by dsimp only; omega) (endsNumeral_cons (.inr (.inr rfl)))
      rw [fieldChars, List.append_assoc, List.cons_append, members_name, hvalue]
      rfl
    | cons g gs =>
      rw [fieldChars, List.length_append, List.length_cons, List.length_append, List.length_cons] at hfuel
      have hvalue := hx fuel (',' :: (fieldChars (g :: gs) ++ '\x7d' :: rest)) (by dsimp only; omega)
        (endsNumeral_cons (.inl rfl))
      have hmembers : members fuel (fieldChars (g :: gs) ++ '\x7d' :: rest)
          = some (fieldDocuments (g :: gs), rest) := ih (List.cons_ne_nil g gs) hfs (by omega)
      rw [fieldChars, List.append_assoc, List.cons_append, List.append_assoc, List.cons_append,
        members_name, hvalue, Option.bind_some]
      dsimp only
      rw [skipSpace_cons (by decide)]
      change (members fuel (fieldChars (g :: gs) ++ '\x7d' :: rest)).map _ = _
      rw [hmembers]
      rfl

theorem isRead_array {xs : List Json} (hnumbers : ∀ n ∈ itemNumbers xs, n.IsNumeral)
    (hread : ∀ x ∈ xs, IsRead x) : IsRead (.array xs) := by
  intro fuel rest hfuel _
  rw [chars, List.length_append, List.length_cons, List.length_singleton] at hfuel
  obtain ⟨fuel, rfl⟩ : ∃ k, fuel = k + 1 := ⟨fuel - 1, by omega⟩
  have hchars : (Json.array xs).chars ++ rest = '[' :: (itemChars xs ++ ']' :: rest) := by
    simp [chars]
  rw [hchars, value_bracket]
  cases xs with
  | nil => rfl
  | cons x xs =>
    have hitems : items fuel (itemChars (x :: xs) ++ ']' :: rest) = some (itemDocuments (x :: xs), rest) :=
      items_written (List.cons_ne_nil x xs) hread (by omega)
    have hx : ∀ n ∈ x.numbers, n.IsNumeral := fun n hn => hnumbers n (mem_itemNumbers.mpr ⟨x, .head _, hn⟩)
    obtain ⟨c, t, hct, hspace, hclose, -⟩ := exists_head_chars x hx
    obtain ⟨t', ht'⟩ : ∃ t', itemChars (x :: xs) ++ ']' :: rest = c :: t' := by
      cases xs <;> exact ⟨_, by rw [itemChars, hct]; rfl⟩
    rw [ht'] at hitems ⊢
    rw [skipSpace_cons hspace]
    split
    · next hcons => exact (hclose (List.cons.inj hcons).1).elim
    · rw [hitems]
      rfl

theorem isRead_object {fs : List (String × Json)} (hread : ∀ f ∈ fs, IsRead f.2) :
    IsRead (.object fs) := by
  intro fuel rest hfuel _
  rw [chars, List.length_append, List.length_cons, List.length_singleton] at hfuel
  obtain ⟨fuel, rfl⟩ : ∃ k, fuel = k + 1 := ⟨fuel - 1, by omega⟩
  have hchars : (Json.object fs).chars ++ rest = '\x7b' :: (fieldChars fs ++ '\x7d' :: rest) := by
    simp [chars]
  rw [hchars, value_brace]
  cases fs with
  | nil => rfl
  | cons f fs =>
    have hmembers : members fuel (fieldChars (f :: fs) ++ '\x7d' :: rest)
        = some (fieldDocuments (f :: fs), rest) :=
      members_written (List.cons_ne_nil f fs) hread (by omega)
    obtain ⟨t', ht'⟩ : ∃ t', fieldChars (f :: fs) ++ '\x7d' :: rest = '"' :: t' := by
      cases fs <;> exact ⟨_, by rw [fieldChars, stringText]; rfl⟩
    rw [ht'] at hmembers ⊢
    rw [skipSpace_cons (by decide)]
    change (members fuel ('"' :: t')).map _ = _
    rw [hmembers]
    rfl

/-- A value whose numbers are written as numerals is read as it is written. -/
theorem value_chars (j : Json) (hnumbers : ∀ n ∈ j.numbers, n.IsNumeral) : IsRead j := by
  induction j using Json.inductionOn with
  | null =>
    intro fuel rest hfuel _
    obtain ⟨fuel, rfl⟩ : ∃ k, fuel = k + 1 := ⟨fuel - 1, by rw [chars] at hfuel; simp at hfuel; omega⟩
    rfl
  | bool b =>
    intro fuel rest hfuel _
    cases b <;>
    · obtain ⟨fuel, rfl⟩ : ∃ k, fuel = k + 1 := ⟨fuel - 1, by rw [chars] at hfuel; simp at hfuel; omega⟩
      rfl
  | number n =>
    intro fuel rest hfuel hrest
    have hn := hnumbers n (List.mem_singleton.mpr rfl)
    obtain ⟨c, t, hct, -⟩ := exists_head_of_numeral hn
    rw [chars, hct, List.length_cons] at hfuel
    obtain ⟨fuel, rfl⟩ : ∃ k, fuel = k + 1 := ⟨fuel - 1, by omega⟩
    exact value_number (numeral_append hn hrest)
  | string s =>
    intro fuel rest hfuel _
    rw [chars, stringText, List.length_append, List.length_cons] at hfuel
    obtain ⟨fuel, rfl⟩ : ∃ k, fuel = k + 1 := ⟨fuel - 1, by omega⟩
    have hchars : (Json.string s).chars ++ rest = '"' :: (s.toList.flatMap escapeChar ++ '"' :: rest) := by
      simp [chars, stringText]
    rw [hchars, value_quote, literal_written]
    rfl
  | array xs ih =>
    exact isRead_array hnumbers fun x hx => ih x hx fun n hn => hnumbers n (mem_itemNumbers.mpr ⟨x, hx, hn⟩)
  | object fs ih =>
    exact isRead_object fun f hf => ih f hf fun n hn => hnumbers n (mem_fieldNumbers.mpr ⟨f, hf, hn⟩)

/-- The text of a value whose numbers are written as numerals is a text of its document. -/
theorem ofText?_text {j : Json} (hnumbers : ∀ n ∈ j.numbers, n.IsNumeral) :
    ofText? j.text = some j.document := by
  have hvalue := value_chars j hnumbers (2 * j.chars.length + 2) [] (Nat.le_add_right _ _) nofun
  rw [List.append_nil] at hvalue
  unfold ofText? text
  rw [String.toList_ofList]
  dsimp only
  rw [hvalue]
  rfl

end Document

end FlagEngine.Json
