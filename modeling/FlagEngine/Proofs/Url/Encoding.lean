import FlagEngine.Url.Path
import Mathlib.Data.List.Basic

/-!
# Encoded texts

Where the percent sign itself is encoded, a text can be read again: different texts are encoded differently, and the
encoded text is a step only if the text is.
-/

namespace FlagEngine.Url

variable {safe : Char → Bool} {c : Char} {cs cs' rest : List Char}

/-! ## Reading what is encoded -/

theorem hexDigit?_hexDigit {n : Nat} (h : n < 16) : Text.hexDigit? (hexDigit n) = some n := by
  decide +revert

theorem decodeBytes_encodeByte (b : UInt8) (rest : List Char) :
    decodeBytes (encodeByte b ++ rest) = b :: decodeBytes rest := by
  have hlt : b.toNat < 256 := b.toNat_lt
  have hvalue : b.toNat / 16 * 16 + b.toNat % 16 = b.toNat := by omega
  change decodeBytes ('%' :: hexDigit (b.toNat / 16) :: hexDigit (b.toNat % 16) :: rest) = _
  rw [decodeBytes, hexDigit?_hexDigit (by omega), hexDigit?_hexDigit (by omega)]
  dsimp only
  rw [hvalue, UInt8.ofNat_toNat]

theorem decodeBytes_encodeBytes (bs : List UInt8) (rest : List Char) :
    decodeBytes (bs.flatMap encodeByte ++ rest) = bs ++ decodeBytes rest := by
  induction bs with
  | nil => rfl
  | cons b bs ih => rw [List.flatMap_cons, List.append_assoc, decodeBytes_encodeByte, ih, List.cons_append]

theorem decodeBytes_cons (h : c ≠ '%') (rest : List Char) :
    decodeBytes (c :: rest) = String.utf8EncodeChar c ++ decodeBytes rest := by
  rw [decodeBytes]
  intro a b rest' hc
  exact (h hc).elim

theorem decodeBytes_encodeChar (hsafe : safe '%' = false) (c : Char) (rest : List Char) :
    decodeBytes (encodeChar safe c ++ rest) = String.utf8EncodeChar c ++ decodeBytes rest := by
  unfold encodeChar
  split
  · next h =>
    have hc : c ≠ '%' := by
      rintro rfl
      rw [hsafe] at h
      cases h
    exact decodeBytes_cons hc rest
  · exact decodeBytes_encodeBytes _ rest

theorem decodeBytes_encode (hsafe : safe '%' = false) (cs : List Char) :
    decodeBytes (encode safe cs) = cs.flatMap String.utf8EncodeChar := by
  induction cs with
  | nil => rfl
  | cons c cs ih =>
    unfold encode at ih ⊢
    rw [List.flatMap_cons, decodeBytes_encodeChar hsafe, ih, List.flatMap_cons]

theorem eq_of_utf8_eq (h : cs.flatMap String.utf8EncodeChar = cs'.flatMap String.utf8EncodeChar) : cs = cs' := by
  apply String.ofList_inj.mp
  apply String.toByteArray_inj.mp
  rw [String.toByteArray_ofList, String.toByteArray_ofList, List.utf8Encode, List.utf8Encode, h]

theorem encode_inj (hsafe : safe '%' = false) : encode safe cs = encode safe cs' ↔ cs = cs' := by
  constructor
  · intro h
    apply eq_of_utf8_eq
    rw [← decodeBytes_encode hsafe, ← decodeBytes_encode hsafe, h]
  · intro h
    rw [h]

theorem hexDigit_ne_slash {n : Nat} (h : n < 16) : hexDigit n ≠ '/' := by
  decide +revert

theorem slash_notMem_encodeByte (b : UInt8) : '/' ∉ encodeByte b := by
  have hlt : b.toNat < 256 := b.toNat_lt
  have hhigh := hexDigit_ne_slash (n := b.toNat / 16) (by omega)
  have hlow := hexDigit_ne_slash (n := b.toNat % 16) (by omega)
  simp [encodeByte, hhigh.symm, hlow.symm]

/-- Encoding brings no slash in. -/
theorem slash_notMem_encode (h : ∀ c ∈ cs, safe c = true → c ≠ '/') : '/' ∉ encode safe cs := by
  intro hmem
  obtain ⟨c, hc, hslash⟩ := List.mem_flatMap.mp hmem
  unfold encodeChar at hslash
  split at hslash
  · next hsafe => exact h c hc hsafe (List.mem_singleton.mp hslash).symm
  · obtain ⟨b, -, hb⟩ := List.mem_flatMap.mp hslash
    exact slash_notMem_encodeByte b hb

/-! ## Steps -/

/-- A segment that is no name. -/
def IsStep (cs : List Char) : Prop :=
  isSingleDot cs = true ∨ isDoubleDot cs = true

instance : DecidablePred IsStep := fun cs =>
  inferInstanceAs (Decidable (isSingleDot cs = true ∨ isDoubleDot cs = true))

/-- The characters that steps are spelt with. -/
def stepChars : List Char :=
  ['.', '%', '2', 'e', 'E']

theorem dot?_eq_some (h : dot? cs = some rest) :
    cs = '.' :: rest ∨ cs = '%' :: '2' :: 'e' :: rest ∨ cs = '%' :: '2' :: 'E' :: rest := by
  unfold dot? at h
  split at h
  · exact .inl (by rw [Option.some.inj h])
  · split at h
    · next hmark =>
      rw [Option.some.inj h]
      rcases hmark with rfl | rfl
      · exact .inr (.inl rfl)
      · exact .inr (.inr rfl)
    · cases h
  · cases h

theorem dots_of_isStep (h : IsStep cs) :
    dot? cs = some [] ∨ ∃ rest, dot? cs = some rest ∧ dot? rest = some [] := by
  rcases h with h | h
  · exact .inl (eq_of_beq h)
  · exact .inr (Option.bind_eq_some_iff.mp (eq_of_beq h))

theorem decodeBytes_of_dot? (h : dot? cs = some rest) : decodeBytes cs = 46 :: decodeBytes rest := by
  rcases dot?_eq_some h with rfl | rfl | rfl
  · exact decodeBytes_cons (by decide) rest
  · rw [decodeBytes]
    rfl
  · rw [decodeBytes]
    rfl

theorem isStep_encode (hsafe : safe '%' = false) (hdot : safe '.' = true) :
    IsStep (encode safe cs) ↔ cs = ['.'] ∨ cs = ['.', '.'] := by
  constructor
  · intro h
    rcases dots_of_isStep h with h | ⟨rest, h, hrest⟩
    · left
      apply eq_of_utf8_eq
      rw [← decodeBytes_encode hsafe, decodeBytes_of_dot? h]
      rfl
    · right
      apply eq_of_utf8_eq
      rw [← decodeBytes_encode hsafe, decodeBytes_of_dot? h, decodeBytes_of_dot? hrest]
      rfl
  · have hchar : encodeChar safe '.' = ['.'] := if_pos hdot
    rintro (rfl | rfl)
    · left
      rw [encode, List.flatMap_singleton, hchar]
      rfl
    · right
      rw [encode, List.flatMap_cons, List.flatMap_singleton, hchar]
      rfl

theorem mem_of_dot? (h : dot? cs = some rest) (hc : c ∈ cs) : c ∈ stepChars ∨ c ∈ rest := by
  rcases dot?_eq_some h with rfl | rfl | rfl <;> simp only [stepChars, List.mem_cons] at hc ⊢ <;> tauto

theorem IsStep.mem_stepChars (h : IsStep cs) (hc : c ∈ cs) : c ∈ stepChars := by
  rcases dots_of_isStep h with h | ⟨rest, h, hrest⟩
  · exact (mem_of_dot? h hc).resolve_right List.not_mem_nil
  · rcases mem_of_dot? h hc with hc | hc
    · exact hc
    · exact (mem_of_dot? hrest hc).resolve_right List.not_mem_nil

end FlagEngine.Url
