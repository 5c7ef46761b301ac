import FlagEngine.Json.Document
import FlagEngine.Json.Text
import Mathlib.Data.Option.Basic

/-!
# Numbers that are read as they are written

A number reads back if its text is a numeral for it. Integers of 64 bits do (`Number.readsBack_int`), while
the steps in which a numeral is scaled may each round, so that not every binary64 number does. A numeral is
read alike whatever follows it in a text, as long as that cannot go on with the numeral: `numeral_append`.
-/

namespace FlagEngine.Json

/-! ## What follows a numeral -/

namespace Document

/-- A text that no numeral goes on with. -/
def EndsNumeral (cs : List Char) : Prop :=
  ∀ c t, cs = c :: t → c.isDigit = false ∧ c ≠ '.' ∧ c ≠ 'e' ∧ c ≠ 'E'

variable {cs rest tail : List Char} {ds : List Nat}

theorem digits_append (h : digits cs = (ds, rest)) (htail : EndsNumeral tail) :
    digits (cs ++ tail) = (ds, rest ++ tail) := by
  obtain ⟨hds, hrest⟩ := Prod.ext_iff.mp h
  dsimp only [digits] at hds hrest
  have hstops : tail.takeWhile Char.isDigit = [] ∧ tail.dropWhile Char.isDigit = tail := by
    cases tail with
    | nil => exact ⟨rfl, rfl⟩
    | cons c t =>
      have hc := (htail c t rfl).1
      exact ⟨List.takeWhile_cons_of_neg (by simp [hc]), List.dropWhile_cons_of_neg (by simp [hc])⟩
  have hwhole := List.takeWhile_append_dropWhile (p := Char.isDigit) (l := cs)
  unfold digits
  rw [List.takeWhile_append, List.dropWhile_append, hrest, ← hds]
  cases rest with
  | nil =>
    rw [hrest, List.append_nil] at hwhole
    simp [hwhole, hstops]
  | cons c t =>
    have hlength : (cs.takeWhile Char.isDigit).length ≠ cs.length := by
      intro he
      have hsum := congrArg List.length hwhole
      rw [hrest, List.length_append, List.length_cons] at hsum
      omega
    rw [if_neg hlength]
    rfl

theorem fraction_eq_some :
    fraction cs = some (ds, rest) ↔
      (∃ t, cs = '.' :: t ∧ digits t = (ds, rest) ∧ ds ≠ []) ∨
        (∀ t, cs ≠ '.' :: t) ∧ ds = [] ∧ cs = rest := by
  unfold fraction
  split
  · next t =>
    rcases hdigits : digits t with ⟨ds', rest'⟩
    cases ds' with
    | nil =>
      refine ⟨nofun, ?_⟩
      rintro (⟨t', ht, hdigits', hne⟩ | ⟨hne, -⟩)
      · cases ht
        cases hdigits.symm.trans hdigits'
        exact (hne rfl).elim
      · exact (hne t rfl).elim
    | cons d ds' =>
      constructor
      · rintro ⟨⟩
        exact .inl ⟨t, rfl, hdigits, nofun⟩
      · rintro (⟨t', ht, hdigits', -⟩ | ⟨hne, -⟩)
        · cases ht
          cases hdigits.symm.trans hdigits'
          rfl
        · exact (hne t rfl).elim
  · next hne =>
    simp only [Option.some.injEq, Prod.mk.injEq]
    constructor
    · rintro ⟨rfl, rfl⟩
      exact .inr ⟨hne, rfl, rfl⟩
    · rintro (⟨t, rfl, -⟩ | ⟨-, rfl, rfl⟩)
      · exact (hne t rfl).elim
      · exact ⟨rfl, rfl⟩

theorem fraction_append (h : fraction cs = some (ds, rest)) (htail : EndsNumeral tail) :
    fraction (cs ++ tail) = some (ds, rest ++ tail) := by
  rcases fraction_eq_some.mp h with ⟨t, rfl, hdigits, hne⟩ | ⟨hne, rfl, rfl⟩
  · exact fraction_eq_some.mpr (.inl ⟨_, rfl, digits_append hdigits htail, hne⟩)
  · refine fraction_eq_some.mpr (.inr ⟨fun t ht => ?_, rfl, rfl⟩)
    cases cs with
    | nil => exact (htail '.' t ht).2.1 rfl
    | cons c t' => exact hne t' (by rw [(List.cons.inj ht).1])

variable {negative : Bool} {mark : Option (Bool × List Nat)}

theorem exponentDigits_eq_some :
    exponentDigits negative cs = some (mark, rest) ↔
      ∃ ds, digits cs = (ds, rest) ∧ ds ≠ [] ∧ mark = some (negative, ds) := by
  unfold exponentDigits
  rcases hdigits : digits cs with ⟨ds', rest'⟩
  cases ds' with
  | nil =>
    refine ⟨nofun, ?_⟩
    rintro ⟨ds, ⟨⟩, hne, -⟩
    exact (hne rfl).elim
  | cons d ds' =>
    constructor
    · rintro ⟨⟩
      exact ⟨_, rfl, nofun, rfl⟩
    · rintro ⟨ds, ⟨⟩, -, rfl⟩
      rfl

theorem exponentDigits_append (h : exponentDigits negative cs = some (mark, rest))
    (htail : EndsNumeral tail) : exponentDigits negative (cs ++ tail) = some (mark, rest ++ tail) := by
  obtain ⟨ds, hdigits, hne, rfl⟩ := exponentDigits_eq_some.mp h
  exact exponentDigits_eq_some.mpr ⟨ds, digits_append hdigits htail, hne, rfl⟩

theorem exponent_append (h : exponent cs = some (mark, rest)) (htail : EndsNumeral tail) :
    exponent (cs ++ tail) = some (mark, rest ++ tail) := by
  cases cs with
  | nil =>
    cases h
    cases tail with
    | nil => rfl
    | cons c t =>
      obtain ⟨-, -, he, hE⟩ := htail c t rfl
      simp [exponent, he, hE]
  | cons c t =>
    rw [List.cons_append]
    unfold exponent at h ⊢
    dsimp only at h ⊢
    split
    · next hc =>
      rw [if_pos hc] at h
      -- Without a digit after its mark there is no exponent, so that something stands here.
      cases t with
      | nil => cases h
      | cons c' t' =>
        rw [List.cons_append]
        split at h
        · next hcons =>
          cases hcons
          exact exponentDigits_append h htail
        · next hcons =>
          cases hcons
          exact exponentDigits_append h htail
        · next hplus hminus =>
          split
          · next hcons => exact (hplus _ (by rw [(List.cons.inj hcons).1])).elim
          · next hcons => exact (hminus _ (by rw [(List.cons.inj hcons).1])).elim
          · exact exponentDigits_append h htail
    · next hc =>
      rw [if_neg hc] at h
      cases h
      rfl

theorem unsignedNumeral_append {n : Numeral} (h : unsignedNumeral negative cs = some (n, rest))
    (htail : EndsNumeral tail) : unsignedNumeral negative (cs ++ tail) = some (n, rest ++ tail) := by
  unfold unsignedNumeral at h ⊢
  rcases hwhole : digits cs with ⟨whole, cs₁⟩
  rw [hwhole] at h
  rw [digits_append hwhole htail]
  dsimp only at h ⊢
  obtain ⟨_, hguard, h⟩ := Option.bind_eq_some_iff.mp h
  obtain ⟨⟨ds, cs₂⟩, hfraction, h⟩ := Option.bind_eq_some_iff.mp h
  obtain ⟨⟨mark, cs₃⟩, hexponent, h⟩ := Option.bind_eq_some_iff.mp h
  cases h
  rw [hguard, fraction_append hfraction htail]
  dsimp only [Option.bind_eq_bind, Option.bind_some]
  rw [exponent_append hexponent htail]
  rfl

theorem numeral_append {n : Numeral} (h : numeral cs = some (n, rest)) (htail : EndsNumeral tail) :
    numeral (cs ++ tail) = some (n, rest ++ tail) := by
  cases cs with
  | nil => cases h
  | cons c t =>
    rw [List.cons_append]
    unfold numeral at h ⊢
    split at h
    · next hcons =>
      cases hcons
      exact unsignedNumeral_append h htail
    · next hne =>
      split
      · next hcons => exact (hne _ (by rw [(List.cons.inj hcons).1])).elim
      · exact unsignedNumeral_append h htail

/-- A numeral begins with its sign or a digit. -/
theorem exists_head_of_numeral {n : Numeral} (h : numeral cs = some (n, rest)) :
    ∃ c t, cs = c :: t ∧ (c = '-' ∨ c.isDigit = true) := by
  cases cs with
  | nil => cases h
  | cons c t =>
    refine ⟨c, t, rfl, ?_⟩
    unfold numeral at h
    split at h
    · next hcons => exact .inl (List.cons.inj hcons).1
    · refine .inr (Decidable.byContradiction fun hc => ?_)
      unfold unsignedNumeral digits at h
      rw [List.takeWhile_cons_of_neg hc] at h
      cases h

end Document

/-! ## Integers -/

/-- The digits of a natural number, most significant first. -/
def decimalDigits (n : Nat) : List Nat :=
  (Nat.toDigits 10 n).map fun c => c.toNat - 48

theorem isDigit_of_mem_toDigits {n : Nat} {c : Char} (h : c ∈ Nat.toDigits 10 n) : c.isDigit = true :=
  Nat.isDigit_of_mem_toDigits (by decide) (by decide) h

theorem foldl_decimalDigits (n : Nat) : (decimalDigits n).foldl (fun n d => n * 10 + d) 0 = n := by
  unfold decimalDigits
  rw [List.foldl_map]
  have h := Nat.ofDigitChars_ten_toDigits (n := n)
  rw [Nat.ofDigitChars_eq_foldl] at h
  simpa [Nat.mul_comm] using h

/-- A positive number is written without a leading zero. -/
theorem head?_decimalDigits {n : Nat} (h : 0 < n) : (decimalDigits n).head? ≠ some 0 := by
  induction n using Nat.strongRecOn with
  | ind n ih =>
    by_cases hn : n < 10
    · have hdigits : ∀ m < 10, 0 < m → (decimalDigits m).head? ≠ some 0 := by decide
      exact hdigits n hn h
    · have hstep : decimalDigits n = decimalDigits (n / 10) ++ [(n % 10).digitChar.toNat - 48] := by
        unfold decimalDigits
        rw [Nat.toDigits_of_base_le (by decide) (Nat.le_of_not_lt hn), List.map_append]
        rfl
      have hhead := ih (n / 10) (by omega) (by omega)
      have hne : decimalDigits (n / 10) ≠ [] := by simp [decimalDigits]
      rw [hstep, List.head?_append]
      cases hd : (decimalDigits (n / 10)).head? with
      | none => exact (hne (List.head?_eq_none_iff.mp hd)).elim
      | some d => rwa [hd] at hhead

theorem Document.unsignedNumeral_toDigits (negative : Bool) (n : Nat) :
    unsignedNumeral negative (Nat.toDigits 10 n) = some (⟨negative, decimalDigits n, [], none⟩, []) := by
  have hall : ∀ c ∈ Nat.toDigits 10 n, c.isDigit = true := fun c hc => isDigit_of_mem_toDigits hc
  have hdigits : digits (Nat.toDigits 10 n) = (decimalDigits n, []) := by
    have htake : (Nat.toDigits 10 n ++ []).takeWhile Char.isDigit = Nat.toDigits 10 n ++ [] :=
      List.takeWhile_append_of_pos hall
    have hdrop : (Nat.toDigits 10 n ++ []).dropWhile Char.isDigit = [] := List.dropWhile_append_of_pos hall
    rw [List.append_nil] at htake hdrop
    unfold digits decimalDigits
    rw [hdrop, htake]
  have hguard : decimalDigits n ≠ [] ∧
      ((decimalDigits n).head? = some 0 → (decimalDigits n).length = 1) := by
    refine ⟨by simp [decimalDigits], fun hzero => ?_⟩
    cases Nat.eq_zero_or_pos n with
    | inl hn =>
      subst hn
      rfl
    | inr hn => exact (head?_decimalDigits hn hzero).elim
  unfold unsignedNumeral
  rw [hdigits]
  dsimp only
  rw [(Option.guard_eq_some' ()).mpr hguard]
  rfl

/-- The number is one of at most 64 bits, with or without a sign, or it is no integer. -/
def Number.InRange : Number → Prop
  | .int n => -0x8000000000000000 ≤ n ∧ n < 0x10000000000000000
  | .float _ => True

/-- The numeral that is written for a number. -/
def Number.numeral (n : Number) : Numeral :=
  ((Document.numeral n.text.toList).map (·.1)).getD ⟨false, [], [], none⟩

/-- The text of the number is a numeral. -/
def Number.IsNumeral (n : Number) : Prop :=
  Document.numeral n.text.toList = some (n.numeral, [])

/-- The text of the number is a numeral for it. -/
def Number.ReadsBack (n : Number) : Prop :=
  n.IsNumeral ∧ n.numeral.toNumber? = some n

instance (n : Number) : Decidable n.IsNumeral :=
  inferInstanceAs (Decidable (_ = _))

instance (n : Number) : Decidable n.ReadsBack :=
  inferInstanceAs (Decidable (_ ∧ _))

namespace Numeral

theorem le_foldl (n : Nat) (ds : List Nat) : n ≤ ds.foldl (fun n d => n * 10 + d) n := by
  induction ds generalizing n with
  | nil => exact Nat.le_refl n
  | cons d ds ih =>
    have h := ih (n * 10 + d)
    rw [List.foldl_cons]
    omega

/-- Digits that fit are all taken. -/
theorem accumulate_of_lt {n : Nat} {ds : List Nat}
    (h : ds.foldl (fun n d => n * 10 + d) n < 0x10000000000000000) :
    accumulate n ds = (ds.foldl (fun n d => n * 10 + d) n, []) := by
  induction ds generalizing n with
  | nil => rfl
  | cons d ds ih =>
    rw [List.foldl_cons] at h ⊢
    have hle := le_foldl (n * 10 + d) ds
    rw [accumulate, if_pos (Nat.lt_of_le_of_lt hle h)]
    exact ih h

theorem accumulate_lt {n : Nat} (hn : n < 0x10000000000000000) (ds : List Nat) :
    (accumulate n ds).1 < 0x10000000000000000 := by
  induction ds generalizing n with
  | nil => exact hn
  | cons d ds ih =>
    rw [accumulate]
    split
    · next h => exact ih h
    · exact hn

theorem toNumber?_decimalDigits {n : Nat} (negative : Bool) (h : n < 0x10000000000000000)
    (hnegative : negative = true → 0 < n ∧ n ≤ 0x8000000000000000) :
    (⟨negative, decimalDigits n, [], none⟩ : Numeral).toNumber?
      = some (.int (if negative then -n else n)) := by
  have haccumulate : accumulate 0 (decimalDigits n) = (n, []) := by
    rw [accumulate_of_lt (by rwa [foldl_decimalDigits]), foldl_decimalDigits]
  unfold toNumber?
  rw [haccumulate]
  cases negative with
  | false => rfl
  | true =>
    obtain ⟨hpos, hle⟩ := hnegative rfl
    have hne : n ≠ 0 := Nat.ne_of_gt hpos
    simp [hne, hle]

theorem inRange_of_map_float {x : Option Binary64.Finite} {n : Number} (h : x.map .float = some n) :
    n.InRange := by
  obtain ⟨y, -, rfl⟩ := Option.map_eq_some_iff.mp h
  trivial

theorem inRange_of_toNumber? {m : Numeral} {n : Number} (h : m.toNumber? = some n) : n.InRange := by
  have hlt := accumulate_lt (n := 0) (by decide) m.whole
  unfold toNumber? at h
  rcases haccumulate : accumulate 0 m.whole with ⟨high, skipped⟩
  rw [haccumulate] at h hlt
  dsimp only at h hlt
  split at h
  · split at h
    · cases h
      unfold Number.InRange
      omega
    · split at h
      · cases h
        unfold Number.InRange
        omega
      · exact inRange_of_map_float h
  · exact inRange_of_map_float h

end Numeral

namespace Number

theorem toList_text_ofNat (n : Nat) : (int (.ofNat n)).text.toList = Nat.toDigits 10 n := by
  have htext : (int (.ofNat n)).text = toString n := rfl
  rw [htext, Nat.toString_eq_ofList_toDigits, String.toList_ofList]

theorem toList_text_negSucc (n : Nat) :
    (int (.negSucc n)).text.toList = '-' :: Nat.toDigits 10 (n + 1) := by
  have htext : (int (.negSucc n)).text = "-" ++ toString (n + 1) := rfl
  rw [htext, Nat.toString_eq_ofList_toDigits, String.toList_append, String.toList_ofList,
    String.toList_ofList]
  rfl

theorem readsBack_of_numeral {n : Number} {m : Numeral} (hm : Document.numeral n.text.toList = some (m, []))
    (hn : m.toNumber? = some n) : n.ReadsBack := by
  have heq : n.numeral = m := by
    unfold numeral
    rw [hm]
    rfl
  exact ⟨by rw [IsNumeral, heq, hm], by rw [heq, hn]⟩

/-- Integers of 64 bits are read as they are written. -/
theorem readsBack_int {n : Int} (h : (int n).InRange) : (int n).ReadsBack := by
  obtain ⟨hge, hlt⟩ := h
  cases n with
  | ofNat n =>
    refine readsBack_of_numeral (m := ⟨false, decimalDigits n, [], none⟩) ?_ ?_
    · rw [toList_text_ofNat]
      have hunsigned := Document.unsignedNumeral_toDigits false n
      obtain ⟨c, cs, hcs⟩ := List.exists_cons_of_ne_nil (Nat.toDigits_ne_nil (b := 10) (n := n))
      have hc : c ≠ '-' := by
        have hdigit : c.isDigit = true := isDigit_of_mem_toDigits (n := n) (by simp [hcs])
        rintro rfl
        cases hdigit
      rw [hcs] at hunsigned ⊢
      unfold Document.numeral
      split
      · next hcons => exact (hc (List.cons.inj hcons).1).elim
      · exact hunsigned
    · exact Numeral.toNumber?_decimalDigits false (Int.ofNat_lt.mp hlt) nofun
  | negSucc n =>
    refine readsBack_of_numeral (m := ⟨true, decimalDigits (n + 1), [], none⟩) ?_ ?_
    · rw [toList_text_negSucc]
      exact Document.unsignedNumeral_toDigits true (n + 1)
    · exact Numeral.toNumber?_decimalDigits true (by omega) fun _ => by omega

end Number

end FlagEngine.Json
