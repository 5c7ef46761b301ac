import FlagEngine.Proofs.Decimals
import FlagEngine.Proofs.Json.Numerals

/-!
# Binary64 numbers as numerals

A number is written as a numeral, however its decimal is laid out: `Number.numeral_float`. The numeral has the sign of
the number and the value of its shortest decimal, so that different numbers have different numerals:
`Number.numeral_float_injective`.
-/

namespace FlagEngine.Json

/-! ## Values of numerals -/

namespace Numeral

theorem foldl_eq (n : Nat) (ds : List Nat) :
    ds.foldl (fun n d => n * 10 + d) n = n * 10 ^ ds.length + ofDigits ds := by
  unfold ofDigits
  induction ds generalizing n with
  | nil => simp
  | cons d ds ih =>
    rw [List.foldl_cons, List.foldl_cons, ih, ih (0 * 10 + d), List.length_cons, Nat.pow_succ]
    ring

theorem ofDigits_append (ds ds' : List Nat) : ofDigits (ds ++ ds') = ofDigits ds * 10 ^ ds'.length + ofDigits ds' := by
  rw [← foldl_eq]
  unfold ofDigits
  rw [List.foldl_append]

theorem ofDigits_zeros (k : Nat) : ofDigits (List.replicate k 0) = 0 := by
  unfold ofDigits
  induction k with
  | zero => rfl
  | succ k ih => rw [List.replicate_succ, List.foldl_cons, ih]

theorem ofDigits_decimalDigits (n : Nat) : ofDigits (decimalDigits n) = n :=
  foldl_decimalDigits n

/-- The power of ten that an exponent stands for. -/
def power : Option (Bool × List Nat) → Int
  | none => 0
  | some (negative, ds) => if negative then -(ofDigits ds : Int) else ofDigits ds

/-- The number that a numeral stands for, without its sign. -/
def value (n : Numeral) : ℚ :=
  ofDigits (n.whole ++ n.fraction) * 10 ^ (power n.exponent - n.fraction.length)

/-- Zeros before and after the digits of a number count for their places alone. -/
theorem value_eq {n : Numeral} {m j k : Nat} {e : Int}
    (hdigits : n.whole ++ n.fraction = List.replicate j 0 ++ decimalDigits m ++ List.replicate k 0)
    (he : power n.exponent - n.fraction.length + k = e) : n.value = (⟨m, e⟩ : Decimal).value := by
  have hvalue : ofDigits (n.whole ++ n.fraction) = m * 10 ^ k := by
    rw [hdigits, ofDigits_append, ofDigits_append, ofDigits_zeros, ofDigits_zeros, ofDigits_decimalDigits,
      List.length_replicate]
    ring
  unfold value Decimal.value
  rw [hvalue, ← he, zpow_add₀ (by norm_num), zpow_natCast]
  push_cast
  ring

end Numeral

/-! ## Reading digits -/

namespace Document

open Numeral (ofDigits)

variable {negative : Bool} {cs fs tail : List Char} {mark : Option (Bool × List Nat)}

/-- The values of decimal digits. -/
def digitValues (cs : List Char) : List Nat :=
  cs.map fun c => c.toNat - 48

/-- The text does not begin with a digit. -/
def EndsDigits (cs : List Char) : Prop :=
  ∀ c ∈ cs.head?, c.isDigit = false

theorem endsDigits_nil : EndsDigits [] := by
  intro c hc
  cases hc

theorem digits_of_isDigit (hcs : ∀ c ∈ cs, c.isDigit = true) (htail : EndsDigits tail) :
    digits (cs ++ tail) = (digitValues cs, tail) := by
  have hstops : tail.takeWhile Char.isDigit = [] ∧ tail.dropWhile Char.isDigit = tail := by
    cases tail with
    | nil => exact ⟨rfl, rfl⟩
    | cons c t =>
      have hc : ¬ c.isDigit = true := by simp [htail c rfl]
      exact ⟨List.takeWhile_cons_of_neg hc, List.dropWhile_cons_of_neg hc⟩
  unfold digits digitValues
  rw [List.takeWhile_append_of_pos hcs, List.dropWhile_append_of_pos hcs, hstops.1, hstops.2, List.append_nil]

/-- The digits before a point can be those of a numeral: there is one, and a leading zero stands alone. -/
def IsWhole (ds : List Nat) : Prop :=
  ds ≠ [] ∧ (ds.head? = some 0 → ds.length = 1)

theorem unsignedNumeral_of_point (hcs : ∀ c ∈ cs, c.isDigit = true) (hwhole : IsWhole (digitValues cs))
    (hfs : ∀ c ∈ fs, c.isDigit = true) (hne : fs ≠ []) (htail : EndsDigits tail)
    (hmark : exponent tail = some (mark, [])) :
    unsignedNumeral negative (cs ++ '.' :: (fs ++ tail))
      = some (⟨negative, digitValues cs, digitValues fs, mark⟩, []) := by
  have hdigits : digits (cs ++ '.' :: (fs ++ tail)) = (digitValues cs, '.' :: (fs ++ tail)) := by
    apply digits_of_isDigit hcs
    rintro c ⟨⟩
    rfl
  have hfraction : fraction ('.' :: (fs ++ tail)) = some (digitValues fs, tail) :=
    fraction_eq_some.mpr (.inl ⟨_, rfl, digits_of_isDigit hfs htail, by simpa [digitValues] using hne⟩)
  have hguard : digitValues cs ≠ [] ∧ ((digitValues cs).head? = some 0 → (digitValues cs).length = 1) := hwhole
  unfold unsignedNumeral
  rw [hdigits]
  dsimp only
  rw [(Option.guard_eq_some' ()).mpr hguard, hfraction]
  dsimp only [Option.bind_eq_bind, Option.bind_some]
  rw [hmark]
  rfl

theorem unsignedNumeral_of_no_point (hcs : ∀ c ∈ cs, c.isDigit = true) (hwhole : IsWhole (digitValues cs))
    (htail : EndsDigits tail) (hpoint : ∀ t, tail ≠ '.' :: t) (hmark : exponent tail = some (mark, [])) :
    unsignedNumeral negative (cs ++ tail) = some (⟨negative, digitValues cs, [], mark⟩, []) := by
  have hfraction : fraction tail = some ([], tail) := fraction_eq_some.mpr (.inr ⟨hpoint, rfl, rfl⟩)
  have hguard : digitValues cs ≠ [] ∧ ((digitValues cs).head? = some 0 → (digitValues cs).length = 1) := hwhole
  unfold unsignedNumeral
  rw [digits_of_isDigit hcs htail]
  dsimp only
  rw [(Option.guard_eq_some' ()).mpr hguard, hfraction]
  dsimp only [Option.bind_eq_bind, Option.bind_some]
  rw [hmark]
  rfl

theorem digits_toDigits (n : Nat) : digits (Nat.toDigits 10 n) = (decimalDigits n, []) := by
  have h : digits (Nat.toDigits 10 n ++ []) = (decimalDigits n, []) :=
    digits_of_isDigit (fun c => isDigit_of_mem_toDigits) endsDigits_nil
  rwa [List.append_nil] at h

/-- How an exponent is written after a decimal. -/
def exponentText (l : Int) : List Char :=
  'e' :: (if l < 0 then '-' else '+') :: Nat.toDigits 10 l.natAbs

theorem endsDigits_exponentText (l : Int) : EndsDigits (exponentText l) := by
  rintro c ⟨⟩
  rfl

theorem exponent_exponentText (l : Int) :
    exponent (exponentText l) = some (some (decide (l < 0), decimalDigits l.natAbs), []) := by
  have hne : decimalDigits l.natAbs ≠ [] := by simp [decimalDigits]
  unfold exponentText
  by_cases hl : l < 0
  · rw [if_pos hl, decide_eq_true hl]
    exact exponentDigits_eq_some.mpr ⟨_, digits_toDigits _, hne, rfl⟩
  · rw [if_neg hl, decide_eq_false hl]
    exact exponentDigits_eq_some.mpr ⟨_, digits_toDigits _, hne, rfl⟩

theorem power_exponentText (l : Int) : Numeral.power (some (decide (l < 0), decimalDigits l.natAbs)) = l := by
  simp only [Numeral.power, Numeral.ofDigits_decimalDigits, decide_eq_true_eq]
  split <;> omega

/-! ## Reading laid out decimals -/

/-- The digits of a number other than zero, and their beginnings, do not begin with a zero. -/
theorem isWhole_of_prefix {n : Nat} {ds ds' : List Nat} (hn : n ≠ 0) (hne : ds ≠ []) (h : ds ++ ds' = decimalDigits n) :
    IsWhole ds := by
  refine ⟨hne, fun hhead => ?_⟩
  have hfirst := head?_decimalDigits (Nat.pos_of_ne_zero hn)
  rw [← h, List.head?_append, hhead] at hfirst
  exact (hfirst rfl).elim

/-- The text is read as a numeral for a decimal, of the given sign. -/
def IsNumeralFor (negative : Bool) (d : Decimal) (cs : List Char) : Prop :=
  ∃ n, unsignedNumeral negative cs = some (n, []) ∧ n.negative = negative ∧ n.value = d.value

theorem isDigit_of_mem_zero : ∀ c ∈ ['0'], c.isDigit = true := by
  intro c hc
  rw [List.mem_singleton.mp hc]
  rfl

variable {m : Nat} {e : Int}

/-- The digits of a whole number, with the zeros of its power of ten and one after the point. -/
theorem isNumeralFor_whole (hzero : m = 0 → e = 0) (he : 0 ≤ e) :
    IsNumeralFor negative ⟨m, e⟩ (Nat.toDigits 10 m ++ List.replicate e.toNat '0' ++ ['.', '0']) := by
  have hvalues : digitValues (Nat.toDigits 10 m ++ List.replicate e.toNat '0')
      = decimalDigits m ++ List.replicate e.toNat 0 := by
    simp [digitValues, decimalDigits]
  have hisDigit : ∀ c ∈ Nat.toDigits 10 m ++ List.replicate e.toNat '0', c.isDigit = true := by
    intro c hc
    rcases List.mem_append.mp hc with hc | hc
    · exact isDigit_of_mem_toDigits hc
    · rw [List.eq_of_mem_replicate hc]
      rfl
  have hwhole : IsWhole (decimalDigits m ++ List.replicate e.toNat 0) := by
    by_cases hm : m = 0
    · rw [hm, hzero hm]
      exact ⟨by decide, fun _ => by decide⟩
    · refine ⟨by simp [decimalDigits], fun hhead => ?_⟩
      have hfirst := head?_decimalDigits (Nat.pos_of_ne_zero hm)
      cases hdigits : decimalDigits m with
      | nil => simp [decimalDigits] at hdigits
      | cons x xs =>
        rw [hdigits] at hhead hfirst
        exact (hfirst hhead).elim
  refine ⟨_, unsignedNumeral_of_point hisDigit (hvalues ▸ hwhole) isDigit_of_mem_zero (by decide)
    endsDigits_nil rfl, rfl, ?_⟩
  apply Numeral.value_eq (j := 0) (k := e.toNat + 1)
  · rw [hvalues, List.append_assoc, List.replicate_succ']
    rfl
  · change 0 - 1 + ((e.toNat + 1 : Nat) : Int) = e
    omega

/-- The digits with a point among them, and perhaps an exponent. -/
theorem isNumeralFor_pointed {k : Nat} (hm : m ≠ 0) (hk : 0 < k) (hlt : k < (Nat.toDigits 10 m).length)
    (htail : EndsDigits tail) (hmark : exponent tail = some (mark, []))
    (he : Numeral.power mark - ((Nat.toDigits 10 m).length - k : Nat) = e) :
    IsNumeralFor negative ⟨m, e⟩ ((Nat.toDigits 10 m).take k ++ '.' :: ((Nat.toDigits 10 m).drop k ++ tail)) := by
  have hvalues : digitValues ((Nat.toDigits 10 m).take k) ++ digitValues ((Nat.toDigits 10 m).drop k)
      = decimalDigits m := by
    rw [digitValues, digitValues, ← List.map_append, List.take_append_drop]
    rfl
  have htake : ∀ c ∈ (Nat.toDigits 10 m).take k, c.isDigit = true :=
    fun c hc => isDigit_of_mem_toDigits (List.mem_of_mem_take hc)
  have hdrop : ∀ c ∈ (Nat.toDigits 10 m).drop k, c.isDigit = true :=
    fun c hc => isDigit_of_mem_toDigits (List.mem_of_mem_drop hc)
  have hwhole : IsWhole (digitValues ((Nat.toDigits 10 m).take k)) := by
    apply isWhole_of_prefix hm _ hvalues
    apply List.ne_nil_of_length_pos
    rw [digitValues, List.length_map, List.length_take]
    omega
  have hne : (Nat.toDigits 10 m).drop k ≠ [] := by
    apply List.ne_nil_of_length_pos
    rw [List.length_drop]
    omega
  refine ⟨_, unsignedNumeral_of_point htake hwhole hdrop hne htail hmark, rfl, ?_⟩
  apply Numeral.value_eq (j := 0) (k := 0)
  · simpa using hvalues
  · simp only [digitValues, List.length_map, List.length_drop]
    omega

/-- Zeros between the point and the digits of a number below one. -/
theorem isNumeralFor_fraction {k : Nat} (he : -e = k + (Nat.toDigits 10 m).length) :
    IsNumeralFor negative ⟨m, e⟩ ('0' :: '.' :: (List.replicate k '0' ++ Nat.toDigits 10 m)) := by
  have hvalues : digitValues (List.replicate k '0' ++ Nat.toDigits 10 m) = List.replicate k 0 ++ decimalDigits m := by
    simp [digitValues, decimalDigits]
  have hisDigit : ∀ c ∈ List.replicate k '0' ++ Nat.toDigits 10 m, c.isDigit = true := by
    intro c hc
    rcases List.mem_append.mp hc with hc | hc
    · rw [List.eq_of_mem_replicate hc]
      rfl
    · exact isDigit_of_mem_toDigits hc
  have hne : List.replicate k '0' ++ Nat.toDigits 10 m ≠ [] := by simp
  have hread : unsignedNumeral negative (['0'] ++ '.' :: (List.replicate k '0' ++ Nat.toDigits 10 m ++ [])) = _ :=
    unsignedNumeral_of_point isDigit_of_mem_zero ⟨by decide, fun _ => by decide⟩ hisDigit hne endsDigits_nil rfl
  rw [List.append_nil] at hread
  refine ⟨_, hread, rfl, ?_⟩
  apply Numeral.value_eq (j := k + 1) (k := 0)
  · rw [hvalues, List.replicate_succ, List.replicate_zero, List.append_nil]
    rfl
  · rw [hvalues]
    simp only [Numeral.power, List.length_append, List.length_replicate, decimalDigits, List.length_map]
    omega

/-- A single digit with an exponent. -/
theorem isNumeralFor_single (hsize : (Nat.toDigits 10 m).length = 1) (htail : EndsDigits tail)
    (hpoint : ∀ t, tail ≠ '.' :: t) (hmark : exponent tail = some (mark, [])) (he : Numeral.power mark = e) :
    IsNumeralFor negative ⟨m, e⟩ (Nat.toDigits 10 m ++ tail) := by
  have hisDigit : ∀ c ∈ Nat.toDigits 10 m, c.isDigit = true := fun c => isDigit_of_mem_toDigits
  have hwhole : IsWhole (decimalDigits m) := by
    refine ⟨by simp [decimalDigits], fun _ => ?_⟩
    rw [decimalDigits, List.length_map, hsize]
  refine ⟨_, unsignedNumeral_of_no_point hisDigit hwhole htail hpoint hmark, rfl, ?_⟩
  apply Numeral.value_eq (j := 0) (k := 0)
  · simp [digitValues, decimalDigits]
  · simpa using he

theorem isNumeralFor_layout (negative : Bool) {d : Decimal} (hzero : d.digits = 0 → d.exponent = 0) :
    IsNumeralFor negative d d.layout := by
  obtain ⟨m, e⟩ := d
  dsimp only at hzero
  have hpos : 0 < (Nat.toDigits 10 m).length := List.length_pos_of_ne_nil Nat.toDigits_ne_nil
  unfold Decimal.layout
  dsimp only
  split
  · split
    · next hwhole => exact isNumeralFor_whole hzero hwhole
    · next hnegative =>
      have hm : m ≠ 0 := fun hm => hnegative (Int.le_of_eq (hzero hm).symm)
      split
      · next hleading =>
        have hread : ∀ k, _ → _ → _ → IsNumeralFor negative ⟨m, e⟩
            ((Nat.toDigits 10 m).take k ++ '.' :: ((Nat.toDigits 10 m).drop k ++ [])) :=
          fun k hk hlt he => isNumeralFor_pointed hm hk hlt endsDigits_nil rfl he
        simp only [List.append_nil] at hread
        exact hread ((e + (Nat.toDigits 10 m).length - 1).toNat + 1) (by omega) (by omega)
          (by simp only [Numeral.power]; omega)
      · next hleading => exact isNumeralFor_fraction (by omega)
  · next hrange =>
    have hm : m ≠ 0 := by
      rintro rfl
      rw [hzero rfl] at hrange
      exact hrange (by decide)
    change IsNumeralFor negative ⟨m, e⟩ (_ ++ exponentText (e + (Nat.toDigits 10 m).length - 1))
    split
    · next hsize =>
      exact isNumeralFor_single hsize (endsDigits_exponentText _) nofun (exponent_exponentText _)
        (by rw [power_exponentText]; omega)
    · next hsize =>
      change IsNumeralFor negative ⟨m, e⟩ ((Nat.toDigits 10 m).take 1 ++ '.' :: (Nat.toDigits 10 m).drop 1 ++ _)
      rw [List.append_assoc, List.cons_append]
      exact isNumeralFor_pointed hm Nat.one_pos (by omega) (endsDigits_exponentText _) (exponent_exponentText _)
        (by rw [power_exponentText]; omega)

/-- What is read without a sign does not begin with one. -/
theorem numeral_of_unsignedNumeral {n : Numeral} (h : unsignedNumeral false cs = some (n, tail)) :
    numeral cs = some (n, tail) := by
  unfold numeral
  split
  · next rest =>
    have hdigits : digits ('-' :: rest) = ([], '-' :: rest) := rfl
    unfold unsignedNumeral at h
    rw [hdigits] at h
    cases h
  · exact h

end Document

/-! ## Numbers -/

namespace Number

open Decimal (shortest)

variable {x y : Binary64.Finite}

theorem exists_numeral_text (x : Binary64.Finite) :
    ∃ n, Document.numeral x.text.toList = some (n, []) ∧ n.negative = x.negative ∧
      n.value = (shortest x.units).value := by
  have hzero : (shortest x.units).digits = 0 → (shortest x.units).exponent = 0 :=
    Decimal.exponent_shortest x.significant x.lt_limit
  obtain ⟨n, hread, hnegative, hvalue⟩ := Document.isNumeralFor_layout x.negative hzero
  refine ⟨n, ?_, hnegative, hvalue⟩
  unfold Binary64.Finite.text
  rw [String.toList_ofList]
  cases hx : x.negative with
  | true =>
    rw [hx] at hread
    exact hread
  | false =>
    rw [hx] at hread
    exact Document.numeral_of_unsignedNumeral hread

theorem numeral_float (x : Binary64.Finite) :
    (float x).IsNumeral ∧ (float x).numeral.negative = x.negative ∧
      (float x).numeral.value = (shortest x.units).value := by
  obtain ⟨n, hread, hnegative, hvalue⟩ := exists_numeral_text x
  have heq : (float x).numeral = n := by
    change ((Document.numeral x.text.toList).map (·.1)).getD ⟨false, [], [], none⟩ = n
    rw [hread]
    rfl
  exact ⟨by rw [IsNumeral, heq]; exact hread, by rw [heq, hnegative], by rw [heq, hvalue]⟩

/-- The numeral of a number tells its sign, and its magnitude, which is the one nearest to the value. -/
theorem numeral_float_injective (h : (float x).numeral = (float y).numeral) : x = y := by
  obtain ⟨-, hnegative, hvalue⟩ := numeral_float x
  obtain ⟨-, hnegative', hvalue'⟩ := numeral_float y
  have hsign : x.negative = y.negative := by rw [← hnegative, ← hnegative', h]
  have hunits : x.units = y.units := by
    have hx := Decimal.rounds_shortest x.significant x.lt_limit
    have hy := Decimal.rounds_shortest y.significant y.lt_limit
    rw [← hvalue, h, hvalue'] at hx
    exact hx.unique hy
  obtain ⟨negative, units, hs, hl⟩ := x
  obtain ⟨negative', units', hs', hl'⟩ := y
  cases hsign
  cases hunits
  rfl

end Number

end FlagEngine.Json
