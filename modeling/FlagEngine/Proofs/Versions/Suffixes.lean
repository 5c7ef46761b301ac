import FlagEngine.Proofs.Versions.Comparison

/-!
# Comparing versions with suffixes

Versions with equally many components are compared by these first and then by what follows them,
`Version.compareTexts?_of_readsAs`. A suffix is compared as a number if the version has a numeral there, and as text
otherwise, so that the order of two suffixes may depend on which of the two is the target.

Two pre-releases compare the other way round when they change places exactly if their suffixes are
`Version.Reversible`, unless their components differ before: `Version.antisymmetric_iff_reversible`. A pre-release
always comes before its plain release, and before one with a build suffix as long as neither suffix exceeds the
other as a number and they are not the same: `Version.orders_preReleases`.
-/

namespace FlagEngine.Version

/-- The text is a core with these components, the separator, and then the suffix, and it has no white space. -/
def IsSuffixed (separator : Char) (s : String) (components : List Nat) (suffix : List Char) : Prop :=
  ∃ groups, IsCore groups ∧ ['.'].intercalate groups ++ separator :: suffix = s.toList ∧
    groups.map Literal.ofDigits = components ∧ suffix ≠ [] ∧ ∀ c ∈ suffix, Text.isBlank c = false

/-- The text is read as a version whose parts are the numerals of these components and then the rest. -/
def ReadsAs (s : String) (preRelease : Bool) (components : List Nat) (rest : List (List Char)) : Prop :=
  ∃ v groups, ofChars? s.toList = some v ∧ v.isPreRelease = preRelease ∧ v.parts = groups ++ rest ∧
    IsCore groups ∧ groups.map Literal.ofDigits = components

/-- A numeral stands in one order to another text, whichever of the two is compared with the other. -/
inductive Concur (numeral text : List Char) : Prop where
  /-- Both are numbers. The plus sign of the text is before every digit, so that its number has to be the lesser. -/
  | signed {n m : Nat} (hn : number? numeral = some n) (hm : number? text = some m) (hlt : m < n)
  /-- The numeral is less than what is no number, so that it has to come before it as a text. -/
  | text (hnone : number? numeral = none ∨ number? text = none) (hlt : compare numeral text = .lt)

/-- Two suffixes of pre-releases whose order is reversed when they change places. -/
inductive Reversible : List Char → List Char → Prop where
  | texts {s t} (hs : isNumeral s = false) (ht : isNumeral t = false) : Reversible s t
  | numerals {s t} (hs : isNumeral s = true) (ht : isNumeral t = true) (hfits : Literal.ofDigits s < numberLimit)
      (hfits' : Literal.ofDigits t < numberLimit) : Reversible s t
  | numeralText {s t} (hs : isNumeral s = true) (ht : isNumeral t = false) (h : Concur s t) : Reversible s t
  | textNumeral {s t} (hs : isNumeral s = false) (ht : isNumeral t = true) (h : Concur t s) : Reversible s t

/-- Both suffixes are numbers, of which the first is a numeral and the greater one. -/
def Exceeds (s t : List Char) : Prop :=
  isNumeral s = true ∧ ∃ n m, number? s = some n ∧ number? t = some m ∧ m < n

variable {separator : Char} {a b : String} {s t part target : List Char} {ns ms : List Nat} {n m : Nat}
  {parts targets groups rest rest' : List (List Char)} {preRelease preRelease' : Bool}

/-! ## Reading -/

theorem isSuffixed_of_isCore (hcore : IsCore groups) (ha : ['.'].intercalate groups ++ separator :: s = a.toList)
    (hne : s ≠ []) (hblank : s.any Text.isBlank = false) :
    IsSuffixed separator a (groups.map Literal.ofDigits) s :=
  ⟨groups, hcore, ha, rfl, hne, by simpa using hblank⟩

theorem IsSuffixed.readsAs (h : IsSuffixed separator a ns s) (hseparator : separator = '-' ∨ separator = '+') :
    ReadsAs a (separator == '-') ns [s] := by
  obtain ⟨groups, hcore, ha, hns, hne, hblank⟩ := h
  let w : Spelling :=
    { groups, ending := some (separator, s), isCore := hcore
      separator := by rintro e ⟨⟩; exact hseparator
      suffix_ne_nil := by rintro e ⟨⟩; exact hne }
  have hchars : w.chars = a.toList := ha
  have hplain : ∀ c ∈ w.chars, Text.isBlank c = false := by
    intro c hc
    rcases List.mem_append.mp hc with hc | hc
    · rcases Spelling.mem_core hc with rfl | hdigit
      · decide
      · exact isBlank_of_isDigit hdigit
    · rcases List.mem_cons.mp hc with rfl | hc
      · rcases hseparator with rfl | rfl <;> decide
      · exact hblank c hc
  refine ⟨w.version, groups, by rw [← hchars, ofChars?_chars hplain], ?_, parts_version w, hcore, hns⟩
  rw [Bool.eq_iff_iff, isPreRelease_version, beq_iff_eq]
  constructor
  · rintro ⟨suffix, ⟨⟩⟩
    rfl
  · rintro rfl
    exact ⟨s, rfl⟩

theorem IsRelease.readsAs (h : IsRelease a ns) : ReadsAs a false ns [] := by
  obtain ⟨groups, hcore, ha, hns⟩ := h
  exact ⟨_, groups, ofChars?_of_isCore hcore ha, rfl, rfl, hcore, hns⟩

/-! ## Components first -/

/-- Numerals that fit decide before anything that follows them. -/
theorem compareParts_append (hlength : groups.length = targets.length)
    (hgroups : ∀ g ∈ groups, isNumeral g = true ∧ Literal.ofDigits g < numberLimit)
    (htargets : ∀ g ∈ targets, isNumeral g = true ∧ Literal.ofDigits g < numberLimit) :
    compareParts preRelease preRelease' (groups ++ rest) (targets ++ rest')
      = (compare (groups.map Literal.ofDigits) (targets.map Literal.ofDigits)).then
          (compareParts preRelease preRelease' rest rest') := by
  induction targets generalizing groups with
  | nil =>
    obtain rfl := List.length_eq_zero_iff.mp hlength
    rfl
  | cons target targets ih =>
    cases groups with
    | nil => simp at hlength
    | cons g groups =>
      obtain ⟨⟨hg, hn⟩, hgroups⟩ := List.forall_mem_cons.mp hgroups
      obtain ⟨⟨htarget, hm⟩, htargets⟩ := List.forall_mem_cons.mp htargets
      rw [List.cons_append, List.cons_append, compareParts_numerals hg htarget hn hm,
        ih (Nat.succ.inj hlength) hgroups htargets, List.map_cons, List.map_cons, List.compare_cons_cons,
        Ordering.then_assoc]

theorem compareTexts?_of_readsAs (ha : ReadsAs a preRelease ns rest) (hb : ReadsAs b preRelease' ms rest')
    (hlength : ns.length = ms.length) (hns : ∀ n ∈ ns, n < numberLimit) (hms : ∀ m ∈ ms, m < numberLimit) :
    compareTexts? a b = some ((compare ns ms).then (compareParts preRelease preRelease' rest rest')) := by
  obtain ⟨v, groups, hv, rfl, hparts, hcore, rfl⟩ := ha
  obtain ⟨v', targets, hv', rfl, hparts', hcore', rfl⟩ := hb
  rw [compareTexts?_of_some hv hv', compareTo, hparts, hparts', compareParts_append (by simpa using hlength)]
  · exact fun g hg => ⟨hcore.isNumeral g hg, hns _ (List.mem_map_of_mem hg)⟩
  · exact fun g hg => ⟨hcore'.isNumeral g hg, hms _ (List.mem_map_of_mem hg)⟩

/-! ## Suffixes -/

theorem compareParts_text (hpart : isNumeral part = false) :
    compareParts preRelease preRelease' (part :: parts) (target :: targets)
      = match compare part target with
        | .eq => compareParts preRelease preRelease' parts targets
        | .lt => if preRelease' && !preRelease then .gt else .lt
        | .gt => if !preRelease' && preRelease then .lt else .gt := by
  have hnot : ¬ isNumeral part = true := Bool.not_eq_true _ ▸ hpart
  exact if_neg hnot

theorem number?_of_fits (hs : isNumeral s = true) (hfits : Literal.ofDigits s < numberLimit) :
    number? s = some (Literal.ofDigits s) := by
  rw [number?_of_isNumeral hs, if_pos hfits]

theorem number?_eq_none_iff (hs : isNumeral s = true) : number? s = none ↔ ¬ Literal.ofDigits s < numberLimit := by
  rw [number?_of_isNumeral hs]
  split <;> simp_all

theorem exists_numbers_or_none (s t : List Char) :
    (∃ n m, number? s = some n ∧ number? t = some m) ∨ number? s = none ∨ number? t = none := by
  cases number? s <;> cases number? t <;> simp

/-- A number that is no numeral begins with a plus sign, which is before every digit. -/
theorem compare_signed (hs : isNumeral s = true) (ht : isNumeral t = false) (hm : number? t = some m) :
    compare t s = .lt := by
  obtain ⟨digits, rfl⟩ : ∃ digits, t = '+' :: digits := by
    unfold number? at hm
    split at hm
    · exact ⟨_, rfl⟩
    · simp [ht] at hm
  obtain ⟨hne, hdigits⟩ := isNumeral_iff.mp hs
  obtain ⟨d, ds, rfl⟩ := List.exists_cons_of_ne_nil hne
  have hd : d.isDigit = true := hdigits d (.head _)
  have hplus : compare '+' d = .lt := by
    refine compareOfLessAndEq_eq_lt.mpr (Char.lt_def.mpr (UInt32.lt_iff_toNat_lt.mpr ?_))
    exact Nat.lt_of_lt_of_le (by decide) (Literal.toNat_of_isDigit hd).1
  rw [List.compare_cons_cons, hplus]
  rfl

theorem compare_swap (s t : List Char) : compare t s = (compare s t).swap :=
  Std.OrientedCmp.eq_swap

theorem compareParts_preReleases_text (hs : isNumeral s = false) : compareParts true true [s] [t] = compare s t := by
  rw [compareParts_text hs]
  cases compare s t <;> rfl

theorem compareParts_preReleases_numbers (hs : isNumeral s = true) (hn : number? s = some n) (hm : number? t = some m) :
    compareParts true true [s] [t] = compare n m := by
  rw [compareParts_of_some hs hn hm]
  cases compare n m <;> rfl

theorem Reversible.symm (h : Reversible s t) : Reversible t s := by
  cases h with
  | texts hs ht => exact .texts ht hs
  | numerals hs ht hfits hfits' => exact .numerals ht hs hfits' hfits
  | numeralText hs ht h => exact .textNumeral ht hs h
  | textNumeral hs ht h => exact .numeralText ht hs h

theorem Reversible.concur (h : Reversible s t) (hs : isNumeral s = true) (ht : isNumeral t = false) : Concur s t := by
  cases h with
  | numeralText _ _ h => exact h
  | texts hs' _ | textNumeral hs' _ _ => cases hs.symm.trans hs'
  | numerals _ ht' _ _ => cases ht.symm.trans ht'

theorem Reversible.fits (h : Reversible s t) (hs : isNumeral s = true) (ht : isNumeral t = true) :
    Literal.ofDigits s < numberLimit ∧ Literal.ofDigits t < numberLimit := by
  cases h with
  | numerals _ _ hfits hfits' => exact ⟨hfits, hfits'⟩
  | texts hs' _ | textNumeral hs' _ _ => cases hs.symm.trans hs'
  | numeralText _ ht' _ => cases ht.symm.trans ht'

/-- The order of a numeral and a text is decided by numbers in one direction and by characters in the other. -/
theorem swaps_iff_concur (hs : isNumeral s = true) (ht : isNumeral t = false) :
    compareParts true true [t] [s] = (compareParts true true [s] [t]).swap ↔ Concur s t := by
  rw [compareParts_preReleases_text ht]
  rcases exists_numbers_or_none s t with ⟨n, m, hn, hm⟩ | hnone
  · rw [compareParts_preReleases_numbers hs hn hm, compare_signed hs ht hm, ← Nat.compare_swap, Ordering.swap_swap,
      eq_comm, Nat.compare_eq_lt]
    constructor
    · exact fun hlt => .signed hn hm hlt
    · rintro (⟨hn', hm', hlt⟩ | ⟨hnone, -⟩)
      · cases hn.symm.trans hn'
        cases hm.symm.trans hm'
        exact hlt
      · simp [hn, hm] at hnone
  · rw [compareParts_of_none hs hnone, compare_swap, Ordering.swap_inj]
    constructor
    · exact fun hlt => .text hnone hlt
    · rintro (⟨hn, hm, -⟩ | ⟨-, hlt⟩)
      · simp [hn, hm] at hnone
      · exact hlt

/-- Two numerals are compared as numbers, and one that does not fit makes either less than the other. -/
theorem swaps_iff_fits (hs : isNumeral s = true) (ht : isNumeral t = true) :
    compareParts true true [t] [s] = (compareParts true true [s] [t]).swap ↔
      Literal.ofDigits s < numberLimit ∧ Literal.ofDigits t < numberLimit := by
  by_cases hfits : Literal.ofDigits s < numberLimit ∧ Literal.ofDigits t < numberLimit
  · have hn := number?_of_fits hs hfits.1
    have hm := number?_of_fits ht hfits.2
    rw [compareParts_preReleases_numbers hs hn hm, compareParts_preReleases_numbers ht hm hn]
    exact iff_of_true (Nat.compare_swap _ _).symm hfits
  · have hnone : number? s = none ∨ number? t = none := by
      rwa [number?_eq_none_iff hs, number?_eq_none_iff ht, ← not_and_or]
    rw [compareParts_of_none hs hnone, compareParts_of_none ht hnone.symm]
    exact iff_of_false (by decide) hfits

theorem swaps_iff_reversible (s t : List Char) :
    compareParts true true [t] [s] = (compareParts true true [s] [t]).swap ↔ Reversible s t := by
  cases hs : isNumeral s <;> cases ht : isNumeral t
  case false.false =>
    rw [compareParts_preReleases_text hs, compareParts_preReleases_text ht]
    exact iff_of_true (compare_swap s t) (.texts hs ht)
  case true.true =>
    rw [swaps_iff_fits hs ht]
    exact ⟨fun h => .numerals hs ht h.1 h.2, fun h => h.fits hs ht⟩
  case true.false =>
    rw [swaps_iff_concur hs ht]
    exact ⟨.numeralText hs ht, fun h => h.concur hs ht⟩
  case false.true =>
    rw [← Ordering.swap_inj, Ordering.swap_swap, eq_comm, swaps_iff_concur ht hs]
    exact ⟨.textNumeral hs ht, fun h => h.symm.concur ht hs⟩

/-- **Pre-releases change places** under a reversed order exactly if the components before their suffixes differ or
the suffixes are reversible. -/
theorem antisymmetric_iff_reversible {a b : String} {ns ms : List Nat} {s t : List Char}
    (ha : IsSuffixed '-' a ns s) (hb : IsSuffixed '-' b ms t) (hlength : ns.length = ms.length)
    (hns : ∀ n ∈ ns, n < numberLimit) (hms : ∀ m ∈ ms, m < numberLimit) :
    ∃ o o', compareTexts? a b = some o ∧ compareTexts? b a = some o' ∧ (o' = o.swap ↔ ns ≠ ms ∨ Reversible s t) := by
  have hcompare := compareTexts?_of_readsAs (ha.readsAs (.inl rfl)) (hb.readsAs (.inl rfl)) hlength hns hms
  have hcompare' := compareTexts?_of_readsAs (hb.readsAs (.inl rfl)) (ha.readsAs (.inl rfl)) hlength.symm hms hns
  refine ⟨_, _, hcompare, hcompare', ?_⟩
  have hswap : compare ms ns = (compare ns ms).swap := Std.OrientedCmp.eq_swap
  rw [hswap, Ordering.swap_then]
  by_cases heq : ns = ms
  · have hsame : compare ns ms = .eq := Std.compare_eq_iff_eq.mpr heq
    rw [hsame]
    exact (swaps_iff_reversible s t).trans (by simp [heq])
  · have hne : (compare ns ms).swap ≠ .eq := by simpa using heq
    rw [then_of_ne_eq hne, then_of_ne_eq hne]
    exact iff_of_true rfl (.inl heq)

namespace Sample

theorem isCore_first : IsCore ["1".toList, "0".toList, "0".toList] := by decide

theorem isSuffixed_rc : IsSuffixed '-' "01.0.0-rc" [1, 0, 0] "rc".toList :=
  isSuffixed_of_isCore (by decide : IsCore ["01".toList, "0".toList, "0".toList]) rfl (by decide) (by decide)

theorem isSuffixed_ten : IsSuffixed '-' "1.0.0-10" [1, 0, 0] "10".toList :=
  isSuffixed_of_isCore isCore_first rfl (by decide) (by decide)

theorem isSuffixed_dotted : IsSuffixed '-' "1.0.0-1.2" [1, 0, 0] "1.2".toList :=
  isSuffixed_of_isCore isCore_first rfl (by decide) (by decide)

end Sample

/-- A numeral and a text after it. -/
theorem antisymmetric_iff_reversible_of_ten :
    ∃ o o', compareTexts? "1.0.0-10" "01.0.0-rc" = some o ∧ compareTexts? "01.0.0-rc" "1.0.0-10" = some o' ∧
      o' = o.swap := by
  have hconcur : Concur "10".toList "rc".toList := .text (.inr (by decide)) (by decide)
  have hreversible : Reversible "10".toList "rc".toList := .numeralText (by decide) (by decide) hconcur
  obtain ⟨o, o', ho, ho', hiff⟩ := antisymmetric_iff_reversible Sample.isSuffixed_ten Sample.isSuffixed_rc rfl
    (by decide) (by decide)
  exact ⟨o, o', ho, ho', hiff.mpr (.inr hreversible)⟩

/-- Each of these pre-releases is less than the other. -/
theorem each_less_than_other :
    IsSuffixed '-' "1.0.0-10" [1, 0, 0] "10".toList ∧ IsSuffixed '-' "1.0.0-1.2" [1, 0, 0] "1.2".toList ∧
      compareTexts? "1.0.0-10" "1.0.0-1.2" = some .lt ∧ compareTexts? "1.0.0-1.2" "1.0.0-10" = some .lt :=
  ⟨Sample.isSuffixed_ten, Sample.isSuffixed_dotted, by decide, by decide⟩

/-! ## Pre-releases and releases -/

theorem not_exceeds_of_none (hnone : number? s = none ∨ number? t = none) : ¬ Exceeds s t := by
  rintro ⟨-, n, m, hn, hm, -⟩
  simp [hn, hm] at hnone

theorem exceeds_iff (hs : isNumeral s = true) (hn : number? s = some n) (hm : number? t = some m) :
    Exceeds s t ↔ compare n m = .gt := by
  rw [Nat.compare_eq_gt]
  constructor
  · rintro ⟨-, n', m', hn', hm', hlt⟩
    cases hn.symm.trans hn'
    cases hm.symm.trans hm'
    exact hlt
  · exact fun hlt => ⟨hs, n, m, hn, hm, hlt⟩

theorem not_exceeds_of_text (hs : isNumeral s = false) : ¬ Exceeds s t := by
  rintro ⟨hs', -⟩
  cases hs.symm.trans hs'

/-- A pre-release is less than a build unless its suffix exceeds the other. -/
theorem compareParts_preRelease_build (s t : List Char) :
    (compareParts true false [s] [t] = .lt ↔ ¬ Exceeds s t) ∧ (compareParts true false [s] [t] = .gt ↔ Exceeds s t) := by
  cases hs : isNumeral s with
  | false =>
    -- whatever the order of the texts, the marks of the versions override it
    have hlt : compareParts true false [s] [t] = .lt := by
      rw [compareParts_text hs]
      cases compare s t <;> rfl
    simp [hlt, not_exceeds_of_text hs]
  | true =>
    rcases exists_numbers_or_none s t with ⟨n, m, hn, hm⟩ | hnone
    · rw [compareParts_of_some hs hn hm, exceeds_iff hs hn hm]
      cases compare n m <;> simp [compareParts]
    · rw [compareParts_of_none hs hnone]
      simp [not_exceeds_of_none hnone]

/-- A build is greater than a pre-release if its suffix exceeds the other or is another text. -/
theorem compareParts_build_preRelease (s t : List Char) :
    compareParts false true [s] [t] = .gt ↔ Exceeds s t ∨ isNumeral s = false ∧ s ≠ t := by
  cases hs : isNumeral s with
  | false =>
    have hgt : compareParts false true [s] [t] = .gt ↔ compare s t ≠ .eq := by
      rw [compareParts_text hs]
      cases compare s t <;> decide
    rw [hgt, ne_eq, Std.compare_eq_iff_eq]
    simp [not_exceeds_of_text hs]
  | true =>
    rcases exists_numbers_or_none s t with ⟨n, m, hn, hm⟩ | hnone
    · rw [compareParts_of_some hs hn hm, exceeds_iff hs hn hm]
      cases compare n m <;> simp [compareParts]
    · rw [compareParts_of_none hs hnone]
      simp [not_exceeds_of_none hnone]

/-- **Pre-releases and releases** with the same components. A pre-release is less than the plain release, and less
than a build unless its suffix exceeds that of the build. The plain release is greater than a pre-release, and so is a
build whose suffix exceeds that of the pre-release or is a text that differs from it. -/
theorem orders_preReleases {p r q : String} {ns : List Nat} {s t : List Char} (hp : IsSuffixed '-' p ns s)
    (hr : IsRelease r ns) (hq : IsSuffixed '+' q ns t) (hns : ∀ n ∈ ns, n < numberLimit) :
    compareTexts? p r = some .lt ∧ compareTexts? r p = some .gt ∧
    ∃ o o', compareTexts? p q = some o ∧ compareTexts? q p = some o' ∧
      (o = .lt ↔ ¬ Exceeds s t) ∧ (o = .gt ↔ Exceeds s t) ∧
      (o' = .gt ↔ Exceeds t s ∨ isNumeral t = false ∧ t ≠ s) := by
  have hsame : compare ns ns = .eq := Std.ReflCmp.compare_self
  have hpr := compareTexts?_of_readsAs (hp.readsAs (.inl rfl)) hr.readsAs rfl hns hns
  have hrp := compareTexts?_of_readsAs hr.readsAs (hp.readsAs (.inl rfl)) rfl hns hns
  have hpq := compareTexts?_of_readsAs (hp.readsAs (.inl rfl)) (hq.readsAs (.inr rfl)) rfl hns hns
  have hqp := compareTexts?_of_readsAs (hq.readsAs (.inr rfl)) (hp.readsAs (.inl rfl)) rfl hns hns
  rw [hsame, Ordering.eq_then] at hpr hrp hpq hqp
  obtain ⟨hlt, hgt⟩ := compareParts_preRelease_build s t
  exact ⟨hpr, hrp, _, _, hpq, hqp, hlt, hgt, compareParts_build_preRelease t s⟩

namespace Sample

theorem isSuffixed_build : IsSuffixed '+' "1.0.0+11" [1, 0, 0] "11".toList :=
  isSuffixed_of_isCore isCore_first rfl (by decide) (by decide)

theorem isRelease_plain : IsRelease "1.0.0" [1, 0, 0] :=
  ⟨_, isCore_first, rfl, rfl⟩

end Sample

/-- The build has the greater number. -/
theorem orders_preReleases_of_numbers :
    compareTexts? "1.0.0-10" "1.0.0" = some .lt ∧ compareTexts? "1.0.0" "1.0.0-10" = some .gt ∧
      compareTexts? "1.0.0-10" "1.0.0+11" = some .lt ∧ compareTexts? "1.0.0+11" "1.0.0-10" = some .gt := by
  have hexceeds : Exceeds "11".toList "10".toList := ⟨by decide, 11, 10, by decide, by decide, by decide⟩
  have hnot : ¬ Exceeds "10".toList "11".toList := by
    rw [exceeds_iff (n := 10) (m := 11) (by decide) (by decide) (by decide)]
    decide
  obtain ⟨hpr, hrp, o, o', ho, ho', hlt, -, hgt⟩ :=
    orders_preReleases Sample.isSuffixed_ten Sample.isRelease_plain Sample.isSuffixed_build (by decide)
  exact ⟨hpr, hrp, by rw [ho, hlt.mpr hnot], by rw [ho', hgt.mpr (.inl hexceeds)]⟩

/-- A pre-release that is greater than a build of its release, and a build that is equal to a pre-release. -/
theorem build_not_after_preRelease :
    IsSuffixed '-' "1.0.0-10" [1, 0, 0] "10".toList ∧ IsSuffixed '+' "1.0.0+9" [1, 0, 0] "9".toList ∧
      compareTexts? "1.0.0-10" "1.0.0+9" = some .gt ∧
    IsSuffixed '-' "1.0.0-rc" [1, 0, 0] "rc".toList ∧ IsSuffixed '+' "1.0.0+rc" [1, 0, 0] "rc".toList ∧
      compareTexts? "1.0.0+rc" "1.0.0-rc" = some .eq :=
  ⟨Sample.isSuffixed_ten, isSuffixed_of_isCore Sample.isCore_first rfl (by decide) (by decide), by decide,
    isSuffixed_of_isCore Sample.isCore_first rfl (by decide) (by decide),
    isSuffixed_of_isCore Sample.isCore_first rfl (by decide) (by decide), by decide⟩

end FlagEngine.Version
