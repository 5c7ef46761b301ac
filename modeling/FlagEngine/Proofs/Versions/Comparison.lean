import FlagEngine.Number.Literal
import FlagEngine.Proofs.Versions.Grammar

/-!
# Comparing versions

Parts that are numerals are compared as numbers if both fit 64 bits, `Version.compareParts_numerals`, and otherwise the
version is less, `Version.compareParts_of_none`. So the order of a release relative to a target is told by their
components, as far as the target goes: `Version.Compares` says how, and `Version.compares_releases` that it is so.
-/

namespace FlagEngine.Version

/-- The first number that does not fit 64 bits. -/
def numberLimit : Nat := 0x10000000000000000

/-- The text is a core with these components, and nothing after it. -/
def IsRelease (s : String) (components : List Nat) : Prop :=
  ∃ groups, IsCore groups ∧ ['.'].intercalate groups = s.toList ∧ groups.map Literal.ofDigits = components

/-- How the components of a version compare with those of a target. -/
inductive Compares : List Nat → List Nat → Ordering → Prop where
  /-- The first components that differ decide. -/
  | differ (common : List Nat) {n m : Nat} (hne : n ≠ m) (ns ms : List Nat) :
      Compares (common ++ n :: ns) (common ++ m :: ms) (compare n m)
  /-- The version runs out of components. -/
  | short (ns : List Nat) (m : Nat) (ms : List Nat) : Compares ns (ns ++ m :: ms) .lt
  /-- What the version has beyond the target is ignored. -/
  | extension (ms rest : List Nat) : Compares (ms ++ rest) ms .eq

/-! ## Parts -/

variable {cs part target : List Char} {parts targets groups : List (List Char)} {preRelease preRelease' : Bool}
  {ns ms : List Nat} {n m : Nat} {o o' : Ordering} {s t : String}

theorem number?_of_isNumeral (h : isNumeral cs = true) :
    number? cs = if Literal.ofDigits cs < numberLimit then some (Literal.ofDigits cs) else none := by
  have hplus : ∀ rest, cs ≠ '+' :: rest := by
    rintro rest rfl
    exact absurd ((isNumeral_iff.mp h).2 '+' (.head _)) (by decide)
  rw [number?, if_pos h]
  · rfl
  · exact hplus

theorem compareParts_of_some (hpart : isNumeral part = true) (hn : number? part = some n)
    (hm : number? target = some m) :
    compareParts preRelease preRelease' (part :: parts) (target :: targets)
      = (compare n m).then (compareParts preRelease preRelease' parts targets) := by
  rw [compareParts, if_pos hpart, hn, hm]
  dsimp only
  cases compare n m <;> rfl

/-- A number that does not fit makes the version less than its target, whichever of the two it is in. -/
theorem compareParts_of_none (hpart : isNumeral part = true) (hnone : number? part = none ∨ number? target = none) :
    compareParts preRelease preRelease' (part :: parts) (target :: targets) = .lt := by
  rw [compareParts, if_pos hpart]
  rcases hnone with hnone | hnone <;> rw [hnone]
  cases number? part <;> rfl

/-! ## Components -/

namespace Compares

theorem cons (h : Compares ns ms o) (n : Nat) : Compares (n :: ns) (n :: ms) o := by
  cases h with
  | differ common hne ns ms => exact .differ (n :: common) hne ns ms
  | short ns m ms => exact .short (n :: ns) m ms
  | extension ms rest => exact .extension (n :: ms) rest

theorem eq_of_nil (h : Compares ns [] o) : o = .eq := by
  generalize hms : [] = ms at h
  cases h with
  | differ => simp at hms
  | short => simp at hms
  | extension => rfl

theorem eq_of_nil_cons (h : Compares [] (m :: ms) o) : o = .lt := by
  generalize hns : [] = ns, hms : m :: ms = ms' at h
  cases h with
  | differ => simp at hns
  | short => rfl
  | extension => simp [← hms] at hns

theorem of_cons_cons (h : Compares (n :: ns) (m :: ms) o) :
    n = m ∧ Compares ns ms o ∨ n ≠ m ∧ o = compare n m := by
  generalize hns : n :: ns = ns', hms : m :: ms = ms' at h
  cases h with
  | differ common hne ns' ms' =>
    cases common with
    | nil =>
      cases hns
      cases hms
      exact .inr ⟨hne, rfl⟩
    | cons k common =>
      cases hns
      cases hms
      exact .inl ⟨rfl, .differ common hne ns' ms'⟩
  | short _ m' ms' =>
    subst hns
    cases hms
    exact .inl ⟨rfl, .short ns m' ms'⟩
  | extension _ rest =>
    subst hms
    cases hns
    exact .inl ⟨rfl, .extension ms rest⟩

theorem unique (h : Compares ns ms o) (h' : Compares ns ms o') : o = o' := by
  induction ms generalizing ns with
  | nil => rw [h.eq_of_nil, h'.eq_of_nil]
  | cons m ms ih =>
    cases ns with
    | nil => rw [h.eq_of_nil_cons, h'.eq_of_nil_cons]
    | cons n ns =>
      rcases h.of_cons_cons with ⟨heq, h⟩ | ⟨hne, rfl⟩
      · rcases h'.of_cons_cons with ⟨-, h'⟩ | ⟨hne, -⟩
        · exact ih h h'
        · exact absurd heq hne
      · rcases h'.of_cons_cons with ⟨heq, -⟩ | ⟨-, rfl⟩
        · exact absurd heq hne
        · rfl

end Compares

/-! ## Releases -/

theorem compareParts_numerals (hpart : isNumeral part = true) (htarget : isNumeral target = true)
    (hn : Literal.ofDigits part < numberLimit) (hm : Literal.ofDigits target < numberLimit) :
    compareParts preRelease preRelease' (part :: parts) (target :: targets)
      = (compare (Literal.ofDigits part) (Literal.ofDigits target)).then
          (compareParts preRelease preRelease' parts targets) :=
  compareParts_of_some hpart (by rw [number?_of_isNumeral hpart, if_pos hn])
    (by rw [number?_of_isNumeral htarget, if_pos hm])

theorem then_of_ne_eq (h : o ≠ .eq) : o.then o' = o := by
  cases o with
  | eq => exact absurd rfl h
  | lt | gt => rfl

/-- Numerals that all fit are compared as the numbers that they stand for. -/
theorem compares_compareParts (hgroups : ∀ g ∈ groups, isNumeral g = true ∧ Literal.ofDigits g < numberLimit)
    (htargets : ∀ g ∈ targets, isNumeral g = true ∧ Literal.ofDigits g < numberLimit) :
    Compares (groups.map Literal.ofDigits) (targets.map Literal.ofDigits)
      (compareParts false false groups targets) := by
  -- by induction on the target, beyond which nothing is looked at
  induction targets generalizing groups with
  | nil =>
    rw [compareParts]
    exact .extension [] _
  | cons target targets ih =>
    obtain ⟨⟨htarget, hm⟩, htargets⟩ := List.forall_mem_cons.mp htargets
    cases groups with
    | nil => exact .short [] _ _
    | cons g groups =>
      obtain ⟨⟨hg, hn⟩, hgroups⟩ := List.forall_mem_cons.mp hgroups
      rw [compareParts_numerals hg htarget hn hm, List.map_cons, List.map_cons]
      by_cases heq : Literal.ofDigits g = Literal.ofDigits target
      · rw [heq, Nat.compare_eq_eq.mpr rfl, Ordering.eq_then]
        exact (ih hgroups htargets).cons _
      · rw [then_of_ne_eq (mt Nat.compare_eq_eq.mp heq)]
        exact .differ [] heq _ _

/-- A target that fits is equal to what extends it, also to releases that do not fit themselves. -/
theorem compareParts_eq_iff_prefix (hgroups : ∀ g ∈ groups, isNumeral g = true)
    (htargets : ∀ g ∈ targets, isNumeral g = true ∧ Literal.ofDigits g < numberLimit) :
    compareParts false false groups targets = .eq ↔ targets.map Literal.ofDigits <+: groups.map Literal.ofDigits := by
  induction targets generalizing groups with
  | nil => simp [compareParts]
  | cons target targets ih =>
    obtain ⟨⟨htarget, hm⟩, htargets⟩ := List.forall_mem_cons.mp htargets
    cases groups with
    | nil => simp [compareParts]
    | cons g groups =>
      obtain ⟨hg, hgroups⟩ := List.forall_mem_cons.mp hgroups
      rw [List.map_cons, List.map_cons, List.cons_prefix_cons, ← ih hgroups htargets]
      by_cases hn : Literal.ofDigits g < numberLimit
      · rw [compareParts_numerals hg htarget hn hm, Ordering.then_eq_eq, Nat.compare_eq_eq, eq_comm]
      · -- too large a component makes the version less, and no component of the target is as large
        have hlarge : number? g = none := by rw [number?_of_isNumeral hg, if_neg hn]
        rw [compareParts_of_none hg (.inl hlarge)]
        have hne : Literal.ofDigits target ≠ Literal.ofDigits g := fun heq => hn (heq ▸ hm)
        simp [hne]

theorem isBlank_of_isDigit {c : Char} (h : c.isDigit = true) : Text.isBlank c = false := by
  have hrange := Literal.toNat_of_isDigit h
  have hapart : ∀ r ∈ Text.blankRanges, r.2 < 48 ∨ 57 < r.1 := by decide
  rw [Text.isBlank, Text.inRanges, List.any_eq_false]
  intro r hr
  have := hapart r hr
  simp only [Bool.and_eq_true, decide_eq_true_eq]
  omega

/-- There is no white space in a core. -/
theorem ofChars?_of_isCore (h : IsCore groups) (hs : ['.'].intercalate groups = s.toList) :
    ofChars? s.toList = some ⟨groups, none⟩ := by
  let w : Spelling := ⟨groups, none, h, nofun, nofun⟩
  have hchars : w.chars = s.toList := (List.append_nil _).trans hs
  rw [← hchars]
  refine ofChars?_chars fun c hc => ?_
  rw [Spelling.chars, Spelling.tail_of_none rfl, List.append_nil] at hc
  rcases Spelling.mem_core hc with rfl | hdigit
  · decide
  · exact isBlank_of_isDigit hdigit

theorem compareTexts?_of_some {v v' : Version} (hv : ofChars? s.toList = some v) (hv' : ofChars? t.toList = some v') :
    compareTexts? s t = some (v.compareTo v') := by
  rw [compareTexts?, hv, hv']
  rfl

/-- **Releases compare by their components**, as far as the target goes. The first component that differs decides,
a version that runs out of components is less, and what it has beyond those of the target is ignored. So a target is
equal to exactly the releases that extend it. -/
theorem compares_releases {s t : String} {ns ms : List Nat} (hs : IsRelease s ns) (ht : IsRelease t ms)
    (hms : ∀ m ∈ ms, m < numberLimit) :
    ((∀ n ∈ ns, n < numberLimit) →
      (∃ o, compareTexts? s t = some o) ∧ ∀ o, compareTexts? s t = some o ↔ Compares ns ms o) ∧
    (compareTexts? s t = some .eq ↔ ms <+: ns) := by
  obtain ⟨groups, hgroups, hs, rfl⟩ := hs
  obtain ⟨targets, htargets, ht, rfl⟩ := ht
  have hcompare : compareTexts? s t = some (compareParts false false groups targets) := by
    rw [compareTexts?_of_some (ofChars?_of_isCore hgroups hs) (ofChars?_of_isCore htargets ht), compareTo, parts, parts,
      List.append_nil, List.append_nil]
    rfl
  have hfit : ∀ g ∈ targets, isNumeral g = true ∧ Literal.ofDigits g < numberLimit := fun g hg =>
    ⟨htargets.isNumeral g hg, hms _ (List.mem_map_of_mem hg)⟩
  rw [hcompare]
  refine ⟨fun hns => ⟨⟨_, rfl⟩, fun o => ?_⟩, ?_⟩
  · have h := compares_compareParts (fun g hg => ⟨hgroups.isNumeral g hg, hns _ (List.mem_map_of_mem hg)⟩) hfit
    rw [Option.some.injEq]
    exact ⟨fun ho => ho ▸ h, h.unique⟩
  · rw [Option.some.injEq]
    exact compareParts_eq_iff_prefix hgroups.isNumeral hfit

/-- Leading zeros do not count, and the third component is beyond the target. -/
theorem compares_releases_of_short_target :
    IsRelease "010.02.7" [10, 2, 7] ∧ IsRelease "10.2" [10, 2] ∧ IsRelease "9.11" [9, 11] ∧
      compareTexts? "010.02.7" "10.2" = some .eq ∧ compareTexts? "9.11" "10.2" = some .lt := by
  have hlong : IsRelease "010.02.7" [10, 2, 7] := ⟨["010".toList, "02".toList, "7".toList], by decide, rfl, rfl⟩
  have htarget : IsRelease "10.2" [10, 2] := ⟨["10".toList, "2".toList], by decide, rfl, rfl⟩
  have hless : IsRelease "9.11" [9, 11] := ⟨["9".toList, "11".toList], by decide, rfl, rfl⟩
  obtain ⟨-, hequal⟩ := compares_releases hlong htarget (by decide)
  obtain ⟨hcompares, -⟩ := compares_releases hless htarget (by decide)
  obtain ⟨-, hcompares⟩ := hcompares (by decide)
  exact ⟨hlong, htarget, hless, hequal.mpr ⟨[7], rfl⟩, (hcompares .lt).mpr (.differ [] (by decide) [11] [2])⟩

end FlagEngine.Version
