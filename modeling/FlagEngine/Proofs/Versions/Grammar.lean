import FlagEngine.Version
import Mathlib.Data.Option.Basic

/-!
# The grammar of versions

A version is spelt as a core, that is one to three groups of digits with single dots between them, and perhaps
a separator with a suffix after it: `Version.Spelling`. A text has at most one such spelling,
`Version.Spelling.eq_of_chars_eq`, and is read as a version exactly if it has one and no white space in it. This
is `Version.accepts_grammar`.
-/

namespace FlagEngine.Version

/-- The digit groups of a core: one to three, none of them empty. -/
structure IsCore (groups : List (List Char)) : Prop where
  ne_nil : groups ≠ []
  length_le : groups.length ≤ 3
  group_ne_nil : ∀ g ∈ groups, g ≠ []
  isDigit : ∀ g ∈ groups, ∀ c ∈ g, c.isDigit = true

/-- The digit groups of a core and, perhaps, a separator with the suffix after it. -/
@[ext] structure Spelling where
  groups : List (List Char)
  ending : Option (Char × List Char)
  isCore : IsCore groups
  separator : ∀ e ∈ ending, e.1 = '-' ∨ e.1 = '+'
  suffix_ne_nil : ∀ e ∈ ending, e.2 ≠ []

namespace Spelling

/-- The groups with dots between them. -/
def core (w : Spelling) : List Char :=
  ['.'].intercalate w.groups

/-- The characters after the core. -/
def tail (w : Spelling) : List Char :=
  (w.ending.map fun e => e.1 :: e.2).getD []

def chars (w : Spelling) : List Char :=
  w.core ++ w.tail

/-- The version that is spelt. -/
def version (w : Spelling) : Version where
  core := w.groups
  suffix := w.ending.map fun e => if e.1 = '-' then .preRelease e.2 else .build e.2

end Spelling

/-! ## Cores -/

variable {cs : List Char} {groups : List (List Char)} {v : Version} {w w' : Spelling}

theorem splitAt_eq_splitOn (separator : Char) (cs : List Char) : splitAt separator cs = cs.splitOn separator := by
  induction cs with
  | nil => rfl
  | cons c cs ih =>
    rw [splitAt, List.splitOn_cons_eq_if_modifyHead, ih]
    by_cases h : c = separator
    · simp [h]
    · simp only [h, beq_iff_eq, if_false]
      cases hcs : cs.splitOn separator with
      | nil => exact absurd hcs (List.splitOn_ne_nil separator cs)
      | cons p ps => rfl

theorem isNumeral_iff : isNumeral cs = true ↔ cs ≠ [] ∧ ∀ c ∈ cs, c.isDigit = true := by
  simp [isNumeral]

theorem isCore_iff :
    IsCore groups ↔ groups ≠ [] ∧ groups.length ≤ 3 ∧ ∀ g ∈ groups, isNumeral g = true := by
  simp only [isNumeral_iff]
  exact ⟨fun h => ⟨h.ne_nil, h.length_le, fun g hg => ⟨h.group_ne_nil g hg, h.isDigit g hg⟩⟩,
    fun ⟨hne, hlength, hall⟩ => ⟨hne, hlength, fun g hg => (hall g hg).1, fun g hg => (hall g hg).2⟩⟩

instance : Decidable (IsCore groups) :=
  decidable_of_iff _ isCore_iff.symm

theorem IsCore.isNumeral (h : IsCore groups) : ∀ g ∈ groups, isNumeral g = true :=
  (isCore_iff.mp h).2.2

/-- A core is read as the groups that it consists of. -/
theorem core?_eq_some_iff : core? cs = some groups ↔ IsCore groups ∧ ['.'].intercalate groups = cs := by
  simp only [core?, splitAt_eq_splitOn, List.all_eq_true, Option.ite_none_right_eq_some, Option.some.injEq]
  constructor
  · rintro ⟨⟨hlength, hnumeral⟩, rfl⟩
    have hcore := isCore_iff.mpr ⟨List.splitOn_ne_nil '.' cs, hlength, hnumeral⟩
    exact ⟨hcore, List.intercalate_splitOn '.'⟩
  · rintro ⟨h, rfl⟩
    have hdot : ∀ g ∈ groups, '.' ∉ g := fun g hg hmem => absurd (h.isDigit g hg '.' hmem) (by decide)
    rw [List.splitOn_intercalate '.' hdot h.ne_nil]
    exact ⟨⟨h.length_le, h.isNumeral⟩, rfl⟩

theorem mem_intercalate {separator c : Char} (h : c ∈ [separator].intercalate groups) :
    c = separator ∨ ∃ g ∈ groups, c ∈ g := by
  induction groups with
  | nil => simp at h
  | cons g groups ih =>
    cases groups with
    | nil => exact .inr ⟨g, .head _, by simpa using h⟩
    | cons g' groups =>
      rw [List.intercalate_cons_cons, List.append_assoc, List.mem_append, List.mem_append,
        List.mem_singleton] at h
      rcases h with h | h | h
      · exact .inr ⟨g, .head _, h⟩
      · exact .inl h
      · exact (ih h).imp_right fun ⟨g, hg, hc⟩ => ⟨g, .tail _ hg, hc⟩

/-! ## Spellings -/

namespace Spelling

theorem mem_core {c : Char} (hc : c ∈ w.core) : c = '.' ∨ c.isDigit = true :=
  (mem_intercalate hc).imp_right fun ⟨g, hg, hc⟩ => w.isCore.isDigit g hg c hc

theorem not_isMark_core : ∀ c ∈ w.core, (!isMark c) = true := by
  intro c hc
  rw [Bool.not_eq_true', isMark, Bool.or_eq_false_iff, beq_eq_false_iff_ne, beq_eq_false_iff_ne]
  rcases mem_core hc with rfl | hdigit
  · decide
  · constructor <;> rintro rfl <;> revert hdigit <;> decide

theorem tail_of_none (h : w.ending = none) : w.tail = [] := by
  rw [tail, h]
  rfl

theorem tail_of_some {e : Char × List Char} (h : w.ending = some e) : w.tail = e.1 :: e.2 := by
  rw [tail, h]
  rfl

theorem ending_eq_of_tail_eq (h : w.tail = w'.tail) : w.ending = w'.ending := by
  unfold tail at h
  cases he : w.ending <;> cases he' : w'.ending <;> simp_all [Prod.ext_iff]

/-- What follows the core is empty or begins with a separator. -/
theorem isMark_head_tail (w : Spelling) : ∀ c ∈ w.tail.head?, isMark c = true := by
  intro c hc
  cases he : w.ending with
  | none =>
    rw [tail_of_none he] at hc
    cases hc
  | some e =>
    rw [tail_of_some he] at hc
    obtain rfl : e.1 = c := by simpa using hc
    simpa [isMark] using w.separator e he

theorem takeWhile_chars (w : Spelling) : (w.chars.takeWhile fun c => !isMark c) = w.core := by
  rw [chars, List.takeWhile_append_of_pos not_isMark_core]
  cases htail : w.tail with
  | nil => simp
  | cons c cs => simp [w.isMark_head_tail c (by simp [htail])]

theorem dropWhile_chars (w : Spelling) : (w.chars.dropWhile fun c => !isMark c) = w.tail := by
  rw [chars, List.dropWhile_append_of_pos not_isMark_core]
  cases htail : w.tail with
  | nil => rfl
  | cons c cs => simp [w.isMark_head_tail c (by simp [htail])]

/-- A text has at most one spelling. -/
theorem eq_of_chars_eq (h : w.chars = w'.chars) : w = w' := by
  have hcore : w.core = w'.core := by rw [← takeWhile_chars, h, takeWhile_chars]
  have htail : w.tail = w'.tail := by rw [← dropWhile_chars, h, dropWhile_chars]
  have hread : core? w'.core = some w.groups := core?_eq_some_iff.mpr ⟨w.isCore, hcore⟩
  have hread' : core? w'.core = some w'.groups := core?_eq_some_iff.mpr ⟨w'.isCore, rfl⟩
  exact Spelling.ext (Option.some.inj (hread.symm.trans hread')) (ending_eq_of_tail_eq htail)

end Spelling

/-! ## Reading -/

theorem parts_version (w : Spelling) : w.version.parts = w.groups ++ (w.ending.map Prod.snd).toList := by
  cases he : w.ending with
  | none => simp [Spelling.version, parts, he]
  | some e => by_cases hmark : e.1 = '-' <;> simp [Spelling.version, parts, he, hmark]

theorem isPreRelease_version : w.version.isPreRelease = true ↔ ∃ suffix, w.ending = some ('-', suffix) := by
  cases he : w.ending with
  | none => simp [Spelling.version, isPreRelease, he]
  | some e => by_cases hmark : e.1 = '-' <;> simp [Spelling.version, isPreRelease, he, hmark, Prod.ext_iff]

theorem ofChars?_chars (hblank : ∀ c ∈ w.chars, Text.isBlank c = false) : ofChars? w.chars = some w.version := by
  have hany : w.chars.any Text.isBlank = false := by simpa using hblank
  have hcore : core? w.core = some w.groups := core?_eq_some_iff.mpr ⟨w.isCore, rfl⟩
  rw [ofChars?, w.takeWhile_chars, w.dropWhile_chars, hcore, hany]
  cases he : w.ending with
  | none =>
    rw [Spelling.tail_of_none he, Spelling.version, he]
    rfl
  | some e =>
    have hsuffix := w.suffix_ne_nil e he
    rw [Spelling.tail_of_some he, Spelling.version, he]
    simp [hsuffix, guard]

theorem exists_spelling (h : ofChars? cs = some v) :
    (∀ c ∈ cs, Text.isBlank c = false) ∧ ∃ w : Spelling, w.chars = cs ∧ w.version = v := by
  simp only [ofChars?, Option.bind_eq_bind, Option.bind_eq_some_iff, Option.guard_eq_some'] at h
  obtain ⟨-, hblank, groups, hcore, h⟩ := h
  obtain ⟨hcore, heq⟩ := core?_eq_some_iff.mp hcore
  have hcs := @List.takeWhile_append_dropWhile _ (fun c => !isMark c) cs
  refine ⟨by simpa using hblank, ?_⟩
  -- the first separator ends the core, so that the suffix may hold others
  cases htail : cs.dropWhile fun c => !isMark c with
  | nil =>
    rw [htail, ← heq] at hcs
    rw [htail] at h
    exact ⟨⟨groups, none, hcore, nofun, nofun⟩, hcs, Option.some.inj h⟩
  | cons separator suffix =>
    have hseparator : isMark separator = true := by
      have hhead := List.head?_dropWhile_not (fun c => !isMark c) cs
      simpa [htail] using hhead
    rw [htail, ← heq] at hcs
    simp only [htail, Option.bind_eq_some_iff, Option.guard_eq_some'] at h
    obtain ⟨-, hsuffix, h⟩ := h
    refine ⟨⟨groups, some (separator, suffix), hcore, ?_, ?_⟩, hcs, Option.some.inj h⟩
    · rintro e ⟨⟩
      simpa [isMark] using hseparator
    · rintro e ⟨⟩
      exact hsuffix

/-- **Exactly the grammar is accepted.** A text is read as a version exactly if it has no white space and is a core,
or a core with a separator and a suffix. It is taken apart in one way only. The parts of the version are the groups
of the core and then the suffix, whatever stands in it, and a version with the separator `-` is a pre-release. -/
theorem accepts_grammar (s : String) :
    ((∃ v, ofChars? s.toList = some v) ↔
      (∀ c ∈ s.toList, Text.isBlank c = false) ∧ ∃ w : Spelling, w.chars = s.toList) ∧
    ∀ w : Spelling, w.chars = s.toList →
      (∀ w' : Spelling, w'.chars = s.toList → w' = w) ∧
      ∀ v, ofChars? s.toList = some v →
        v.parts = w.groups ++ (w.ending.map Prod.snd).toList ∧
        (v.isPreRelease = true ↔ ∃ suffix, w.ending = some ('-', suffix)) := by
  refine ⟨⟨?_, ?_⟩, fun w hw => ⟨fun w' hw' => ?_, fun v hv => ?_⟩⟩
  · rintro ⟨v, hv⟩
    obtain ⟨hblank, w, hw, -⟩ := exists_spelling hv
    exact ⟨hblank, w, hw⟩
  · rintro ⟨hblank, w, hw⟩
    rw [← hw] at hblank ⊢
    exact ⟨w.version, ofChars?_chars hblank⟩
  · exact Spelling.eq_of_chars_eq (hw'.trans hw.symm)
  · obtain ⟨-, w', hw', rfl⟩ := exists_spelling hv
    obtain rfl : w' = w := Spelling.eq_of_chars_eq (hw'.trans hw.symm)
    exact ⟨parts_version w', isPreRelease_version⟩

namespace Sample

/-- Separators and dots inside the suffix. -/
def longSuffix : Spelling where
  groups := ["1".toList, "02".toList]
  ending := some ('-', "+b.-c".toList)
  isCore := by decide
  separator := by simp
  suffix_ne_nil := by simp

end Sample

theorem accepts_grammar_of_long_suffix :
    Sample.longSuffix.chars = "1.02-+b.-c".toList ∧
      ∃ v, ofChars? "1.02-+b.-c".toList = some v ∧
        v.parts = ["1".toList, "02".toList, "+b.-c".toList] ∧ v.isPreRelease = true := by
  have hchars : Sample.longSuffix.chars = "1.02-+b.-c".toList := by decide
  have hany : "1.02-+b.-c".toList.any Text.isBlank = false := by decide
  have hblank : ∀ c ∈ "1.02-+b.-c".toList, Text.isBlank c = false := fun c hc =>
    Bool.eq_false_iff.mpr (List.any_eq_false.mp hany c hc)
  obtain ⟨haccepts, hreads⟩ := accepts_grammar "1.02-+b.-c"
  obtain ⟨v, hv⟩ := haccepts.mpr ⟨hblank, Sample.longSuffix, hchars⟩
  obtain ⟨-, hparts⟩ := hreads Sample.longSuffix hchars
  exact ⟨hchars, v, hv, (hparts v hv).1, (hparts v hv).2.mpr ⟨_, rfl⟩⟩

example :
    ["-", ".", "+", "+test", " ", "2 .3. 0", "2.", ".2.2", "2..1", "3.7.2.2", "1-", "1+"].all
      (fun s => ofChars? s.toList = none) := by
  decide

end FlagEngine.Version
