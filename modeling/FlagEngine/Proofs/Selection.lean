import FlagEngine.Proofs.Rules
import FlagEngine.Proofs.Scans

/-!
# Selecting a holdout

A user of a flag is in the first holdout, in the order of the project, that takes them. What it means to be
taken is told field by field in `Holdout.Takes`, and that the first one counts by `Project.selects_holdout`,
together with the fact that the holdouts of other flags leave no trace in a selection.
-/

namespace FlagEngine

namespace Holdout

/-- The holdout takes the user of the flag with the given id into the variation. -/
structure Takes (sharder : Sharder) (p : Project) (flagId userId : String) (attributes : Attributes)
    (h : Holdout) (v : Variation) : Prop where
  applies : h.appliesTo flagId = true
  running : h.status = .running
  variations : h.variations ≠ []
  traffic : h.traffic ≠ []
  /-- Its audience is true, and not merely unknown. -/
  covers : h.rule.Covers p attributes
  /-- Its ranges allocate the bucket value, salted with its own id, to the id of the variation. -/
  allocated : Traffic.allocate? h.traffic (sharder.value (attributes.bucketingId userId) h.id) = some v.id
  /-- Of several variations with this id, the first one counts. -/
  variation : IsFirst (·.id = v.id) h.variations v

variable {sharder : Sharder} {p : Project} {flagId userId bucketingId : String} {attributes : Attributes}
  {h : Holdout} {hs : List Holdout} {v : Variation}

theorem isRunning_rule : h.rule.isRunning = true ↔ h.status = .running :=
  beq_iff_eq

theorem allocates_rule :
    h.rule.Allocates sharder bucketingId v ↔
      Traffic.allocate? h.traffic (sharder.value bucketingId h.id) = some v.id ∧
        IsFirst (·.id = v.id) h.variations v := by
  have hfirst (id : String) : h.rule.variationById? id = some v ↔ IsFirst (·.id = id) h.variations v := by
    rw [Rule.variationById?, find?_eq_some_iff_isFirst]
    simp only [beq_iff_eq]
    rfl
  constructor
  · rintro ⟨id, hid, hv⟩
    rw [hfirst] at hv
    obtain rfl : v.id = id := by
      obtain ⟨-, -, -, hv, -⟩ := hv
      exact hv
    exact ⟨hid, hv⟩
  · rintro ⟨hid, hv⟩
    exact ⟨v.id, hid, (hfirst v.id).mpr hv⟩

theorem takes_iff :
    h.Takes sharder p flagId userId attributes v ↔
      h.appliesTo flagId = true ∧ (h.serve? sharder p userId attributes).value = some v := by
  rw [serve?_eq_some, isRunning_rule]
  constructor
  · intro ht
    exact ⟨ht.applies, ht.running, ht.covers, allocates_rule.mpr ⟨ht.allocated, ht.variation⟩⟩
  · rintro ⟨happlies, hrunning, hcovers, ha⟩
    obtain ⟨hallocated, hvariation⟩ := allocates_rule.mp ha
    exact
      { applies := happlies
        running := hrunning
        variations := List.ne_nil_of_mem ha.mem
        traffic := ha.traffic_ne_nil
        covers := hcovers
        allocated := hallocated
        variation := hvariation }

/-- What the holdout contributes to a search. -/
def take? (sharder : Sharder) (p : Project) (flagId userId : String) (attributes : Attributes) (h : Holdout) :
    Option (Holdout × Variation) :=
  if h.appliesTo flagId then (h.serve? sharder p userId attributes).value.map (h, ·) else none

theorem take?_eq_some {r : Holdout × Variation} :
    h.take? sharder p flagId userId attributes = some r ↔
      h = r.1 ∧ h.Takes sharder p flagId userId attributes r.2 := by
  rw [take?, takes_iff]
  split <;> cases (h.serve? sharder p userId attributes).value <;> simp_all [Prod.ext_iff]

theorem take?_eq_none :
    h.take? sharder p flagId userId attributes = none ↔
      ¬ ∃ v, h.Takes sharder p flagId userId attributes v := by
  rw [Option.eq_none_iff_forall_ne_some]
  simp only [ne_eq, take?_eq_some]
  exact ⟨fun hr ⟨v, hv⟩ => hr (h, v) ⟨rfl, hv⟩, fun hv r hr => hv ⟨r.2, hr.2⟩⟩

theorem value_first? :
    (first? sharder p flagId userId attributes hs).value
      = hs.findSome? (take? sharder p flagId userId attributes) := by
  induction hs with
  | nil => rfl
  | cons h hs ih =>
    rw [first?, List.findSome?_cons, take?]
    split
    · rw [Reasoned.value_bind]
      cases (h.serve? sharder p userId attributes).value with
      | none => exact ih
      | some v => rfl
    · exact ih

theorem value_first?_eq_some :
    (first? sharder p flagId userId attributes hs).value = some (h, v) ↔
      h.Takes sharder p flagId userId attributes v ∧
        IsFirst (fun h => ∃ v, h.Takes sharder p flagId userId attributes v) hs h := by
  rw [value_first?, List.findSome?_eq_some_iff]
  simp only [take?_eq_some, take?_eq_none]
  constructor
  · rintro ⟨before, x, after, rfl, ⟨rfl, ht⟩, hbefore⟩
    exact ⟨ht, before, after, rfl, ⟨v, ht⟩, hbefore⟩
  · rintro ⟨ht, before, after, rfl, -, hbefore⟩
    exact ⟨before, h, after, rfl, ⟨rfl, ht⟩, hbefore⟩

/-- Only the holdouts that apply are looked at. -/
theorem first?_filter :
    first? sharder p flagId userId attributes (hs.filter (·.appliesTo flagId))
      = first? sharder p flagId userId attributes hs := by
  induction hs with
  | nil => rfl
  | cons h hs ih =>
    rw [List.filter_cons]
    split
    · next happlies => rw [first?, first?, if_pos happlies, if_pos happlies, ih]
    · next happlies => rw [first?, if_neg happlies, ih]

/-- Whom a holdout serves does not depend on the other holdouts. -/
theorem first?_with_holdouts (hs' : List Holdout) :
    first? sharder { p with holdouts := hs' } flagId userId attributes hs
      = first? sharder p flagId userId attributes hs := by
  have hserve (h : Holdout) :
      h.serve? sharder { p with holdouts := hs' } userId attributes
        = h.serve? sharder p userId attributes := rfl
  induction hs with
  | nil => rfl
  | cons h hs ih => rw [first?, first?, hserve, ih]

end Holdout

/-- **The first holdout that takes the user is selected**, and its variation with it; no other one ever is. A
project whose holdouts for the flag are the same ones in the same order selects alike and for the same reasons:
holdouts that do not apply to the flag may be inserted, deleted and moved about at will. -/
theorem Project.selects_holdout (sharder : Sharder) (p : Project) (flag : Flag) (userId : String)
    (attributes : Attributes) :
    (∀ h v, (p.holdout? sharder flag userId attributes).value = some (h, v) ↔
      h.Takes sharder p flag.id userId attributes v ∧
        IsFirst (fun h => ∃ v, h.Takes sharder p flag.id userId attributes v) p.holdouts h) ∧
    ∀ hs : List Holdout, hs.filter (·.appliesTo flag.id) = p.holdouts.filter (·.appliesTo flag.id) →
      { p with holdouts := hs }.holdout? sharder flag userId attributes
        = p.holdout? sharder flag userId attributes := by
  refine ⟨fun h v => Holdout.value_first?_eq_some, fun hs hsame => ?_⟩
  calc { p with holdouts := hs }.holdout? sharder flag userId attributes
    _ = Holdout.first? sharder p flag.id userId attributes hs := Holdout.first?_with_holdouts hs
    _ = Holdout.first? sharder p flag.id userId attributes (hs.filter (·.appliesTo flag.id)) :=
        Holdout.first?_filter.symm
    _ = Holdout.first? sharder p flag.id userId attributes (p.holdouts.filter (·.appliesTo flag.id)) := by
        rw [hsame]
    _ = p.holdout? sharder flag userId attributes := Holdout.first?_filter

namespace Holdout.Takes.Sample

def off : Variation :=
  { (default : Variation) with
    id := "v"
    key := "off" }

/-- A holdout for all flags that takes the users with a bucket value below the given end. -/
def holdout (id : String) (endOfRange : UInt32) : Holdout :=
  { (default : Holdout) with
    id
    key := id
    status := .running
    variations := [off]
    traffic := [⟨"v", endOfRange⟩] }

/-- A holdout of another flag. -/
def foreign : Holdout :=
  { holdout "foreign" 10000 with
    included := ["2"] }

def flag : Flag :=
  { (default : Flag) with
    id := "1"
    key := "f" }

/-- Of those that apply to the flag, the first one has no traffic for the user. -/
def project : Project :=
  .ofDatafile { (default : Datafile) with
    holdouts := [foreign, holdout "narrow" 1000, holdout "wide" 10000, holdout "late" 10000] }

end Holdout.Takes.Sample

open Holdout.Takes in
/-- The holdout of the other flag would take the user first if it applied, and can stand anywhere. -/
theorem Project.selects_holdout_of_four :
    let select (p : Project) := p.holdout? (fun _ => 4000) Sample.flag "u" ∅
    let moved := [Sample.holdout "narrow" 1000, Sample.foreign, Sample.holdout "wide" 10000,
      Sample.holdout "late" 10000, Sample.foreign]
    (Sample.holdout "wide" 10000).Takes (fun _ => 4000) Sample.project "1" "u" ∅ Sample.off ∧
      (select Sample.project).value = some (Sample.holdout "wide" 10000, Sample.off) ∧
      select { Sample.project with holdouts := moved } = select Sample.project := by
  intro select moved
  have hvalue : (select Sample.project).value = some (Sample.holdout "wide" 10000, Sample.off) := rfl
  obtain ⟨hselects, hothers⟩ := selects_holdout (fun _ => 4000) Sample.project Sample.flag "u" ∅
  refine ⟨((hselects _ _).mp hvalue).1, hvalue, hothers moved ?_⟩
  rfl

end FlagEngine
