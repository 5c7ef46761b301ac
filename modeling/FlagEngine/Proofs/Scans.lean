import FlagEngine.Proofs.Projects

/-!
# Scans of datafiles

What a project finds by an id or by a key, a plain scan through the lists of its datafile finds as well: the
last element with the id or the key, and of a flag's variations the first. `Project.IsScanOf` says so of every
look-up, and `Project.scans_datafile` of every datafile, whatever is repeated in it.
-/

namespace FlagEngine

variable {α β : Type} {P : α → Prop} {xs ys : List α} {a b : α}

/-! ## The last and the first of a list -/

/-- The last element of the list with the property. -/
def IsLast (P : α → Prop) (xs : List α) (a : α) : Prop :=
  ∃ before after, xs = before ++ a :: after ∧ P a ∧ ∀ b ∈ after, ¬ P b

/-- The first element of the list with the property. -/
def IsFirst (P : α → Prop) (xs : List α) (a : α) : Prop :=
  ∃ before after, xs = before ++ a :: after ∧ P a ∧ ∀ b ∈ before, ¬ P b

theorem find?_eq_some_iff_isFirst {test : α → Bool} :
    xs.find? test = some a ↔ IsFirst (test · = true) xs a := by
  rw [List.find?_eq_some_iff_append]
  constructor
  · rintro ⟨ha, before, after, hxs, hbefore⟩
    exact ⟨before, after, hxs, ha, fun b hb => by simpa using hbefore b hb⟩
  · rintro ⟨before, after, hxs, ha, hbefore⟩
    exact ⟨ha, before, after, hxs, fun b hb => by simpa using hbefore b hb⟩

theorem isLast_iff_isFirst_reverse : IsLast P xs a ↔ IsFirst P xs.reverse a := by
  constructor
  · rintro ⟨before, after, rfl, ha, hafter⟩
    exact ⟨after.reverse, before.reverse, by simp, ha, by simpa using hafter⟩
  · rintro ⟨before, after, hxs, ha, hbefore⟩
    refine ⟨after.reverse, before.reverse, ?_, ha, by simpa using hbefore⟩
    rw [List.reverse_eq_iff.mp hxs]
    simp

theorem findRev?_eq_some_iff_isLast {test : α → Bool} :
    xs.findRev? test = some a ↔ IsLast (test · = true) xs a := by
  rw [List.findRev?_eq_find?_reverse, find?_eq_some_iff_isFirst, isLast_iff_isFirst_reverse]

namespace IsLast

theorem mem (h : IsLast P xs a) : a ∈ xs := by
  obtain ⟨before, after, rfl, -⟩ := h
  simp

theorem holds (h : IsLast P xs a) : P a := by
  obtain ⟨-, -, -, ha, -⟩ := h
  exact ha

theorem not_nil : ¬ IsLast P [] a :=
  fun h => nomatch h.mem

theorem cons_iff : IsLast P (b :: xs) a ↔ IsLast P xs a ∨ (∀ x ∈ xs, ¬ P x) ∧ P b ∧ b = a := by
  constructor
  · rintro ⟨_ | ⟨_, before⟩, after, hxs, ha, hafter⟩
    · cases hxs
      exact .inr ⟨hafter, ha, rfl⟩
    · cases hxs
      exact .inl ⟨before, after, rfl, ha, hafter⟩
  · rintro (⟨before, after, rfl, ha, hafter⟩ | ⟨hxs, hb, rfl⟩)
    · exact ⟨b :: before, after, rfl, ha, hafter⟩
    · exact ⟨[], xs, rfl, hb, hxs⟩

/-- There is a last one if there is one at all. -/
theorem exists_iff : (∃ a, IsLast P xs a) ↔ ∃ a ∈ xs, P a := by
  constructor
  · rintro ⟨a, h⟩
    exact ⟨a, h.mem, h.holds⟩
  · induction xs with
    | nil => rintro ⟨_, ⟨⟩, -⟩
    | cons x xs ih =>
      rintro ⟨a, ha, hP⟩
      by_cases hxs : ∃ a ∈ xs, P a
      · obtain ⟨b, hb⟩ := ih hxs
        exact ⟨b, cons_iff.mpr (.inl hb)⟩
      · have hax : a = x := (List.mem_cons.mp ha).resolve_right fun ha => hxs ⟨a, ha, hP⟩
        exact ⟨x, cons_iff.mpr (.inr ⟨fun b hb hPb => hxs ⟨b, hb, hPb⟩, hax ▸ hP, rfl⟩)⟩

/-- Of two lists in sequence, the first has a say if nothing in the second has the property. -/
theorem append_iff : IsLast P (xs ++ ys) a ↔ IsLast P ys a ∨ (∀ y ∈ ys, ¬ P y) ∧ IsLast P xs a := by
  induction xs with
  | nil => simp [not_nil]
  | cons x xs ih =>
    rw [List.cons_append, cons_iff, cons_iff, ih]
    simp only [List.mem_append]
    grind

theorem map_iff {f : α → β} {Q : β → Prop} {b : β} :
    IsLast Q (xs.map f) b ↔ ∃ a, IsLast (Q ∘ f) xs a ∧ f a = b := by
  induction xs with
  | nil => simp [not_nil]
  | cons x xs ih =>
    rw [List.map_cons, cons_iff, ih]
    simp only [cons_iff, List.forall_mem_map, Function.comp_apply]
    grind

theorem flatMap_iff {f : α → List β} {Q : β → Prop} {b : β} :
    IsLast Q (xs.flatMap f) b ↔ ∃ a, IsLast (fun a => ∃ b ∈ f a, Q b) xs a ∧ IsLast Q (f a) b := by
  induction xs with
  | nil => simp [not_nil]
  | cons x xs ih =>
    rw [List.flatMap_cons, append_iff, ih]
    simp only [cons_iff, List.mem_flatMap]
    constructor
    · rintro (⟨a, ha, hb⟩ | ⟨hxs, hb⟩)
      · exact ⟨a, .inl ha, hb⟩
      · refine ⟨x, .inr ⟨?_, ?_, rfl⟩, hb⟩
        · rintro a ha ⟨c, hc, hQ⟩
          exact hxs c ⟨a, ha, hc⟩ hQ
        · exact ⟨b, hb.mem, hb.holds⟩
    · rintro ⟨a, ha | ⟨hxs, hx, rfl⟩, hb⟩
      · exact .inl ⟨a, ha, hb⟩
      · refine .inr ⟨?_, hb⟩
        rintro c ⟨a, ha, hc⟩ hQ
        exact hxs a ha ⟨c, hc, hQ⟩

theorem toList_iff {o : Option α} : IsLast P o.toList a ↔ o = some a ∧ P a := by
  cases o with
  | none => simp [not_nil]
  | some b =>
    rw [Option.toList_some, cons_iff]
    simp only [not_nil, false_or]
    grind

end IsLast

/-! ## Indices -/

namespace Index

variable {key : α → String} {values : List α} {k : String}

theorem getElem?_lastBy_eq_some : (lastBy key values)[k]? = some a ↔ IsLast (key · = k) values a := by
  simp only [getElem?_lastBy, findRev?_eq_some_iff_isLast, beq_iff_eq]

theorem getElem?_firstBy_eq_some : (firstBy key values)[k]? = some a ↔ IsFirst (key · = k) values a := by
  simp only [getElem?_firstBy, find?_eq_some_iff_isFirst, beq_iff_eq]

theorem getElem?_ofLast_eq_some {entries : List (String × α)} :
    (ofLast entries)[k]? = some a ↔ IsLast (·.1 = k) entries (k, a) := by
  simp only [getElem?_ofLast, Option.map_eq_some_iff, findRev?_eq_some_iff_isLast, beq_iff_eq]
  constructor
  · rintro ⟨⟨k', a'⟩, h, rfl⟩
    obtain rfl : k' = k := h.holds
    exact h
  · intro h
    exact ⟨_, h, rfl⟩

end Index

/-! ## Projects -/

/-- The project finds in the datafile what a plain scan finds. -/
structure Project.IsScanOf (p : Project) (d : Datafile) : Prop where
  /-- Experiments are those of the project, followed by those of the groups. -/
  experiment? (id : String) (e : Experiment) : p.experiment? id = some e ↔
    IsLast (·.id = id) (d.experiments ++ d.groups.flatMap (·.experiments)) e
  /-- A key stands for the id that comes with it last. -/
  experimentByKey? (key : String) (e : Experiment) : p.experimentByKey? key = some e ↔
    ∃ named, IsLast (·.key = key) (d.experiments ++ d.groups.flatMap (·.experiments)) named ∧
      p.experiment? named.id = some e
  /-- The group is found by the id of the last one that lists the experiment. It comes without its
  experiments. -/
  groupOf? (experimentId : String) (g : Group) : p.groupOf? experimentId = some g ↔
    ∃ lister, IsLast (fun g => ∃ e ∈ g.experiments, e.id = experimentId) d.groups lister ∧
      ∃ found, IsLast (·.id = lister.id) d.groups found ∧ g = { found with experiments := [] }
  flag? (key : String) (flag : Flag) : p.flag? key = some flag ↔ IsLast (·.key = key) d.flags flag
  /-- Typed audiences come before all others. -/
  audience? (id : String) (audience : Audience) : p.audience? id = some audience ↔
    IsLast (·.id = id) d.typedAudiences audience ∨
      (∀ typed ∈ d.typedAudiences, typed.id ≠ id) ∧ IsLast (·.id = id) d.audiences audience
  attributeName? (id name : String) : p.attributeName? id = some name ↔
    ∃ a, IsLast (·.id = id) d.attributes a ∧ a.key = name
  rollout? (id : String) (rollout : Rollout) : p.rollout? id = some rollout ↔
    IsLast (·.id = id) d.rollouts rollout
  /-- The variations of a flag's experiments, and then those of the rules of the rollout with exactly its
  rollout id. -/
  flagVariation? (flagKey key : String) (v : Variation) : p.flagVariation? flagKey key = some v ↔
    ∃ flag, IsLast (·.key = flagKey) d.flags flag ∧
      IsFirst (·.key = key)
        ((flag.experimentIds.filterMap p.experiment?).flatMap (·.variations)
          ++ ((p.rollout? flag.rolloutId).toList.flatMap (·.rules)).flatMap (·.variations)) v
  flags : p.flags = d.flags
  holdouts : p.holdouts = d.holdouts

namespace Project

open Index

variable {d : Datafile}

/-- An experiment is in the last group that lists it. -/
theorem getElem?_groupIds_eq_some {experimentId groupId : String} :
    (ofDatafile d).groupIds[experimentId]? = some groupId ↔
      ∃ lister, IsLast (fun g : Group => ∃ e ∈ g.experiments, e.id = experimentId) d.groups lister ∧
        lister.id = groupId := by
  have hentries : (Index.ofLast d.memberships)[experimentId]? = some groupId ↔ _ :=
    getElem?_ofLast_eq_some
  have hlists (g : Group) :
      (∃ entry ∈ g.experiments.map fun e => (e.id, g.id), entry.1 = experimentId) ↔
        ∃ e ∈ g.experiments, e.id = experimentId := by
    constructor
    · rintro ⟨_, hmem, rfl⟩
      obtain ⟨e, he, rfl⟩ := List.mem_map.mp hmem
      exact ⟨e, he, rfl⟩
    · rintro ⟨e, he, rfl⟩
      exact ⟨_, List.mem_map_of_mem he, rfl⟩
  refine hentries.trans ?_
  simp only [Datafile.memberships, IsLast.flatMap_iff, IsLast.map_iff, hlists, Prod.mk.injEq]
  refine exists_congr fun lister => and_congr_right fun hlister => ?_
  constructor
  · rintro ⟨e, -, -, hgroup⟩
    exact hgroup
  · rintro rfl
    obtain ⟨e, he⟩ := IsLast.exists_iff.mpr hlister.holds
    exact ⟨e, he, he.holds, rfl⟩

theorem groupOf?_eq_some {experimentId : String} {g : Group} :
    (ofDatafile d).groupOf? experimentId = some g ↔
      ∃ lister, IsLast (fun g => ∃ e ∈ g.experiments, e.id = experimentId) d.groups lister ∧
        ∃ found, IsLast (·.id = lister.id) d.groups found ∧ g = { found with experiments := [] } := by
  have hgroups (groupId : String) : (ofDatafile d).groups[groupId]? = some g ↔
      ∃ found, IsLast (·.id = groupId) d.groups found ∧ { found with experiments := [] } = g :=
    getElem?_lastBy_eq_some.trans IsLast.map_iff
  unfold groupOf?
  simp only [Option.bind_eq_some_iff, getElem?_groupIds_eq_some, hgroups]
  constructor
  · rintro ⟨_, ⟨lister, hlister, rfl⟩, found, hfound, hg⟩
    exact ⟨lister, hlister, found, hfound, hg.symm⟩
  · rintro ⟨lister, hlister, found, hfound, hg⟩
    exact ⟨_, ⟨lister, hlister, rfl⟩, found, hfound, hg.symm⟩

theorem experimentByKey?_eq_some {key : String} {e : Experiment} :
    (ofDatafile d).experimentByKey? key = some e ↔
      ∃ named, IsLast (·.key = key) d.allExperiments named ∧
        (ofDatafile d).experiment? named.id = some e := by
  have hids (id : String) : (ofDatafile d).experimentIds[key]? = some id ↔
      ∃ named, IsLast (·.key = key) d.allExperiments named ∧ named.id = id := by
    have hmap : (ofDatafile d).experimentIds[key]? = (lastBy (·.key) d.allExperiments)[key]?.map (·.id) :=
      getElem?_ofLast_map ..
    simp only [hmap, Option.map_eq_some_iff, getElem?_lastBy_eq_some]
  unfold experimentByKey?
  simp only [Option.bind_eq_some_iff, hids]
  constructor
  · rintro ⟨_, ⟨named, hnamed, rfl⟩, he⟩
    exact ⟨named, hnamed, he⟩
  · rintro ⟨named, hnamed, he⟩
    exact ⟨_, ⟨named, hnamed, rfl⟩, he⟩

theorem flagVariation?_eq_some {flagKey key : String} {v : Variation} :
    (ofDatafile d).flagVariation? flagKey key = some v ↔
      ∃ flag, IsLast (·.key = flagKey) d.flags flag ∧
        IsFirst (·.key = key) (flag.variations (ofDatafile d)) v := by
  have hmap : (ofDatafile d).flagVariations[flagKey]?
      = (lastBy (·.key) d.flags)[flagKey]?.map fun flag => firstBy (·.key) (flag.variations (ofDatafile d)) :=
    getElem?_ofLast_map ..
  unfold flagVariation?
  rw [hmap]
  simp only [Option.bind_map, Option.bind_eq_some_iff, getElem?_lastBy_eq_some, Function.comp_apply,
    getElem?_firstBy_eq_some]

theorem isScanOf_ofDatafile (d : Datafile) : (ofDatafile d).IsScanOf d where
  experiment? _ _ := getElem?_lastBy_eq_some
  experimentByKey? _ _ := experimentByKey?_eq_some
  groupOf? _ _ := groupOf?_eq_some
  flag? _ _ := getElem?_lastBy_eq_some
  audience? _ _ := getElem?_lastBy_eq_some.trans IsLast.append_iff
  attributeName? id name := by
    have hmap : (ofDatafile d).attributeName? id = (lastBy (·.id) d.attributes)[id]?.map (·.key) :=
      getElem?_ofLast_map ..
    simp only [hmap, Option.map_eq_some_iff, getElem?_lastBy_eq_some]
  rollout? _ _ := getElem?_lastBy_eq_some
  flagVariation? _ _ _ := flagVariation?_eq_some
  flags := rfl
  holdouts := rfl

/-- **The compiled indices agree with plain scans.** Whatever ids and keys are repeated in a datafile, every
look-up in its project finds what a scan of the datafile finds. The rules of rollouts are not found among the
experiments: they have no part in what is found there by an id or by a key. -/
theorem scans_datafile (d : Datafile) :
    (ofDatafile d).IsScanOf d ∧
      (∀ rollout ∈ d.rollouts, ∀ rule ∈ rollout.rules,
        rule ∉ d.experiments ++ d.groups.flatMap (·.experiments) →
          (∀ id, (ofDatafile d).experiment? id ≠ some rule) ∧
            ∀ key, (ofDatafile d).experimentByKey? key ≠ some rule) ∧
      ∀ rollouts, (ofDatafile { d with rollouts }).experiment? = (ofDatafile d).experiment? ∧
        (ofDatafile { d with rollouts }).experimentByKey? = (ofDatafile d).experimentByKey? := by
  have hscan := isScanOf_ofDatafile d
  refine ⟨hscan, fun rollout _ rule _ hrule => ?_, fun _ => ⟨rfl, rfl⟩⟩
  have hid (id : String) : (ofDatafile d).experiment? id ≠ some rule := fun h =>
    hrule ((hscan.experiment? id rule).mp h).mem
  refine ⟨hid, fun key h => ?_⟩
  obtain ⟨named, -, h⟩ := (hscan.experimentByKey? key rule).mp h
  exact hid named.id h

end Project

end FlagEngine
