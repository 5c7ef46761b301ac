import FlagEngine.Project

/-!
# What projects find

What a project finds by an id or by a key stands in its datafile and has this id or this key. A decision
for a flag can be forced to the first variation of the flag with a key: `Project.flagVariation?_of_flag?`.
-/

namespace FlagEngine

theorem Index.of_getElem?_lastBy {α : Type} {key : α → String} {values : List α} {k : String} {a : α}
    (h : (lastBy key values)[k]? = some a) : a ∈ values ∧ key a = k := by
  rw [getElem?_lastBy, List.findRev?_eq_find?_reverse] at h
  have hmem := List.mem_of_find?_eq_some h
  have hkey := List.find?_some h
  exact ⟨List.mem_reverse.mp hmem, beq_iff_eq.mp hkey⟩

theorem Index.exists_getElem?_lastBy {α : Type} (key : α → String) {values : List α} {a : α} (ha : a ∈ values) :
    ∃ b, (lastBy key values)[key a]? = some b := by
  rw [← Option.isSome_iff_exists, getElem?_lastBy, List.findRev?_eq_find?_reverse, List.find?_isSome]
  exact ⟨a, List.mem_reverse.mpr ha, beq_self_eq_true _⟩

theorem Index.getElem?_ofLast_map {α β : Type} (key : α → String) (f : α → β) (values : List α)
    (k : String) :
    (ofLast (values.map fun a => (key a, f a)))[k]? = (lastBy key values)[k]?.map f := by
  simp [getElem?_ofLast, getElem?_lastBy, ← List.map_reverse, List.find?_map, Function.comp_def]

/-- The variations of a flag's experiments and then of the rules of its rollout, which goes by the id as it
is written. -/
def Flag.variations (p : Project) (flag : Flag) : List Variation :=
  Project.variationsOf p.experiments p.rollouts flag

namespace Project

variable {d : Datafile}

theorem of_experiment? {id : String} {e : Experiment} (h : (ofDatafile d).experiment? id = some e) :
    e ∈ d.allExperiments ∧ e.id = id :=
  Index.of_getElem?_lastBy h

/-- An experiment that is said to be in a group stands in a group of the datafile. -/
theorem of_groupIds {id groupId : String} (h : (ofDatafile d).groupIds[id]? = some groupId) :
    ∃ g ∈ d.groups, g.id = groupId ∧ ∃ e ∈ g.experiments, e.id = id := by
  have hentry : (Index.ofLast d.memberships)[id]? = some groupId := h
  rw [Index.getElem?_ofLast, List.findRev?_eq_find?_reverse] at hentry
  obtain ⟨entry, hfind, rfl⟩ := Option.map_eq_some_iff.mp hentry
  have hid := List.find?_some hfind
  obtain ⟨g, hg, hmem⟩ := List.mem_flatMap.mp (List.mem_reverse.mp (List.mem_of_find?_eq_some hfind))
  obtain ⟨e, he, rfl⟩ := List.mem_map.mp hmem
  exact ⟨g, hg, rfl, e, he, beq_iff_eq.mp hid⟩

theorem exists_experiment?_of_groupOf? {id : String} {g : Group} (h : (ofDatafile d).groupOf? id = some g) :
    ∃ e, (ofDatafile d).experiment? id = some e := by
  obtain ⟨groupId, hgroupId, _⟩ := Option.bind_eq_some_iff.mp h
  obtain ⟨g', hg', _, e, he, rfl⟩ := of_groupIds hgroupId
  have hmem : e ∈ d.allExperiments := List.mem_append_right _ (List.mem_flatMap_of_mem hg' he)
  exact Index.exists_getElem?_lastBy (·.id) hmem

theorem of_flag? {key : String} {flag : Flag} (h : (ofDatafile d).flag? key = some flag) :
    flag ∈ d.flags ∧ flag.key = key :=
  Index.of_getElem?_lastBy h

/-- What a decision for a flag can be forced to: the first variation of the flag with the key. -/
theorem flagVariation?_of_flag? {key : String} {flag : Flag} (h : (ofDatafile d).flag? key = some flag)
    (k : String) :
    (ofDatafile d).flagVariation? flag.key k
      = (flag.variations (ofDatafile d)).find? fun v => v.key == k := by
  have hflag : (Index.lastBy (·.key) d.flags)[flag.key]? = some flag := by
    rw [(of_flag? h).2]
    exact h
  unfold flagVariation?
  simp only [ofDatafile]
  rw [Index.getElem?_ofLast_map, hflag]
  exact Index.getElem?_firstBy ..

end Project

end FlagEngine
