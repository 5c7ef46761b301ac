import FlagEngine.Proofs.Extension
import FlagEngine.Proofs.Projects
import FlagEngine.Proofs.Transcripts
import FlagEngine.Services

/-!
# Growing datafiles

Things with new names may be appended to a datafile. Its project then finds the same as before by each of the
old names, `Datafile.extendedBy_grow`, and so the old flags are decided as before:
`Flag.undisturbed_by_growth`.
-/

namespace FlagEngine

/-! ## Indices -/

namespace Index

variable {α : Type} {k : String}

/-- Only the entries with the key count. -/
theorem getElem?_ofLast_congr {entries entries' : List (String × α)}
    (h : entries.filter (·.1 == k) = entries'.filter (·.1 == k)) :
    (ofLast entries)[k]? = (ofLast entries')[k]? := by
  simp only [getElem?_ofLast, List.findRev?_eq_find?_reverse, ← List.head?_filter, List.filter_reverse, h]

theorem getElem?_lastBy_congr {key : α → String} {values values' : List α}
    (h : values.filter (key · == k) = values'.filter (key · == k)) :
    (lastBy key values)[k]? = (lastBy key values')[k]? := by
  refine getElem?_ofLast_congr ?_
  rw [List.filter_map, List.filter_map]
  exact congrArg _ h

end Index

namespace Datafile

/-- The datafile with the things of another one appended to its lists. What is no list is taken from the other
one. -/
def grow (d more : Datafile) : Datafile :=
  { more with
    experiments := d.experiments ++ more.experiments
    groups := d.groups ++ more.groups
    flags := d.flags ++ more.flags
    rollouts := d.rollouts ++ more.rollouts
    attributes := d.attributes ++ more.attributes
    audiences := d.audiences ++ more.audiences
    typedAudiences := d.typedAudiences ++ more.typedAudiences
    holdouts := d.holdouts ++ more.holdouts }

/-- The ids that things are found by, and the keys of flags. -/
def declared (d : Datafile) : List String :=
  List.flatten [d.allExperiments.map (·.id), d.groups.map (·.id), d.flags.map (·.id), d.flags.map (·.key),
    d.rollouts.map (·.id), d.attributes.map (·.id), (d.audiences ++ d.typedAudiences).map (·.id)]

/-- The names that are looked up when the flags of the datafile are decided. -/
def names (d : Datafile) : List String :=
  List.flatten [d.allExperiments.flatMap (·.names), d.groups.flatMap (·.names), d.flags.flatMap (·.names),
    d.rollouts.flatMap (·.audiences), d.holdouts.flatMap (·.rule.audiences)]

/-- The things are new to a datafile: no name of the datafile is one of theirs, and their holdouts are limited
to flags among them. -/
structure IsNewTo (more d : Datafile) : Prop where
  fresh : ∀ name ∈ more.declared, name ∉ d.names
  confined : ∀ h ∈ more.holdouts, h.included ≠ [] ∧
    ∀ flagId ∈ h.included, flagId ∈ more.flags.map (·.id)

variable {d more : Datafile}

/-! ## Old names -/

theorem names_subset_of_experiment {e : Experiment} (he : e ∈ d.allExperiments) : e.names ⊆ d.names :=
  fun _ hname => List.mem_flatten_of_mem (by simp) (List.mem_flatMap_of_mem he hname)

theorem names_subset_of_group {g : Group} (hg : g ∈ d.groups) : g.names ⊆ d.names :=
  fun _ hname => List.mem_flatten_of_mem (by simp) (List.mem_flatMap_of_mem hg hname)

theorem names_subset_of_flag {flag : Flag} (hflag : flag ∈ d.flags) : flag.names ⊆ d.names :=
  fun _ hname => List.mem_flatten_of_mem (by simp) (List.mem_flatMap_of_mem hflag hname)

theorem audiences_subset_of_rollout {r : Rollout} (hr : r ∈ d.rollouts) : r.audiences ⊆ d.names :=
  fun _ hname => List.mem_flatten_of_mem (by simp) (List.mem_flatMap_of_mem hr hname)

theorem audiences_subset_of_holdout {h : Holdout} (hh : h ∈ d.holdouts) : h.rule.audiences ⊆ d.names :=
  fun _ hname => List.mem_flatten_of_mem (by simp)
    (List.mem_flatMap_of_mem (f := fun h => h.rule.audiences) hh hname)

theorem id_mem_declared {e : Experiment} (he : e ∈ d.allExperiments) : e.id ∈ d.declared :=
  List.mem_flatten_of_mem (by simp) (List.mem_map_of_mem he)

theorem mem_names_of_groupId {id groupId : String}
    (h : (Project.ofDatafile d).groupIds[id]? = some groupId) : groupId ∈ d.names := by
  obtain ⟨g, hg, rfl, _⟩ := Project.of_groupIds h
  exact names_subset_of_group hg List.mem_cons_self

/-! ## What is found by them -/

namespace IsNewTo

variable {α : Type} {key : α → String} {as bs : List α} {k : String}

/-- None of the new things goes by an old name. -/
theorem filter_eq_nil (h : more.IsNewTo d) (hk : k ∈ d.names) (has : ∀ a ∈ as, key a ∈ more.declared) :
    as.filter (key · == k) = [] := by
  refine List.filter_eq_nil_iff.mpr fun a ha hkey => ?_
  rw [← beq_iff_eq.mp hkey] at hk
  exact h.fresh _ (has a ha) hk

/-- New things that are appended are not found by an old name. -/
theorem getElem?_lastBy_append (h : more.IsNewTo d) (hk : k ∈ d.names)
    (hbs : ∀ b ∈ bs, key b ∈ more.declared) :
    (Index.lastBy key (as ++ bs))[k]? = (Index.lastBy key as)[k]? := by
  refine Index.getElem?_lastBy_congr ?_
  rw [List.filter_append, h.filter_eq_nil hk hbs, List.append_nil]

/-- Two lists that grow and are searched one after the other. -/
theorem getElem?_lastBy_append_append (h : more.IsNewTo d) (hk : k ∈ d.names) {cs ds : List α}
    (hbs : ∀ b ∈ bs, key b ∈ more.declared) (hds : ∀ b ∈ ds, key b ∈ more.declared) :
    (Index.lastBy key ((as ++ bs) ++ (cs ++ ds)))[k]? = (Index.lastBy key (as ++ cs))[k]? := by
  refine Index.getElem?_lastBy_congr ?_
  rw [List.filter_append, List.filter_append, List.filter_append, List.filter_append,
    h.filter_eq_nil hk hbs, h.filter_eq_nil hk hds, List.append_nil, List.append_nil]

theorem experiments_grow (h : more.IsNewTo d) (hk : k ∈ d.names) :
    (Index.lastBy (·.id) (d.grow more).allExperiments)[k]?
      = (Index.lastBy (·.id) d.allExperiments)[k]? := by
  simp only [allExperiments, grow, List.flatMap_append]
  exact h.getElem?_lastBy_append_append hk (fun e he => id_mem_declared (List.mem_append_left _ he))
    fun e he => id_mem_declared (List.mem_append_right _ he)

theorem memberships_grow (h : more.IsNewTo d) (hk : k ∈ d.names) :
    (Index.ofLast (d.grow more).memberships)[k]? = (Index.ofLast d.memberships)[k]? := by
  refine Index.getElem?_ofLast_congr ?_
  simp only [Datafile.memberships, grow, List.flatMap_append, List.filter_append]
  refine List.append_right_eq_self.mpr (h.filter_eq_nil hk fun entry hentry => ?_)
  obtain ⟨g, hg, hentry⟩ := List.mem_flatMap.mp hentry
  obtain ⟨e, he, rfl⟩ := List.mem_map.mp hentry
  exact id_mem_declared (List.mem_append_right _ (List.mem_flatMap_of_mem hg he))

theorem groups_grow (h : more.IsNewTo d) (hk : k ∈ d.names) :
    (Project.ofDatafile (d.grow more)).groups[k]? = (Project.ofDatafile d).groups[k]? := by
  simp only [Project.ofDatafile, grow, List.map_append]
  refine h.getElem?_lastBy_append hk fun g hg => ?_
  obtain ⟨g', hg', rfl⟩ := List.mem_map.mp hg
  exact List.mem_flatten_of_mem (l := more.groups.map (·.id)) (by simp) (List.mem_map_of_mem hg')

theorem rollouts_grow (h : more.IsNewTo d) (hk : k ∈ d.names) :
    (Index.lastBy (·.id) (d.grow more).rollouts)[k]? = (Index.lastBy (·.id) d.rollouts)[k]? := by
  exact h.getElem?_lastBy_append hk fun r hr =>
    List.mem_flatten_of_mem (by simp) (List.mem_map_of_mem hr)

theorem attributes_grow (h : more.IsNewTo d) (hk : k ∈ d.names) :
    (Index.lastBy (·.id) (d.grow more).attributes)[k]? = (Index.lastBy (·.id) d.attributes)[k]? := by
  exact h.getElem?_lastBy_append hk fun a ha =>
    List.mem_flatten_of_mem (by simp) (List.mem_map_of_mem ha)

theorem audiences_grow (h : more.IsNewTo d) (hk : k ∈ d.names) :
    (Project.ofDatafile (d.grow more)).audiences[k]? = (Project.ofDatafile d).audiences[k]? := by
  have hnew : ∀ a ∈ more.audiences ++ more.typedAudiences, a.id ∈ more.declared := fun a ha =>
    List.mem_flatten_of_mem (by simp) (List.mem_map_of_mem ha)
  exact h.getElem?_lastBy_append_append hk (fun a ha => hnew a (List.mem_append_left _ ha))
    fun a ha => hnew a (List.mem_append_right _ ha)

theorem flags_grow (h : more.IsNewTo d) (hk : k ∈ d.names) :
    (Index.lastBy (·.key) (d.grow more).flags)[k]? = (Index.lastBy (·.key) d.flags)[k]? := by
  exact h.getElem?_lastBy_append hk fun flag hflag =>
    List.mem_flatten_of_mem (l := more.flags.map (·.key)) (by simp) (List.mem_map_of_mem hflag)

/-- The new holdouts do not apply to an old flag. -/
theorem appliesTo_eq_false (h : more.IsNewTo d) {x : Holdout} (hx : x ∈ more.holdouts) {flagId : String}
    (hid : flagId ∈ d.names) : x.appliesTo flagId = false := by
  obtain ⟨hne, hincluded⟩ := h.confined x hx
  have hfresh : flagId ∉ x.included := fun hmem =>
    h.fresh flagId (List.mem_flatten_of_mem (by simp) (hincluded flagId hmem)) hid
  simp [Holdout.appliesTo, hne, hfresh]

/-- A flag has the same variations as before. -/
theorem variations_grow (h : more.IsNewTo d) {flag : Flag} (hflag : flag ∈ d.flags) :
    flag.variations (.ofDatafile (d.grow more)) = flag.variations (.ofDatafile d) := by
  have hnames := names_subset_of_flag hflag
  have hexperiments : ∀ id ∈ flag.experimentIds,
      (Index.lastBy (·.id) (d.grow more).allExperiments)[id]?
        = (Index.lastBy (·.id) d.allExperiments)[id]? := fun id hid =>
    h.experiments_grow (hnames (List.mem_append_right _ hid))
  have hrollout : flag.rolloutId ∈ d.names := hnames (by simp [Flag.names])
  unfold Flag.variations Project.variationsOf
  simp only [Project.ofDatafile]
  rw [List.filterMap_congr hexperiments, h.rollouts_grow hrollout]

end IsNewTo

/-- The project of the grown datafile extends the one before. -/
theorem extendedBy_grow (h : more.IsNewTo d) :
    (Project.ofDatafile d).ExtendedBy d.names (.ofDatafile (d.grow more)) where
  experiment? _ hid := h.experiments_grow hid
  groupOf? id hid := by
    have hgroupId : (Project.ofDatafile (d.grow more)).groupIds[id]?
        = (Project.ofDatafile d).groupIds[id]? := h.memberships_grow hid
    unfold Project.groupOf?
    rw [hgroupId]
    cases hg : (Project.ofDatafile d).groupIds[id]? with
    | none => rfl
    | some groupId => exact h.groups_grow (mem_names_of_groupId hg)
  rollout? _ hid := h.rollouts_grow hid
  attributeName? id hid := by
    unfold Project.attributeName?
    simp only [Project.ofDatafile, Index.getElem?_ofLast_map, h.attributes_grow hid]
  audience? _ hid := h.audiences_grow hid
  flagVariation? key hkey := by
    funext k
    unfold Project.flagVariation?
    simp only [Project.ofDatafile, Index.getElem?_ofLast_map, h.flags_grow hkey]
    cases hflag : (Index.lastBy (·.key) d.flags)[key]? with
    | none => rfl
    | some flag =>
      have hvariations := h.variations_grow (Index.of_getElem?_lastBy hflag).1
      unfold Flag.variations at hvariations
      simp only [Project.ofDatafile] at hvariations
      simp only [Option.map_some, Option.bind_some, hvariations]
  holdouts := ⟨more.holdouts, rfl, fun _ hx _ hid => h.appliesTo_eq_false hx hid⟩
  of_experiment? id e he := names_subset_of_experiment (Project.of_experiment? he).1
  of_groupOf? id g hg := by
    obtain ⟨groupId, _, hg⟩ := Option.bind_eq_some_iff.mp hg
    obtain ⟨g', hmem, rfl⟩ := List.mem_map.mp (Index.of_getElem?_lastBy hg).1
    exact names_subset_of_group (g := g') hmem
  of_rollout? id r hr := audiences_subset_of_rollout (Index.of_getElem?_lastBy hr).1
  of_holdout x hx := audiences_subset_of_holdout hx

end Datafile

/-! ## Old flags -/

/-- **Growing a datafile does not disturb its flags.** Let flags, experiments, groups, rollouts, attributes and
audiences be appended to a datafile whose ids and keys are none of its names, and holdouts that are limited to
the new flags. To decide one of the old flags for any user then comes to the same verdict or failure for the
same reasons, with the same exchanges with the services and the bandits, fetches and saves among them, and the
services are in the same state in the end. By its key the project finds the same flag as before. -/
theorem Flag.undisturbed_by_growth {σ : Type} (handler : Plan.Handler σ)
    (reply : Bandit.Call → σ → Bandit.Reply × σ) (s : σ) (engine : Engine) (d more : Datafile)
    (hmore : more.IsNewTo d) (flag : Flag) (hflag : flag ∈ d.flags) (user : User) (options : Options) :
    let call (d : Datafile) := (flag.deliberate engine (.ofDatafile d) user options).settle
      (engine.tracker? user.id options)
    (call (d.grow more)).run handler reply s = (call d).run handler reply s ∧
      (call (d.grow more)).transcript handler reply s = (call d).transcript handler reply s ∧
      (Project.ofDatafile (d.grow more)).flag? flag.key = (Project.ofDatafile d).flag? flag.key := by
  intro call
  have hnames : flag.names ⊆ d.names := Datafile.names_subset_of_flag hflag
  have hcall : call (d.grow more) = call d := by
    unfold call
    rw [deliberate_of_extendedBy (Datafile.extendedBy_grow hmore) hnames]
  rw [hcall]
  exact ⟨rfl, rfl, hmore.flags_grow (hnames (by simp [names]))⟩

/-! ### One more of everything -/

namespace Datafile.IsNewTo.Sample

def experiment (id : String) : Experiment :=
  { (default : Experiment) with
    id
    key := id
    status := .running
    variations := [⟨"v", "on", none, []⟩]
    bandit := some ⟨10000, ["a"]⟩ }

def flag : Flag :=
  ⟨"1", "f", " r ", ["x"], []⟩

/-- A flag with an experiment in a group, a rollout and a bandit that is told an attribute. -/
def datafile : Datafile :=
  { (default : Datafile) with
    groups := [⟨"g", .random, [⟨"x", 10000⟩], [experiment "x"]⟩]
    flags := [flag]
    rollouts := [⟨"r", []⟩]
    attributes := [⟨"a", "country"⟩] }

/-- The new flag has the old experiment, too, and a holdout for everyone. -/
def more : Datafile :=
  { (default : Datafile) with
    experiments := [experiment "y"]
    groups := [⟨"h", .random, [⟨"z", 10000⟩], [experiment "z"]⟩]
    flags := [⟨"2", "e", "s", ["x", "y", "z"], []⟩]
    rollouts := [⟨"s", []⟩]
    attributes := [⟨"b", "country"⟩]
    audiences := [default]
    holdouts := [{ (default : Holdout) with
      status := .running
      variations := [⟨"w", "off", none, []⟩]
      traffic := [⟨"w", 10000⟩]
      included := ["2"] }] }

theorem isNewTo : more.IsNewTo datafile where
  fresh := by decide +kernel
  confined := by
    intro h hh
    cases List.mem_singleton.mp hh
    decide

end Datafile.IsNewTo.Sample

namespace Flag

open Datafile.IsNewTo

/-- The bandit serves the user of the old flag, as it did before. -/
theorem undisturbed_by_growth_of_one_more :
    let engine : Engine := { (default : Engine) with hasBandit := true }
    let fetch : Bandit.Call → Services → Bandit.Reply × Services := fun _ s => (.ok "v", s)
    let run (d : Datafile) := ((Sample.flag.deliberate engine (.ofDatafile d) default .empty).settle
      (engine.tracker? (default : User).id .empty)).run Services.answer fetch default
    Sample.more.IsNewTo Sample.datafile ∧ Sample.flag ∈ Sample.datafile.flags ∧
      (run Sample.datafile).1.result.toOption.isSome = true ∧
      run (Sample.datafile.grow Sample.more) = run Sample.datafile := by
  intro engine fetch run
  have hflag : Sample.flag ∈ Sample.datafile.flags := List.mem_singleton_self _
  refine ⟨Sample.isNewTo, hflag, by decide +kernel, ?_⟩
  exact (undisturbed_by_growth Services.answer fetch default engine Sample.datafile Sample.more
    Sample.isNewTo Sample.flag hflag default .empty).1

end Flag

end FlagEngine
