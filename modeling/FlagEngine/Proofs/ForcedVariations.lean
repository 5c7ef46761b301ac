import FlagEngine.Client
import FlagEngine.Proofs.Placements

/-!
# Forced variations

What a client sets for its users, in any order and under any projects. A setting resolves the keys of an
experiment and of its variation to ids, `Setting.Resolves`, and fails exactly if they do not resolve. What is
given for an experiment and a user then depends on their latest setting only,
`ForcedVariations.last_setting_decides`.
-/

namespace FlagEngine

namespace ForcedVariations

/-- What a client asks to be set under a project. -/
structure Setting where
  project : Project
  experimentKey : String
  userId : String
  /-- The variation, or nothing to clear it. -/
  variationKey : Option String

inductive Call where
  | set (x : Setting)
  | get (e : Experiment) (userId : String)

/-- The keys of a setting are those of an experiment and of one of its variations. The id is that of the variation,
or none to clear it. -/
inductive Setting.Resolves (x : Setting) : Experiment → Option String → Prop where
  | clear {e} (he : x.project.experimentByKey? x.experimentKey = some e) (hv : x.variationKey = none) :
      x.Resolves e none
  | variation {e key v} (he : x.project.experimentByKey? x.experimentKey = some e)
      (hkey : x.variationKey = some key) (hv : e.rule.variationByKey? key = some v) : x.Resolves e (some v.id)

/-- Why a setting fails: its experiment is unknown, or it has no variation of that key. -/
inductive Setting.Fails (x : Setting) : Failure → Prop where
  | experiment (he : x.project.experimentByKey? x.experimentKey = none) :
      x.Fails (.unknownExperiment x.experimentKey)
  | variation {e key} (he : x.project.experimentByKey? x.experimentKey = some e) (hkey : x.variationKey = some key)
      (hv : ∀ v ∈ e.variations, v.key ≠ key) : x.Fails (.unknownVariation x.experimentKey key)

def perform (m : ForcedVariations) (x : Setting) : Except Failure ForcedVariations :=
  m.set x.project x.experimentKey x.userId x.variationKey

/-- A setting that fails leaves everything as it is, and so does a look. -/
def call (m : ForcedVariations) : Call → ForcedVariations
  | .set x => (m.perform x).toOption.getD m
  | .get _ _ => m

/-- What is set after some calls, the latest first. -/
def after : List Call → ForcedVariations
  | [] => ∅
  | c :: earlier => (after earlier).call c

/-- The variation that is given for an experiment and a user. -/
def get? (m : ForcedVariations) (e : Experiment) (userId : String) : Option Variation :=
  (e.forcedVariation? userId (m.variationId? userId e.id)).value

/-! ## One setting -/

variable {m : ForcedVariations} {x : Setting} {c : Call} {history : List Call} {e e' : Experiment}
  {userId experimentId : String} {id id' : Option String} {f : Failure}

namespace Setting

theorem Resolves.experiment (h : x.Resolves e id) : x.project.experimentByKey? x.experimentKey = some e := by
  cases h <;> assumption

theorem Resolves.unique (h : x.Resolves e id) (h' : x.Resolves e' id') : e = e' ∧ id = id' := by
  obtain rfl := Option.some.inj (h.experiment.symm.trans h'.experiment)
  refine ⟨rfl, ?_⟩
  cases h with
  | clear _ hv =>
    cases h' with
    | clear => rfl
    | variation _ hkey => exact absurd (hv.symm.trans hkey) nofun
  | variation _ hkey hv =>
    cases h' with
    | clear _ hnone => exact absurd (hkey.symm.trans hnone) nofun
    | variation _ hkey' hv' =>
      obtain rfl := Option.some.inj (hkey.symm.trans hkey')
      rw [Option.some.inj (hv.symm.trans hv')]

end Setting

theorem variationByKey?_eq_none {key : String} :
    e.rule.variationByKey? key = none ↔ ∀ v ∈ e.variations, v.key ≠ key := by
  rw [Rule.variationByKey?, List.find?_eq_none]
  simp only [beq_iff_eq]
  rfl

theorem perform_of_resolves (m : ForcedVariations) (h : x.Resolves e id) :
    m.perform x = .ok (m.put x.userId e.id id) := by
  cases h with
  | clear he hv => simp only [perform, set, he, hv]
  | variation he hkey hv => simp only [perform, set, he, hkey, hv]

theorem perform_of_fails (m : ForcedVariations) (h : x.Fails f) : m.perform x = .error f := by
  cases h with
  | experiment he => simp only [perform, set, he]
  | variation he hkey hv => simp only [perform, set, he, hkey, variationByKey?_eq_none.mpr hv]

/-- A setting resolves or fails. -/
theorem Setting.resolves_or_fails (x : Setting) : (∃ e id, x.Resolves e id) ∨ ∃ f, x.Fails f := by
  cases he : x.project.experimentByKey? x.experimentKey with
  | none => exact .inr ⟨_, .experiment he⟩
  | some e =>
    cases hkey : x.variationKey with
    | none => exact .inl ⟨e, none, .clear he hkey⟩
    | some key =>
      cases hv : e.rule.variationByKey? key with
      | none => exact .inr ⟨_, .variation he hkey (variationByKey?_eq_none.mp hv)⟩
      | some v => exact .inl ⟨e, some v.id, .variation he hkey hv⟩

theorem perform_eq_error_iff : m.perform x = .error f ↔ x.Fails f := by
  refine ⟨fun h => ?_, perform_of_fails m⟩
  rcases x.resolves_or_fails with ⟨e, id, hr⟩ | ⟨f', hf⟩
  · rw [perform_of_resolves m hr] at h
    cases h
  · rw [perform_of_fails m hf] at h
    cases h
    exact hf

theorem exists_perform_eq_ok_iff : (∃ m', m.perform x = .ok m') ↔ ∃ e id, x.Resolves e id := by
  constructor
  · rintro ⟨m', h⟩
    rcases x.resolves_or_fails with hr | ⟨f, hf⟩
    · exact hr
    · rw [perform_of_fails m hf] at h
      cases h
  · rintro ⟨e, id, hr⟩
    exact ⟨_, perform_of_resolves m hr⟩

theorem call_of_fails (hf : x.Fails f) : m.call (.set x) = m := by
  rw [call, perform_of_fails m hf]
  rfl

/-! ## The latest setting -/

/-- A call that sets or clears the variation of a user in an experiment. -/
def Call.Sets (c : Call) (userId experimentId : String) (id : Option String) : Prop :=
  ∃ x e, c = .set x ∧ x.userId = userId ∧ e.id = experimentId ∧ x.Resolves e id

/-- The latest call that sets or clears the variation of a user in an experiment. -/
def LastSets (history : List Call) (userId experimentId : String) (id : Option String) : Prop :=
  ∃ later c earlier, history = later ++ c :: earlier ∧ c.Sets userId experimentId id ∧
    ∀ y ∈ later, ∀ id', ¬ y.Sets userId experimentId id'

theorem variationId?_call_of_sets (h : c.Sets userId experimentId id) :
    (m.call c).variationId? userId experimentId = id := by
  obtain ⟨x, e, rfl, rfl, rfl, hr⟩ := h
  rw [call, perform_of_resolves m hr, Except.toOption, Option.getD_some, variationId?_put]
  exact if_pos ⟨rfl, rfl⟩

theorem variationId?_call_of_not_sets (h : ∀ id, ¬ c.Sets userId experimentId id) :
    (m.call c).variationId? userId experimentId = m.variationId? userId experimentId := by
  cases c with
  | get => rfl
  | set x =>
    rcases x.resolves_or_fails with ⟨e, id, hr⟩ | ⟨f, hf⟩
    · rw [call, perform_of_resolves m hr, Except.toOption, Option.getD_some, variationId?_put]
      exact if_neg fun hkeys => h id ⟨x, e, rfl, hkeys.1, hkeys.2, hr⟩
    · rw [call_of_fails hf]

theorem LastSets.variationId?_after (h : LastSets history userId experimentId id) :
    (after history).variationId? userId experimentId = id := by
  obtain ⟨later, c, earlier, rfl, hc, hlater⟩ := h
  induction later with
  | nil => exact variationId?_call_of_sets hc
  | cons y later ih =>
    obtain ⟨hy, hlater⟩ := List.forall_mem_cons.mp hlater
    exact (variationId?_call_of_not_sets hy).trans (ih hlater)

theorem variationId?_after_of_not_sets (h : ∀ c ∈ history, ∀ id, ¬ c.Sets userId experimentId id) :
    (after history).variationId? userId experimentId = none := by
  induction history with
  | nil => simp [after, variationId?]
  | cons c earlier ih =>
    obtain ⟨hc, hearlier⟩ := List.forall_mem_cons.mp h
    exact (variationId?_call_of_not_sets hc).trans (ih hearlier)

theorem exists_lastSets (history : List Call) (userId experimentId : String) :
    (∃ id, LastSets history userId experimentId id) ∨ ∀ c ∈ history, ∀ id, ¬ c.Sets userId experimentId id := by
  induction history with
  | nil => exact .inr nofun
  | cons c earlier ih =>
    by_cases hc : ∃ id, c.Sets userId experimentId id
    · obtain ⟨id, hc⟩ := hc
      exact .inl ⟨id, [], c, earlier, rfl, hc, nofun⟩
    · have hc' := not_exists.mp hc
      rcases ih with ⟨id, later, y, before, rfl, hy, hlater⟩ | hnone
      · exact .inl ⟨id, c :: later, y, before, rfl, hy, List.forall_mem_cons.mpr ⟨hc', hlater⟩⟩
      · exact .inr (List.forall_mem_cons.mpr ⟨hc', hnone⟩)

/-- The ids that are kept are those of the latest settings. -/
theorem variationId?_after_eq_some {id : String} :
    (after history).variationId? userId experimentId = some id
      ↔ LastSets history userId experimentId (some id) := by
  refine ⟨fun h => ?_, LastSets.variationId?_after⟩
  rcases exists_lastSets history userId experimentId with ⟨id', hlast⟩ | hnone
  · obtain rfl := hlast.variationId?_after.symm.trans h
    exact hlast
  · rw [variationId?_after_of_not_sets hnone] at h
    cases h

/-! ## What is given -/

theorem id_of_variationById? {v : Variation} {id : String} (h : e.rule.variationById? id = some v) : v.id = id := by
  simpa using List.find?_some h

theorem exists_variationById?_iff {id : String} :
    (∃ v, e.rule.variationById? id = some v) ↔ ∃ v ∈ e.variations, v.id = id := by
  rw [← Option.isSome_iff_exists, Rule.variationById?, List.find?_isSome]
  simp only [beq_iff_eq]
  rfl

theorem get?_eq (m : ForcedVariations) (e : Experiment) (userId : String) :
    m.get? e userId = (m.variationId? userId e.id).bind e.rule.variationById? :=
  Experiment.value_forcedVariation? ..

theorem get?_eq_some {v : Variation} (h : m.get? e userId = some v) :
    m.variationId? userId e.id = some v.id ∧ v ∈ e.variations := by
  rw [get?_eq] at h
  obtain ⟨id, hid, hv⟩ := Option.bind_eq_some_iff.mp h
  exact ⟨id_of_variationById? hv ▸ hid, Rule.mem_of_variationById? hv⟩

theorem exists_get?_iff :
    (∃ v, m.get? e userId = some v)
      ↔ ∃ id, m.variationId? userId e.id = some id ∧ ∃ v ∈ e.variations, v.id = id := by
  simp only [get?_eq, Option.bind_eq_some_iff, ← exists_variationById?_iff]
  constructor
  · rintro ⟨v, id, hid, hv⟩
    exact ⟨id, hid, v, hv⟩
  · rintro ⟨id, hid, v, hv⟩
    exact ⟨v, id, hid, hv⟩

/-- A setting makes no difference to other users and to other experiments. -/
theorem get?_call_of_ne (hr : x.Resolves e id) (hne : ¬ (userId = x.userId ∧ e'.id = e.id)) :
    (m.call (.set x)).get? e' userId = m.get? e' userId := by
  rw [get?_eq, variationId?_call_of_not_sets, ← get?_eq]
  rintro id' ⟨y, e₀, hy, huser, hid, hr'⟩
  obtain rfl := Call.set.inj hy
  obtain rfl := (hr.unique hr').1
  exact hne ⟨huser.symm, hid.symm⟩

/-! ## Clients -/

section

variable {s : Services} {p : Project} (h : s.project = some p)

include h

theorem forceVariation_eq (experimentKey userId : String) (variationKey : Option String) :
    s.forceVariation experimentKey userId variationKey
      = (s.forced.perform ⟨p, experimentKey, userId, variationKey⟩).map fun forced => { s with forced } := by
  rw [Services.forceVariation, h]
  rfl

theorem forcedVariation?_eq (experimentKey userId : String) :
    s.forcedVariation? experimentKey userId
      = (p.experimentByKey? experimentKey).bind fun e => (s.forced.get? e userId).map (·.key) := by
  rw [Services.forcedVariation?, h]
  refine Option.bind_congr (o := p.experimentByKey? experimentKey) fun e _ => ?_
  rw [get?]
  cases (e.forcedVariation? userId (s.forced.variationId? userId e.id)).value <;> rfl

end

theorem forceVariation_of_none {s : Services} (h : s.project = none) (experimentKey userId : String)
    (variationKey : Option String) :
    s.forceVariation experimentKey userId variationKey = .error .notConfigured := by
  rw [Services.forceVariation, h]

theorem forcedVariation?_of_none {s : Services} (h : s.project = none) (experimentKey userId : String) :
    s.forcedVariation? experimentKey userId = none := by
  rw [Services.forcedVariation?, h]
  rfl

/-- **The last setting decides.** After any calls under any projects:

* a setting succeeds exactly if its keys resolve, and to clear a variation takes only the key of the experiment.
  If it fails, it tells that the experiment is unknown or that it lacks the variation, and nothing changes;
* a variation is given for an experiment and a user exactly if their latest successful setting was not a clearing
  and the experiment has a variation with the id that was set then. The variation given has this id;
* a setting makes no difference to other users and to other experiments;
* a client sets and looks up under the project in force, and without one it does neither. -/
theorem last_setting_decides (history : List Call) :
    let m := after history
    (∀ x, ((∃ m', m.perform x = .ok m') ↔ ∃ e id, x.Resolves e id) ∧
      ∀ f, (m.perform x = .error f ↔ x.Fails f) ∧ (x.Fails f → after (.set x :: history) = m)) ∧
    (∀ e userId,
      ((∃ v, m.get? e userId = some v)
        ↔ ∃ id, LastSets history userId e.id (some id) ∧ ∃ v ∈ e.variations, v.id = id) ∧
      ∀ v, m.get? e userId = some v → v ∈ e.variations ∧ LastSets history userId e.id (some v.id)) ∧
    (∀ x e id, x.Resolves e id → ∀ e' userId, ¬ (userId = x.userId ∧ e'.id = e.id) →
      (after (.set x :: history)).get? e' userId = m.get? e' userId) ∧
    (∀ s : Services, s.forced = m → ∀ experimentKey userId,
      (∀ p, s.project = some p →
        s.forcedVariation? experimentKey userId
          = (p.experimentByKey? experimentKey).bind (fun e => (m.get? e userId).map (·.key)) ∧
        ∀ variationKey, s.forceVariation experimentKey userId variationKey
          = (m.perform ⟨p, experimentKey, userId, variationKey⟩).map fun forced => { s with forced }) ∧
      (s.project = none →
        s.forcedVariation? experimentKey userId = none ∧
        ∀ variationKey, s.forceVariation experimentKey userId variationKey = .error .notConfigured)) := by
  intro m
  refine ⟨fun x => ⟨exists_perform_eq_ok_iff, fun f => ⟨perform_eq_error_iff, call_of_fails⟩⟩,
    fun e userId => ⟨?_, fun v hv => ?_⟩, fun x e id hr e' userId => get?_call_of_ne hr,
    fun s hs experimentKey userId => ⟨fun p hp => ?_, fun hp => ?_⟩⟩
  · simp only [← variationId?_after_eq_some]
    exact exists_get?_iff
  · obtain ⟨hid, hmem⟩ := get?_eq_some hv
    exact ⟨hmem, variationId?_after_eq_some.mp hid⟩
  · rw [← hs]
    exact ⟨forcedVariation?_eq hp experimentKey userId, forceVariation_eq hp experimentKey userId⟩
  · exact ⟨forcedVariation?_of_none hp experimentKey userId, forceVariation_of_none hp experimentKey userId⟩

namespace Sample

def experiment (key : String) (variations : List Variation) : Experiment :=
  { (default : Experiment) with id := "1", key, variations }

def project (e : Experiment) : Project :=
  .ofDatafile { (default : Datafile) with experiments := [e] }

theorem experimentByKey?_project (e : Experiment) (key : String) :
    (project e).experimentByKey? key = if e.key = key then some e else none := by
  have hall : ({ (default : Datafile) with experiments := [e] } : Datafile).allExperiments = [e] := rfl
  by_cases h : e.key = key <;>
    simp [project, Project.experimentByKey?, Project.experiment?, Project.ofDatafile, hall,
      Index.getElem?_ofLast, Index.getElem?_lastBy, List.findRev?, h]

def before : Experiment :=
  experiment "search" [⟨"a", "on", none, []⟩, ⟨"b", "off", none, []⟩]

/-- The experiment is renamed, and so is a variation. The other one is gone. -/
def now : Experiment :=
  experiment "find" [⟨"b", "none", none, []⟩]

def setting (x : Experiment) (userId : String) (variationKey : Option String) : Setting :=
  ⟨project x, "search", userId, variationKey⟩

/-- Two users are set. Then nothing is cleared, as there is no experiment of the old key any more. -/
def calls : List Call :=
  [.set (setting now "u" none), .get now "u", .set (setting before "w" (some "on")),
    .set (setting before "u" (some "off"))]

theorem resolves : (setting before "u" (some "off")).Resolves before (some "b") := by
  have hv : before.rule.variationByKey? "off" = some ⟨"b", "off", none, []⟩ := rfl
  exact .variation (experimentByKey?_project before "search") rfl hv

theorem lastSets : LastSets calls "u" "1" (some "b") := by
  refine ⟨[_, _, _], _, [], rfl, ⟨_, before, rfl, rfl, rfl, resolves⟩, ?_⟩
  intro y hy id
  simp only [List.mem_cons, List.not_mem_nil, or_false] at hy
  rcases hy with rfl | rfl | rfl
  · rintro ⟨x, e, hx, -, -, hr⟩
    obtain rfl := Call.set.inj hx
    have hnone := experimentByKey?_project now "search"
    exact absurd (hr.experiment.symm.trans hnone) nofun
  · rintro ⟨x, e, hx, -⟩
    cases hx
  · rintro ⟨x, e, hx, huser, -⟩
    obtain rfl := Call.set.inj hx
    exact absurd huser (by decide)

end Sample

/-- The variation that was set is given under its new key. -/
theorem last_setting_decides_of_renaming :
    LastSets Sample.calls "u" "1" (some "b") ∧
      ∃ v, (after Sample.calls).get? Sample.now "u" = some v ∧ v.id = "b" ∧ v.key = "none" := by
  obtain ⟨-, hget, -, -⟩ := last_setting_decides Sample.calls
  obtain ⟨hgiven, hid⟩ := hget Sample.now "u"
  obtain ⟨v, hv⟩ := hgiven.mpr ⟨"b", Sample.lastSets, _, List.mem_cons_self, rfl⟩
  obtain rfl := List.mem_singleton.mp (hid v hv).1
  exact ⟨Sample.lastSets, _, hv, rfl, rfl⟩

end ForcedVariations

end FlagEngine
