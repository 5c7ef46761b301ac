import FlagEngine.Proofs.Justification

/-!
# The catalogue of a flag

What decisions for a flag can be forced to: the variations of its experiments, and of the rules of the
rollout with its rollout id as written. Wherever this rollout is the one that is tried, these are the
variations that the rules of the flag can serve: `Flag.catalogue_agrees`.
-/

namespace FlagEngine

/-- A rule of the rollout has a variation with the key. -/
def Rollout.HasKey (rollout : Rollout) (k : String) : Prop :=
  ∃ rule ∈ rollout.rules, ∃ v ∈ rule.variations, v.key = k

/-- An experiment of the flag that the project knows has a variation with the key. -/
def Flag.HasExperimentKey (p : Project) (flag : Flag) (k : String) : Prop :=
  ∃ id ∈ flag.experimentIds, ∃ e, p.experiment? id = some e ∧ ∃ v ∈ e.variations, v.key = k

namespace Flag

variable {p : Project} {flag : Flag} {user : User} {v : Variation}

theorem exists_mem_variations_iff {k : String} :
    (∃ v ∈ flag.variations p, v.key = k) ↔
      flag.HasExperimentKey p k ∨ ∃ rollout, p.rollout? flag.rolloutId = some rollout ∧ rollout.HasKey k := by
  have hexperiments : (∃ v ∈ (flag.experimentIds.filterMap p.experiment?).flatMap (·.variations), v.key = k) ↔
      flag.HasExperimentKey p k := by
    simp only [List.mem_flatMap, List.mem_filterMap, HasExperimentKey]
    exact ⟨fun ⟨v, ⟨e, ⟨id, hid, he⟩, hv⟩, hk⟩ => ⟨id, hid, e, he, v, hv, hk⟩,
      fun ⟨id, hid, e, he, v, hv, hk⟩ => ⟨v, ⟨e, ⟨id, hid, he⟩, hv⟩, hk⟩⟩
  have hrollout : (∃ v ∈ ((p.rollout? flag.rolloutId).toList.flatMap (·.rules)).flatMap (·.variations),
        v.key = k) ↔ ∃ rollout, p.rollout? flag.rolloutId = some rollout ∧ rollout.HasKey k := by
    simp only [List.mem_flatMap, Option.mem_toList, Rollout.HasKey]
    exact ⟨fun ⟨v, ⟨r, ⟨rollout, hr, hrule⟩, hv⟩, hk⟩ => ⟨rollout, hr, r, hrule, v, hv, hk⟩,
      fun ⟨rollout, hr, r, hrule, v, hv, hk⟩ => ⟨v, ⟨r, ⟨rollout, hr, hrule⟩, hv⟩, hk⟩⟩
  rw [← hexperiments, ← hrollout]
  simp only [← exists_or, ← or_and_right, ← List.mem_append]
  rfl

namespace IsCatalogued

theorem isSome_iff (hp : flag.IsCatalogued p) {k : String} :
    (p.flagVariation? flag.key k).isSome = true ↔ ∃ v ∈ flag.variations p, v.key = k := by
  rw [hp k, List.find?_isSome]
  simp only [beq_iff_eq]

theorem isSome_of_isForced (hp : flag.IsCatalogued p) {ruleKey : Option String}
    (h : flag.IsForced p user ruleKey v) : (p.flagVariation? flag.key v.key).isSome = true := by
  obtain ⟨key, -, hv⟩ := h
  exact hp.isSome_iff.mpr ⟨v, List.mem_of_find?_eq_some hv, rfl⟩

/-- What a stage serves by a rule of the flag can be forced. -/
theorem isSome_of_justifies (hp : flag.IsCatalogued p)
    (hrollout : p.rollout? flag.rolloutId = flag.walkedRollout? p) {sharder : Sharder} {source : Source}
    {rule? : Option Rule} (hs : source ≠ .holdout)
    (h : source.Justifies sharder p flag user rule? v) : (p.flagVariation? flag.key v.key).isSome = true := by
  cases source with
  | forced => exact hp.isSome_of_isForced h.2
  | holdout => exact (hs rfl).elim
  | featureTest =>
    obtain ⟨id, hid, e, he, -, hforced | ⟨-, hv⟩⟩ := h
    · exact hp.isSome_of_isForced hforced
    · rw [hp.isSome_iff, exists_mem_variations_iff]
      exact .inl ⟨id, hid, e, he, v, hv, rfl⟩
  | rollout =>
    obtain ⟨rollout, hwalked, r, hr, -, hforced | ⟨-, hallocated⟩⟩ := h
    · exact hp.isSome_of_isForced hforced
    · rw [hp.isSome_iff, exists_mem_variations_iff, hrollout]
      exact .inr ⟨rollout, hwalked, r, hr, v, hallocated.mem, rfl⟩

end IsCatalogued

/-- The rollout with the flag's rollout id is the one that is tried, unless white space is in the way. -/
theorem walkedRollout?_eq (h : Text.trim flag.rolloutId = flag.rolloutId) (hne : flag.rolloutId ≠ "") :
    flag.walkedRollout? p = p.rollout? flag.rolloutId := by
  unfold walkedRollout?
  rw [h, if_neg]
  simpa using hne

/-- **The catalogue agrees with the rules.** For a flag of a compiled datafile a variation key can be forced
exactly if it is the key of a variation of one of its known experiments, or of a rule of the rollout with its
rollout id as written. If this rollout is the one that is tried for the flag, then the keys are those of
the rules that are tried, and whatever the flag serves, a holdout apart, can also be forced. -/
theorem catalogue_agrees (d : Datafile) (key : String) (flag : Flag)
    (hflag : (Project.ofDatafile d).flag? key = some flag) :
    let p := Project.ofDatafile d
    (∀ k, (p.flagVariation? flag.key k).isSome = true ↔
      flag.HasExperimentKey p k ∨ ∃ rollout, p.rollout? flag.rolloutId = some rollout ∧ rollout.HasKey k) ∧
    (p.rollout? flag.rolloutId = flag.walkedRollout? p →
      (∀ k, (p.flagVariation? flag.key k).isSome = true ↔
        flag.HasExperimentKey p k ∨ ∃ rollout, flag.walkedRollout? p = some rollout ∧ rollout.HasKey k) ∧
      ∀ {σ : Type} (handler : Plan.Handler σ) (reply : Bandit.Call → σ → Bandit.Reply × σ) (s : σ)
        (engine : Engine) (user : User) (options : Options) (x : Verdict) (v : Variation),
        (((flag.deliberate engine p user options).settle
          (engine.tracker? user.id options)).run handler reply s).1.result = .ok x →
        x.variation? = some v → x.source ≠ .holdout → (p.flagVariation? flag.key v.key).isSome = true) := by
  intro p
  have hp : flag.IsCatalogued p := .of_flag? hflag
  have hkeys (k : String) : (p.flagVariation? flag.key k).isSome = true ↔
      flag.HasExperimentKey p k ∨ ∃ rollout, p.rollout? flag.rolloutId = some rollout ∧ rollout.HasKey k :=
    hp.isSome_iff.trans exists_mem_variations_iff
  refine ⟨hkeys, fun hrollout => ⟨fun k => hrollout ▸ hkeys k, ?_⟩⟩
  intro σ handler reply s engine user options x v hx hv hs
  exact hp.isSome_of_justifies hrollout hs ((yields_deliberate hp).of_settle hx v hv)

open Rollout

/-- The id of the rollout is written without white space. -/
theorem catalogue_agrees_of_trimmed :
    let p := Project.ofDatafile (Sample.datafile .running)
    p.flag? "f" = some Sample.flag ∧
      p.rollout? Sample.flag.rolloutId = Sample.flag.walkedRollout? p ∧
      ∀ k, (p.flagVariation? Sample.flag.key k).isSome = true ↔
        Sample.flag.HasExperimentKey p k ∨
          ∃ rollout, Sample.flag.walkedRollout? p = some rollout ∧ rollout.HasKey k := by
  intro p
  have htrim : Text.trim Sample.flag.rolloutId = Sample.flag.rolloutId := by decide +kernel
  have hrollout : p.rollout? Sample.flag.rolloutId = Sample.flag.walkedRollout? p :=
    (walkedRollout?_eq htrim (by decide)).symm
  have hflag := Sample.flag?_datafile .running
  exact ⟨hflag, hrollout, ((catalogue_agrees _ "f" Sample.flag hflag).2 hrollout).1⟩

end Flag

namespace Rollout.Sample

/-- The same flag with white space around its rollout id. -/
def spacedFlag : Flag :=
  { flag with rolloutId := " r " }

def spacedDatafile : Datafile :=
  { datafile .running with flags := [spacedFlag] }

end Rollout.Sample

namespace Flag

open Rollout

/-- With white space around its id a rollout is tried all the same, but its rules are not in the catalogue. -/
theorem catalogue_lacks_walked_key :
    let p := Project.ofDatafile Sample.spacedDatafile
    p.flag? "f" = some Sample.spacedFlag ∧
      (∃ rollout, Sample.spacedFlag.walkedRollout? p = some rollout ∧ rollout.HasKey "on") ∧
      (p.flagVariation? Sample.spacedFlag.key "on").isSome = false := by
  intro p
  have hflag : p.flag? "f" = some Sample.spacedFlag := by
    simp [p, Project.flag?, Project.ofDatafile, Index.getElem?_lastBy, List.findRev?,
      Sample.spacedDatafile, Sample.spacedFlag, Sample.flag]
  have hwalked : Sample.spacedFlag.walkedRollout? p = some ⟨"r", [Sample.rule .running]⟩ := by
    have htrim : Text.trim Sample.spacedFlag.rolloutId = "r" := by decide +kernel
    unfold walkedRollout?
    rw [htrim]
    simp [p, Project.rollout?, Project.ofDatafile, Index.getElem?_lastBy, List.findRev?,
      Sample.spacedDatafile, Sample.datafile]
  refine ⟨hflag, ⟨_, hwalked, Sample.rule .running, List.mem_cons_self, Sample.variation,
    List.mem_cons_self, rfl⟩, ?_⟩
  decide +kernel

end Flag

end FlagEngine
