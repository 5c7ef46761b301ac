import FlagEngine.Proofs.Discipline
import FlagEngine.Proofs.Projects
import FlagEngine.Proofs.Rules
import FlagEngine.Services
import Mathlib.Logic.ExistsUnique

/-!
# Justification

Every variation that a flag serves is served for a reason that the project bears out: by the stage that the
verdict names and by the rule that it names. The main statement is `Flag.justified_of_served`.
-/

namespace FlagEngine

open Deliberation

/-! ## Experiments -/

namespace Experiment

variable {engine : Engine} {p : Project} {e : Experiment} {userId : String}
  {attributes : Attributes} {options : Options} {v : Variation}

theorem mem_of_forcedVariation? {variationId : Option String}
    (h : (e.forcedVariation? userId variationId).value = some v) : v ∈ e.variations := by
  unfold forcedVariation? at h
  split at h
  · cases h
  · split at h
    · next w hw =>
      cases h
      exact Rule.mem_of_variationById? hw
    · cases h

theorem mem_of_whitelisted? (h : (e.whitelisted? userId).value = some v) : v ∈ e.variations := by
  unfold whitelisted? at h
  split at h
  · cases h
  · split at h
    · next w hw =>
      cases h
      exact Rule.mem_of_variationByKey? hw
    · cases h

theorem yields_overridden? : (e.overridden? userId).Yields fun r => ∀ v ∈ r, v ∈ e.variations := by
  refine yields_bind fun variationId => ?_
  have hforced : (ofReasoned (e.forcedVariation? userId variationId)).Yields
      fun r => ∀ v ∈ r, v ∈ e.variations := yields_ofReasoned fun v => mem_of_forcedVariation?
  refine hforced.bind fun forced h => ?_
  cases forced with
  | some v => exact yields_pure h
  | none => exact yields_ofReasoned fun v => mem_of_whitelisted?

theorem yields_saved? : (e.saved? userId).Yields fun r => ∀ v ∈ r, v ∈ e.variations := by
  unfold Experiment.saved?
  split
  · exact yields_none
  · refine yields_bind fun variationId => ?_
    split
    · next v hv =>
      refine yields_bind fun _ => yields_pure ?_
      rintro w ⟨⟩
      obtain ⟨id, -, hid⟩ := Option.bind_eq_some_iff.mp hv
      exact Rule.mem_of_variationById? hid
    · exact yields_none

theorem yields_chosen? {b : Experiment.Bandit} :
    (e.chosen? engine p b userId attributes options).Yields
      fun r => ∀ s ∈ r, s.variation ∈ e.variations := by
  refine yields_bind fun passes => ?_
  split
  · split
    · split
      · refine yields_bind fun choice => ?_
        cases choice with
        | error f => exact yields_fail _ _
        | ok choice =>
          dsimp only
          split
          · next v hv =>
            refine yields_pure ?_
            rintro s ⟨⟩
            exact Rule.mem_of_variationById? hv
          · exact yields_bind fun _ => yields_none
      · exact yields_fail _ _
    · exact yields_bind fun _ => yields_none
  · exact yields_none

theorem yields_allocated? :
    (e.allocated? engine p userId attributes options).Yields
      fun r => ∀ s ∈ r, s.variation ∈ e.variations := by
  unfold allocated?
  split
  · exact yields_chosen?
  · have hbucket : (ofReasoned (e.bucket? engine.sharder p (attributes.bucketingId userId))).Yields
        fun r => ∀ v ∈ r, v ∈ e.variations := yields_ofReasoned fun v => mem_of_bucket?
    refine hbucket.bind fun v h => yields_pure ?_
    rintro s hs
    obtain ⟨w, hw, rfl⟩ := Option.map_eq_some_iff.mp hs
    exact h w hw

theorem yields_targeted? :
    (e.targeted? engine p userId attributes options).Yields
      fun r => ∀ s ∈ r, s.variation ∈ e.variations := by
  refine yields_bind fun admitted => ?_
  split
  · refine yields_allocated?.bind fun served h => ?_
    cases served with
    | none => exact yields_bind fun _ => yields_none
    | some served =>
      refine yields_bind fun _ => ?_
      split
      · exact yields_bind fun _ => yields_pure h
      · exact yields_pure h
  · exact yields_bind fun _ => yields_none

/-- Only a running experiment serves, and it serves its own variations only. -/
theorem yields_serve? :
    (e.serve? engine p userId attributes options).Yields
      fun r => ∀ s ∈ r, e.rule.isRunning = true ∧ s.variation ∈ e.variations := by
  unfold serve?
  split
  · next hrunning =>
    refine yields_overridden?.bind fun overridden h => ?_
    cases overridden with
    | some v =>
      refine yields_pure ?_
      rintro s ⟨⟩
      exact ⟨hrunning, h v rfl⟩
    | none =>
      refine yields_saved?.bind fun saved h => ?_
      cases saved with
      | some v =>
        refine yields_pure ?_
        rintro s ⟨⟩
        exact ⟨hrunning, h v rfl⟩
      | none => exact yields_targeted?.mono fun r h s hs => ⟨hrunning, h s hs⟩
  · exact yields_bind fun _ => yields_none

end Experiment

/-! ## Flags -/

/-- The user forces a decision for the flag, or for the rule of it with the given key, and the variation
is the flag's first one with the forced key. -/
def Flag.IsForced (p : Project) (flag : Flag) (user : User) (ruleKey : Option String) (v : Variation) :
    Prop :=
  ∃ key, user.forced[(⟨flag.key, ruleKey⟩ : DecisionPoint)]? = some key ∧
    (flag.variations p).find? (·.key == key) = some v

/-- What has to be so for a stage to serve a variation by a rule. -/
def Source.Justifies (sharder : Sharder) (p : Project) (flag : Flag) (user : User) (rule? : Option Rule)
    (v : Variation) : Source → Prop
  | .forced => rule? = none ∧ flag.IsForced p user none v
  | .holdout =>
    ∃ h ∈ p.holdouts, rule? = some h.rule ∧ h.rule.isRunning = true ∧ h.appliesTo flag.id = true ∧
      h.rule.Covers p user.attributes ∧
      h.rule.Allocates sharder (user.attributes.bucketingId user.id) v
  | .featureTest =>
    ∃ id ∈ flag.experimentIds, ∃ e, p.experiment? id = some e ∧ rule? = some e.rule ∧
      (flag.IsForced p user (some e.key) v ∨ e.rule.isRunning = true ∧ v ∈ e.variations)
  | .rollout =>
    ∃ rollout, flag.walkedRollout? p = some rollout ∧
      ∃ r ∈ rollout.rules, rule? = some r.rule ∧
        (flag.IsForced p user (some r.key) v ∨
          r.rule.Covers p user.attributes ∧
            r.rule.Allocates sharder (user.attributes.bucketingId user.id) v)

/-- A verdict that serves a variation is justified by its stage. -/
def Verdict.Justified (sharder : Sharder) (p : Project) (flag : Flag) (user : User) (x : Verdict) : Prop :=
  ∀ v ∈ x.variation?, x.source.Justifies sharder p flag user x.rule? v

namespace Flag

variable {engine : Engine} {sharder : Sharder} {p : Project} {flag : Flag} {user : User}
  {options : Options} {e : Experiment} {v : Variation} {ruleKey : Option String}

/-- Decisions for the flag can be forced to the flag's own variations. -/
def IsCatalogued (p : Project) (flag : Flag) : Prop :=
  ∀ k, p.flagVariation? flag.key k = (flag.variations p).find? fun v => v.key == k

theorem IsCatalogued.of_flag? {d : Datafile} {key : String}
    (h : (Project.ofDatafile d).flag? key = some flag) : flag.IsCatalogued (.ofDatafile d) :=
  Project.flagVariation?_of_flag? h

theorem IsCatalogued.of_forces (hp : flag.IsCatalogued p) (h : user.Forces p ⟨flag.key, ruleKey⟩ v) :
    flag.IsForced p user ruleKey v := by
  obtain ⟨key, hkey, hv⟩ := h
  exact ⟨key, hkey, (hp key).symm.trans hv⟩

theorem yields_forcedDecision? (hp : flag.IsCatalogued p) :
    (ofReasoned (user.forcedDecision? p ⟨flag.key, ruleKey⟩)).Yields
      fun r => ∀ v ∈ r, flag.IsForced p user ruleKey v :=
  yields_ofReasoned fun _ h => hp.of_forces (User.forcedDecision?_eq_some.mp h)

theorem yields_tryExperiment (hp : flag.IsCatalogued p) {id : String} (hid : id ∈ flag.experimentIds)
    (he : p.experiment? id = some e) :
    (flag.tryExperiment engine p user options e).Yields
      fun r => ∀ x ∈ r, x.Justified engine.sharder p flag user := by
  refine (yields_forcedDecision? hp).bind fun forced h => ?_
  cases forced with
  | some v =>
    refine yields_pure ?_
    rintro _ ⟨⟩ _ ⟨⟩
    exact ⟨id, hid, e, he, rfl, .inl (h v rfl)⟩
  | none =>
    refine Experiment.yields_serve?.bind fun served h => yields_pure ?_
    intro x hx
    obtain ⟨s, hs, rfl⟩ := Option.map_eq_some_iff.mp hx
    rintro _ ⟨⟩
    exact ⟨id, hid, e, he, rfl, .inr (h s hs)⟩

theorem yields_tryExperiments (hp : flag.IsCatalogued p) {ids : List String}
    (hids : ∀ id ∈ ids, id ∈ flag.experimentIds) :
    (tryExperiments engine p flag user options ids).Yields
      fun r => ∀ x ∈ r, x.Justified engine.sharder p flag user := by
  induction ids with
  | nil => exact yields_none
  | cons id ids ih =>
    have ih := ih fun id hid => hids id (List.mem_cons_of_mem _ hid)
    unfold tryExperiments
    split
    · exact ih
    · next e he =>
      refine (yields_tryExperiment hp (hids id List.mem_cons_self) he).bind fun verdict h => ?_
      cases verdict with
      | some x => exact yields_pure h
      | none => exact ih

theorem yields_experimentVerdict? (hp : flag.IsCatalogued p) :
    (flag.experimentVerdict? engine p user options).Yields
      fun r => ∀ x ∈ r, x.Justified engine.sharder p flag user := by
  unfold experimentVerdict?
  split
  · exact yields_bind fun _ => yields_none
  · exact yields_tryExperiments hp fun _ h => h

theorem justified_of_rolloutVerdict? (hp : flag.IsCatalogued p) {x : Verdict}
    (h : (flag.rolloutVerdict? sharder p user).value = some x) : x.Justified sharder p flag user := by
  rw [value_rolloutVerdict?] at h
  obtain ⟨rollout, hrollout, h⟩ := Option.bind_eq_some_iff.mp h
  obtain ⟨⟨r, v⟩, hserved, rfl⟩ := Option.map_eq_some_iff.mp h
  obtain ⟨hr, name, htrial⟩ := Rollout.of_tryRules hserved
  rintro _ ⟨⟩
  refine ⟨rollout, hrollout, r, hr, rfl, ?_⟩
  rcases Rollout.tryRule_eq_served.mp htrial with hforces | ⟨-, hallocated⟩
  · exact .inl (hp.of_forces hforces)
  · exact .inr hallocated

/-- Whatever the services answer, a flag comes to a justified verdict. -/
theorem yields_deliberate (hp : flag.IsCatalogued p) :
    (flag.deliberate engine p user options).Yields (·.Justified engine.sharder p flag user) := by
  refine (yields_forcedDecision? hp).bind fun forced h => ?_
  cases forced with
  | some v =>
    refine yields_pure ?_
    rintro _ ⟨⟩
    exact ⟨rfl, h v rfl⟩
  | none =>
    have hholdout : (ofReasoned (p.holdout? engine.sharder flag user.id user.attributes)).Yields
        fun r => ∀ hv ∈ r, (Verdict.holdout hv.1 hv.2).Justified engine.sharder p flag user := by
      refine yields_ofReasoned ?_
      rintro ⟨h, v⟩ hv _ ⟨⟩
      obtain ⟨hmem, happlies, hserve⟩ := Holdout.of_first? hv
      obtain ⟨hrunning, hserve⟩ := Holdout.serve?_eq_some.mp hserve
      exact ⟨h, hmem, rfl, hrunning, happlies, hserve⟩
    refine hholdout.bind fun holdout h => ?_
    cases holdout with
    | some hv => exact yields_pure (h hv rfl)
    | none =>
      refine (yields_experimentVerdict? hp).bind fun verdict h => ?_
      cases verdict with
      | some x => exact yields_pure (h x rfl)
      | none =>
        have hrollout : (ofReasoned (flag.rolloutVerdict? engine.sharder p user)).Yields
            fun r => ∀ x ∈ r, x.Justified engine.sharder p flag user :=
          yields_ofReasoned fun x => justified_of_rolloutVerdict? hp
        refine hrollout.bind fun verdict h => yields_pure ?_
        cases verdict with
        | some x => exact h x rfl
        | none => exact nofun

/-- **Every served variation is justified.** Let a flag of a compiled datafile serve a variation, whatever
the services are and the bandits reply. Then exactly one stage has served it, the one that the verdict
names, and what this stage needs is so:

* a forced decision names no rule, and the user forces the flag to its variation;
* a holdout is a running one of the project that applies to the flag, covers the user and allocates them to
  the variation;
* an experiment is known and listed by the flag, and either the user forces its decision to the flag's
  variation, or it is running and the variation is its own;
* a rule of a rollout is one of the rollout with the flag's rollout id, trimmed, and either the user forces
  its decision to the flag's variation, or it covers the user and allocates them to the variation. -/
theorem justified_of_served {σ : Type} (handler : Plan.Handler σ)
    (reply : Bandit.Call → σ → Bandit.Reply × σ) (s : σ) (engine : Engine) (d : Datafile) (key : String)
    (flag : Flag) (user : User) (options : Options) (x : Verdict) (v : Variation)
    (hflag : (Project.ofDatafile d).flag? key = some flag)
    (hx : (((flag.deliberate engine (.ofDatafile d) user options).settle
      (engine.tracker? user.id options)).run handler reply s).1.result = .ok x)
    (hv : x.variation? = some v) :
    ∃! source, x.source = source ∧
      source.Justifies engine.sharder (.ofDatafile d) flag user x.rule? v := by
  have hjustified : x.Justified engine.sharder (.ofDatafile d) flag user :=
    (yields_deliberate (.of_flag? hflag)).of_settle hx
  exact ⟨x.source, ⟨rfl, hjustified v hv⟩, fun _ hsource => hsource.1.symm⟩

end Flag

/-! ### A flag with a rollout -/

namespace Rollout.Sample

def variation : Variation :=
  ⟨"v", "on", none, []⟩

/-- A rule for everyone. -/
def rule (status : Experiment.Status) : Experiment :=
  { (default : Experiment) with
    id := "x"
    key := "x"
    status
    variations := [variation]
    traffic := [⟨"v", 10000⟩] }

def flag : Flag :=
  ⟨"1", "f", "r", [], []⟩

/-- A flag with a rollout of one rule. -/
def datafile (status : Experiment.Status) : Datafile :=
  { (default : Datafile) with
    flags := [flag]
    rollouts := [⟨"r", [rule status]⟩] }

def user : User :=
  ⟨"u", ∅, ∅⟩

/-- What the flag comes to for the user. -/
def result (status : Experiment.Status) : Except Bandit.Failure Verdict :=
  (((flag.deliberate default (.ofDatafile (datafile status)) user .empty).settle
    (Engine.tracker? default user.id .empty)).run Services.answer (fun _ s => (.error .noClient, s))
      default).1.result

theorem flag?_datafile (status : Experiment.Status) :
    (Project.ofDatafile (datafile status)).flag? "f" = some flag := by
  simp [Project.flag?, Project.ofDatafile, Index.getElem?_lastBy, List.findRev?, datafile, flag]

/-- The variation that is served, and whether the rule that serves it is running. -/
def served? (status : Experiment.Status) : Option (Variation × Bool) :=
  (result status).toOption.bind fun x => x.variation?.bind fun v => x.rule?.map fun r => (v, r.isRunning)

theorem result_of_served? {status : Experiment.Status} {v : Variation} {isRunning : Bool}
    (h : served? status = some (v, isRunning)) :
    ∃ x r, result status = .ok x ∧ x.variation? = some v ∧ x.rule? = some r ∧ r.isRunning = isRunning := by
  unfold served? at h
  obtain ⟨x, hx, h⟩ := Option.bind_eq_some_iff.mp h
  obtain ⟨w, hw, h⟩ := Option.bind_eq_some_iff.mp h
  obtain ⟨r, hr, h⟩ := Option.map_eq_some_iff.mp h
  cases h
  refine ⟨x, r, ?_, hw, hr, rfl⟩
  cases hresult : result status with
  | error f =>
    rw [hresult] at hx
    cases hx
  | ok y =>
    rw [hresult] at hx
    cases hx
    rfl

end Rollout.Sample

namespace Flag

open Rollout

/-- The rule of a rollout serves everyone. -/
theorem justified_of_served_by_rollout :
    ∃ x, Sample.result .running = .ok x ∧ x.variation? = some Sample.variation ∧
      ∃! source, x.source = source ∧
        source.Justifies Sharder.murmur (.ofDatafile (Sample.datafile .running)) Sample.flag Sample.user
          x.rule? Sample.variation := by
  have hserved : Sample.served? .running = some (Sample.variation, true) := by decide +kernel
  obtain ⟨x, r, hx, hv, -⟩ := Sample.result_of_served? hserved
  exact ⟨x, hx, hv, justified_of_served Services.answer _ default default _ "f" Sample.flag Sample.user
    .empty x _ (Sample.flag?_datafile _) hx hv⟩

end Flag

end FlagEngine
