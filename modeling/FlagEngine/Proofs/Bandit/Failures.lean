import FlagEngine.Proofs.Bandit.Search
import FlagEngine.Proofs.FreshSaves
import FlagEngine.Proofs.Reports

/-!
# Failures

Nothing but a bandit makes a decision fail, and then nothing that comes after it plays a part:
`Flag.only_bandits_fail`.
-/

namespace FlagEngine

open Deliberation

section

variable {σ : Type} {handler : Plan.Handler σ} {reply : Bandit.Call → σ → Bandit.Reply × σ}
  {engine : Engine} {p : Project} {flag : Flag} {user : User} {options : Options} {e : Experiment}
  {tracker tracker' : Option Tracker} {s s' : σ} {ids before later : List String} {f : Bandit.Failure}
  {reasons : List Reason}

namespace Flag

/-! ## What comes after a failure -/

/-- A flag with other experiments after some that stay, and with another rollout. -/
def replaceAfter (flag : Flag) (ids later : List String) (rolloutId : String) : Flag :=
  { flag with
    experimentIds := ids ++ later
    rolloutId }

theorem tryExperiments_replaceAfter (kept later ids : List String) (rolloutId : String) :
    (flag.replaceAfter kept later rolloutId).tryExperiments engine p user options ids
      = tryExperiments engine p flag user options ids := by
  induction ids with
  | nil => rfl
  | cons id ids ih =>
    cases h : p.experiment? id with
    | none => rw [tryExperiments_cons_of_none h, tryExperiments_cons_of_none h, ih]
    | some e =>
      rw [tryExperiments_cons_of_some h, tryExperiments_cons_of_some h, ih]
      rfl

theorem run_deliberate_of_error (hlate : (flag.earlyVerdict? engine.sharder p user).value = none)
    (h : (flag.experimentVerdict? engine p user options tracker).run handler reply s
      = (⟨.error f, tracker', reasons⟩, s')) :
    (flag.deliberate engine p user options tracker).run handler reply s
      = (⟨.error f, tracker', (flag.earlyVerdict? engine.sharder p user).reasons ++ reasons⟩, s') := by
  rw [deliberate_eq, bind_apply, ofReasoned_apply, Plan.done_bind]
  unfold resume
  rw [hlate]
  refine (Plan.run_bind ..).trans ?_
  rw [run_bind_of_error h]
  rfl

/-- The part of the run up to the bandit that fails is all of it. -/
theorem Hears.run_deliberate_replaceAfter (hlate : ¬ flag.IsDecidedEarly engine.sharder p user)
    (h : flag.Hears handler reply engine p user options flag.experimentIds tracker s before e later (.error f)
      tracker' s') :
    ∃ reasons, ∀ later' rolloutId,
      ((flag.replaceAfter (before ++ [e.id]) later' rolloutId).deliberate engine p user options tracker).run
        handler reply s = (⟨.error f, tracker', reasons⟩, s') := by
  have hupTo : flag.Hears handler reply engine p user options (before ++ [e.id]) tracker s before e []
      (.error f) tracker' s' := { h with listed := rfl }
  obtain ⟨reasons, hrun⟩ := hupTo.ends_tryExperiments_of_error
  refine ⟨(flag.earlyVerdict? engine.sharder p user).reasons ++ reasons, fun later' rolloutId => ?_⟩
  have hverdict : ((flag.replaceAfter (before ++ [e.id]) later' rolloutId).experimentVerdict? engine p user
      options tracker).run handler reply s = (⟨.error f, tracker', reasons⟩, s') := by
    unfold experimentVerdict?
    rw [if_neg (by simp [replaceAfter])]
    change ((flag.replaceAfter (before ++ [e.id]) later' rolloutId).tryExperiments engine p user options
      (before ++ [e.id] ++ later') tracker).run handler reply s = _
    rw [tryExperiments_replaceAfter, tryExperiments_append]
    exact run_bind_of_error hrun
  -- The early stages do not look at what is replaced.
  have hearly := earlyVerdict?_eq_none hlate
  exact run_deliberate_of_error hearly hverdict

theorem Hears.replaceAfter_self
    (h : flag.Hears handler reply engine p user options flag.experimentIds tracker s before e later (.error f)
      tracker' s') : flag.replaceAfter (before ++ [e.id]) later flag.rolloutId = flag := by
  unfold replaceAfter
  rw [List.append_assoc, List.singleton_append, ← h.listed]

section

-- Projects find experiments by their own ids.
variable (hp : ∀ id e, p.experiment? id = some e → e.id = id)

include hp

/-- A call that fails saves nothing: no experiment has placed the user. -/
theorem saveIfAny_of_error
    (h : (flag.deliberate engine p user options (engine.tracker? user.id options)).run handler reply s
      = (⟨.error f, tracker', reasons⟩, s')) :
    Tracker.saveIfAny tracker' = .done () := by
  have hleads : (flag.deliberate engine p user options).Leads
      (Tended engine.sharder p user fun _ _ => False) _ := leads_deliberate hp nofun
  have htended := (hleads [] _ (.tracker? engine user options)).run handler reply s
  rw [h] at htended
  cases htended with
  | absent | unread => rfl
  | @read answer profile pending _ _ hpending =>
    have hnil : pending = [] := by
      refine List.eq_nil_iff_forall_not_mem.mpr fun change hc => ?_
      obtain ⟨e, v, hk | ⟨-, hserves⟩, -⟩ := hpending change hc
      · exact hk
      · cases hserves
    rw [hnil]
    rfl

theorem run_settle_of_error
    (h : (flag.deliberate engine p user options (engine.tracker? user.id options)).run handler reply s
      = (⟨.error f, tracker', reasons⟩, s')) :
    ((flag.deliberate engine p user options).settle (engine.tracker? user.id options)).run handler reply s
      = (⟨.error f, tracker', reasons⟩, s') := by
  rw [run_settle, h]
  dsimp only
  rw [saveIfAny_of_error hp h]
  rfl

/-- A call for one flag fails if and only if a bandit fails that the search has turned to, and it ends there. -/
theorem settle_error_iff :
    let r := ((flag.deliberate engine p user options).settle (engine.tracker? user.id options)).run handler
      reply s
    r.1.result = .error f ∧ r.2 = s' ↔
      ¬ flag.IsDecidedEarly engine.sharder p user ∧ ∃ before e later tracker',
        flag.Hears handler reply engine p user options flag.experimentIds (engine.tracker? user.id options) s
          before e later (.error f) tracker' s' := by
  intro r
  constructor
  · rintro ⟨hresult, rfl⟩
    rcases hrun : (flag.deliberate engine p user options (engine.tracker? user.id options)).run handler reply s
      with ⟨⟨result, tracker', reasons⟩, s₁⟩
    have hr : r = _ := run_settle ..
    rw [hrun] at hr
    rw [hr] at hresult
    dsimp only at hresult
    subst hresult
    have hr : r = _ := run_settle_of_error hp hrun
    obtain ⟨hlate, before, e, later, hhears⟩ := (ends_deliberate_error hp).mp ⟨reasons, hrun⟩
    rw [hr]
    exact ⟨hlate, before, e, later, tracker', hhears⟩
  · rintro ⟨hlate, before, e, later, tracker', hhears⟩
    obtain ⟨reasons, hrun⟩ := hhears.ends_deliberate_of_error hlate
    have hr : r = _ := run_settle_of_error hp hrun
    rw [hr]
    exact ⟨rfl, rfl⟩

end

/-- **Only a bandit makes a decision fail.** Let a flag be decided in a call of its own, with the project of
any datafile and whatever the services and the bandit say.

* The call fails if and only if no early stage decides the flag and the search, having passed over the
  experiments before, turns to a bandit that is not there or that cannot be fetched from. The failure is the
  bandit's, and the services are left as the bandit has left them.
* What experiments and which rollout come after this bandit does not matter to such a call.
* A client that is asked to decide the flag answers without a variation and without a rule. The flag is
  disabled and has no variables, the reasons tell of the failure whatever the options are, and there is no
  event.
* If none of the experiments of the flag has a bandit, the call does not fail. -/
theorem only_bandits_fail (handler : Plan.Handler σ) (reply : Bandit.Call → σ → Bandit.Reply × σ) (s : σ)
    (engine : Engine) (d : Datafile) (flag : Flag) (user : User) (options : Options) :
    let p := Project.ofDatafile d
    let tracker := engine.tracker? user.id options
    let run (flag : Flag) :=
      ((flag.deliberate engine p user options).settle tracker).run handler reply s
    (∀ f s', (run flag).1.result = .error f ∧ (run flag).2 = s' ↔
      ¬ flag.IsDecidedEarly engine.sharder p user ∧ ∃ before e later tracker',
        flag.Hears handler reply engine p user options flag.experimentIds tracker s before e later (.error f)
          tracker' s') ∧
    (∀ before e later f tracker' s', ¬ flag.IsDecidedEarly engine.sharder p user →
      flag.Hears handler reply engine p user options flag.experimentIds tracker s before e later (.error f)
        tracker' s' →
      ∀ later' rolloutId, run (flag.replaceAfter (before ++ [e.id]) later' rolloutId) = run flag) ∧
    (∀ f key given s₀, (run flag).1.result = .error f → p.flag? key = some flag →
      handler .project s₀ = (some p, s) → engine.defaults.union given = options →
      ∃ texts, f.message ∈ texts ∧
        (engine.decide user key given).run handler reply s₀ =
          (({ variationKey := none
              enabled := false
              values := []
              ruleKey := none
              flagKey := key
              userId := user.id
              attributes := user.attributes
              reasons := texts }, []), (run flag).2)) ∧
    ((∀ id ∈ flag.experimentIds, ∀ e, p.experiment? id = some e → e.bandit = none) →
      ∃ x, (run flag).1.result = .ok x) := by
  intro p tracker run
  have hp : ∀ id e, p.experiment? id = some e → e.id = id := fun id e he => (Project.of_experiment? he).2
  refine ⟨fun f s' => settle_error_iff hp, ?_, ?_, ?_⟩
  · intro before e later f tracker' s' hlate hhears later' rolloutId
    obtain ⟨reasons, hrun⟩ := hhears.run_deliberate_replaceAfter hlate
    have hself := hrun later flag.rolloutId
    rw [hhears.replaceAfter_self] at hself
    have hflag : run flag = _ := run_settle_of_error hp hself
    have hother : run (flag.replaceAfter (before ++ [e.id]) later' rolloutId) = _ :=
      run_settle_of_error hp (hrun later' rolloutId)
    rw [hflag, hother]
  · intro f key given s₀ hfails hkey hproject hoptions
    obtain ⟨texts, hmem, hdecision⟩ :=
      Outcome.decision_of_error p flag user options hfails
    refine ⟨texts, hmem, ?_⟩
    subst hoptions
    rw [Engine.run_decide hproject hkey, hdecision]
    unfold Decision.ofFailure
    rw [(Project.of_flag? hkey).2]
  · intro hplain
    cases hresult : (run flag).1.result with
    | ok x => exact ⟨x, rfl⟩
    | error f =>
      obtain ⟨-, before, e, later, tracker', hhears⟩ := (settle_error_iff hp).mp ⟨hresult, rfl⟩
      obtain ⟨s₀, s₁, answer, b, -, -, hturns, -⟩ := hhears.heard
      have hlisted : e.id ∈ flag.experimentIds := by
        rw [hhears.listed]
        exact List.mem_append_right _ List.mem_cons_self
      cases (hplain e.id hlisted e hhears.known).symm.trans hturns.bandit

end Flag

end

/-! ### A bandit that fails -/

namespace Bandit.Sample

def experiment : Experiment :=
  { (default : Experiment) with
    id := "x"
    key := "x"
    status := .running
    variations := [⟨"v", "on", none, []⟩]
    bandit := some ⟨10000, []⟩ }

def flag : Flag :=
  ⟨"1", "f", "", ["x"], []⟩

def datafile : Datafile :=
  { (default : Datafile) with
    experiments := [experiment]
    flags := [flag] }

def project : Project :=
  .ofDatafile datafile

def user : User :=
  ⟨"u", ∅, ∅⟩

def engine : Engine :=
  { (default : Engine) with hasBandit := true }

def services : Services :=
  { (default : Services) with project := some project }

/-- The bandit never has an answer. -/
def reply (_ : Bandit.Call) (s : Services) : Bandit.Reply × Services :=
  (.error .invalidResponse, s)

/-- Decides the flag in a call of its own. -/
def run : Outcome Verdict × Services :=
  ((flag.deliberate engine (.ofDatafile datafile) user .empty).settle (engine.tracker? user.id .empty)).run
    Services.answer reply services

theorem covers : experiment.rule.Covers project ∅ := by
  unfold Rule.Covers
  decide +kernel

theorem not_isDecidedEarly : ¬ flag.IsDecidedEarly engine.sharder project user := by
  rintro (⟨v, key, hkey, -⟩ | ⟨h, hh, -⟩)
  · cases hkey
  · cases hh

theorem turnsToBandit :
    experiment.TurnsToBandit engine project user.id user.attributes none ⟨10000, []⟩ where
  running := rfl
  bandit := rfl
  unforced := rfl
  unlisted := rfl
  covered := covers
  grouped := nofun
  admitted := ⟨by decide +kernel, nofun⟩

theorem hears : ∃ s', flag.Hears Services.answer reply engine project user .empty flag.experimentIds
    (engine.tracker? user.id .empty) services [] experiment [] (.error .invalidResponse)
    (engine.tracker? user.id .empty) s' := by
  obtain ⟨s', hsaid⟩ : ∃ s', engine.Inquires Services.answer reply project user.id user.attributes
      experiment.id .empty services (.error .invalidResponse) s' := ⟨_, .consulted rfl (.failed rfl rfl rfl)⟩
  refine ⟨s', rfl, rfl, ?_, services, services, none, ⟨10000, []⟩, .nil, rfl, turnsToBandit, hsaid⟩
  rintro v ⟨key, hkey, -⟩
  cases hkey

end Bandit.Sample

namespace Flag

open Bandit

/-- The call fails, and the client says so. -/
theorem only_bandits_fail_of_invalid_response :
    Sample.run.1.result = .error .invalidResponse ∧
      ∃ texts, Failure.invalidResponse.message ∈ texts ∧
        (Sample.engine.decide Sample.user "f" .empty).run Services.answer Sample.reply Sample.services
          = ((.ofFailure "f" Sample.user texts, []), Sample.run.2) := by
  obtain ⟨hfails, -, hanswers, -⟩ := only_bandits_fail Services.answer Sample.reply Sample.services
    Sample.engine Sample.datafile Sample.flag Sample.user .empty
  dsimp only at hfails hanswers
  obtain ⟨s', hhears⟩ := Sample.hears
  obtain ⟨hresult, -⟩ := (hfails .invalidResponse s').mpr
    ⟨Sample.not_isDecidedEarly, _, _, _, _, hhears⟩
  have hkey : Sample.project.flag? "f" = some Sample.flag := rfl
  have hproject : Services.answer .project Sample.services = (some Sample.project, Sample.services) := rfl
  have hoptions : Sample.engine.defaults.union .empty = .empty := rfl
  obtain ⟨texts, hmem, hdecide⟩ := hanswers _ "f" .empty Sample.services hresult hkey hproject hoptions
  rw [hdecide]
  unfold Sample.run
  exact ⟨hresult, texts, hmem, rfl⟩

end Flag

end FlagEngine
