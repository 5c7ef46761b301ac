import FlagEngine.Proofs.Rules
import FlagEngine.Proofs.Transcripts
import FlagEngine.Services

/-!
# Early stages

A decision forced for the whole flag, or a holdout, decides a flag before any of its experiments is looked
at. Nothing is asked of the services then, so that nothing that they could say matters:
`Flag.early_stages_idle`.
-/

namespace FlagEngine

open Deliberation (ofReasoned)

theorem Deliberation.ofReasoned_bind {α β : Type} (x : Reasoned α) (f : α → Reasoned β) :
    ofReasoned (x >>= f) = ofReasoned x >>= fun a => ofReasoned (f a) := rfl

/-! ## Holdouts -/

namespace Holdout

variable {sharder : Sharder} {p : Project} {h : Holdout} {hs : List Holdout} {flag : Flag} {user : User}

/-- The holdout applies to the flag and withholds the user from it. -/
structure Withholds (sharder : Sharder) (p : Project) (flag : Flag) (user : User) (h : Holdout) : Prop where
  applies : h.appliesTo flag.id = true
  running : h.rule.isRunning = true
  covers : h.rule.Covers p user.attributes
  allocates : ∃ v, h.rule.Allocates sharder (user.attributes.bucketingId user.id) v

/-- If one of the holdouts withholds the user, the first one to do so is found. -/
theorem isSome_first? (hh : h ∈ hs) (hw : h.Withholds sharder p flag user) :
    (first? sharder p flag.id user.id user.attributes hs).value.isSome = true := by
  induction hs with
  | nil => cases hh
  | cons h' hs ih =>
    unfold first?
    rcases List.mem_cons.mp hh with rfl | hh
    · obtain ⟨v, hv⟩ := hw.allocates
      have hserve : (h.serve? sharder p user.id user.attributes).value = some v :=
        serve?_eq_some.mpr ⟨hw.running, hw.covers, hv⟩
      rw [if_pos hw.applies, Reasoned.value_bind, hserve]
      rfl
    · split
      · rw [Reasoned.value_bind]
        split
        · rfl
        · exact ih hh
      · exact ih hh

end Holdout

/-! ## The first two stages -/

/-- A call that has not read the profile has nothing to save. -/
theorem Tracker.saveIfAny_tracker? (engine : Engine) (userId : String) (options : Options) :
    saveIfAny (engine.tracker? userId options) = .done () := by
  unfold Engine.tracker?
  split <;> rfl

namespace Flag

variable {engine : Engine} {sharder : Sharder} {p : Project} {flag : Flag} {user : User}
  {options : Options} {x : Verdict}

/-- What the stages before the experiments come to. -/
def earlyVerdict? (sharder : Sharder) (p : Project) (flag : Flag) (user : User) :
    Reasoned (Option Verdict) := do
  match ← user.forcedDecision? p (.ofFlag flag.key) with
  | some v => return some (.forced v)
  | none =>
    let holdout ← p.holdout? sharder flag user.id user.attributes
    return holdout.map fun served => .holdout served.1 served.2

theorem deliberate_eq (engine : Engine) (p : Project) (flag : Flag) (user : User) (options : Options) :
    flag.deliberate engine p user options
      = ofReasoned (flag.earlyVerdict? engine.sharder p user) >>= fun early =>
          match early with
          | some x => return x
          | none => do
            match ← flag.experimentVerdict? engine p user options with
            | some verdict => return verdict
            | none => return (← flag.rolloutVerdict? engine.sharder p user).getD .nothing := by
  unfold deliberate earlyVerdict?
  rw [Deliberation.ofReasoned_bind, bind_assoc]
  refine congrArg _ (funext fun forced => ?_)
  cases forced with
  | some v => rfl
  | none =>
    dsimp only
    rw [Deliberation.ofReasoned_bind, bind_assoc]
    refine congrArg _ (funext fun holdout => ?_)
    cases holdout with
    | some served => rfl
    | none =>
      symm
      exact pure_bind (m := Deliberation) (none : Option Verdict) _

theorem deliberate_of_earlyVerdict? (h : (flag.earlyVerdict? engine.sharder p user).value = some x) :
    flag.deliberate engine p user options
      = ofReasoned ⟨x, (flag.earlyVerdict? engine.sharder p user).reasons⟩ := by
  funext tracker
  rw [deliberate_eq, Deliberation.bind_apply, Deliberation.ofReasoned_apply, h]
  simp [Deliberation.resume]

/-- Of the decisions that the user forces, the first stages look at the one for the whole flag alone. -/
theorem earlyVerdict?_congr {user' : User} (hid : user'.id = user.id)
    (hattributes : user'.attributes = user.attributes)
    (hforced : user'.forced[DecisionPoint.ofFlag flag.key]? = user.forced[DecisionPoint.ofFlag flag.key]?) :
    flag.earlyVerdict? sharder p user' = flag.earlyVerdict? sharder p user := by
  have hdecision : user'.forcedDecision? p (.ofFlag flag.key)
      = user.forcedDecision? p (.ofFlag flag.key) := by
    unfold User.forcedDecision?
    rw [hforced, hid]
  unfold earlyVerdict?
  rw [hdecision, hid, hattributes]

/-- The flag is decided before its experiments: the user forces it to a variation that the project knows of
it, or a holdout withholds the user from it. -/
def IsDecidedEarly (sharder : Sharder) (p : Project) (flag : Flag) (user : User) : Prop :=
  (∃ v, user.Forces p (.ofFlag flag.key) v) ∨ ∃ h ∈ p.holdouts, h.Withholds sharder p flag user

theorem exists_earlyVerdict? (h : flag.IsDecidedEarly sharder p user) :
    ∃ x, (flag.earlyVerdict? sharder p user).value = some x ∧
      (x.source = .forced ∨ x.source = .holdout) := by
  unfold earlyVerdict?
  rw [Reasoned.value_bind]
  cases hforced : (user.forcedDecision? p (.ofFlag flag.key)).value with
  | some v => exact ⟨.forced v, rfl, .inl rfl⟩
  | none =>
    rcases h with ⟨v, hv⟩ | ⟨h, hh, hw⟩
    · rw [User.forcedDecision?_eq_some.mpr hv] at hforced
      cases hforced
    · obtain ⟨served, hserved⟩ := Option.isSome_iff_exists.mp (Holdout.isSome_first? hh hw)
      refine ⟨.holdout served.1 served.2, ?_, .inr rfl⟩
      rw [Reasoned.value_bind, Project.holdout?, hserved]
      rfl

/-- **The early stages have no side effects.** Let a user force a decision for a whole flag, for a variation
that the project knows of it, or let a holdout serve the user. Then to decide the flag asks nothing of the
services and makes no fetch, whatever the options are, and leaves the services as they were. There is one
verdict with one list of reasons that comes of it whatever the services and the bandit would say, whatever
the options and the engine are as long as it buckets alike, and whatever the user forces otherwise. -/
theorem early_stages_idle (sharder : Sharder) (p : Project) (flag : Flag) (user : User)
    (h : flag.IsDecidedEarly sharder p user) :
    ∃ verdict reasons, (verdict.source = .forced ∨ verdict.source = .holdout) ∧
      ∀ {σ : Type} (handler : Plan.Handler σ) (reply : Bandit.Call → σ → Bandit.Reply × σ) (s : σ)
        (engine : Engine) (options : Options) (user' : User), engine.sharder = sharder →
        user'.id = user.id → user'.attributes = user.attributes →
        user'.forced[DecisionPoint.ofFlag flag.key]? = user.forced[DecisionPoint.ofFlag flag.key]? →
        let call := (flag.deliberate engine p user' options).settle (engine.tracker? user'.id options)
        call.transcript handler reply s = [] ∧ (call.run handler reply s).2 = s ∧
          (call.run handler reply s).1.result = .ok verdict ∧
          (call.run handler reply s).1.reasons = reasons := by
  obtain ⟨verdict, hverdict, hsource⟩ := exists_earlyVerdict? h
  refine ⟨verdict, (flag.earlyVerdict? sharder p user).reasons, hsource, ?_⟩
  intro σ handler reply s engine options user' hsharder hid hattributes hforced call
  subst hsharder
  have hearly : flag.earlyVerdict? engine.sharder p user' = flag.earlyVerdict? engine.sharder p user :=
    earlyVerdict?_congr hid hattributes hforced
  have hcall : call = .done ⟨.ok verdict, engine.tracker? user'.id options,
      (flag.earlyVerdict? engine.sharder p user).reasons⟩ := by
    rw [← hearly] at hverdict ⊢
    unfold call Deliberation.settle
    rw [deliberate_of_earlyVerdict? hverdict, Deliberation.ofReasoned_apply, Plan.done_bind,
      Tracker.saveIfAny_tracker?]
    rfl
  rw [hcall]
  exact ⟨rfl, rfl, rfl, rfl⟩

end Flag

/-! ### A holdout for everyone -/

namespace Holdout.Sample

def holdout : Holdout :=
  { (default : Holdout) with
    id := "h"
    key := "h"
    status := .running
    variations := [⟨"v", "off", none, []⟩]
    traffic := [⟨"v", 10000⟩] }

def flag : Flag :=
  ⟨"1", "f", "", [], []⟩

def project : Project :=
  .ofDatafile { (default : Datafile) with
    flags := [flag]
    holdouts := [holdout] }

def user : User :=
  ⟨"u", ∅, ∅⟩

def engine : Engine :=
  { (default : Engine) with
    keepsProfiles := true
    hasBandit := true }

/-- Everything that can be done to the cache of bandit decisions. -/
def options : Options :=
  .ofList [.ignoreBanditCache, .resetBanditCache, .invalidateUserBanditCache]

def run (s : Services) : Outcome Verdict × Services :=
  ((flag.deliberate engine project user options).settle (engine.tracker? user.id options)).run
    Services.answer (fun _ s => (.error .noClient, s)) s

end Holdout.Sample

namespace Flag

open Holdout

theorem early_stages_idle_of_holdout :
    Sample.flag.IsDecidedEarly Sample.engine.sharder Sample.project Sample.user ∧
      ∃ verdict, (verdict.source = .forced ∨ verdict.source = .holdout) ∧
        ∀ s, (Sample.run s).1.result = .ok verdict ∧ (Sample.run s).2 = s := by
  have hearly : Sample.flag.IsDecidedEarly Sample.engine.sharder Sample.project Sample.user := by
    refine .inr ⟨Sample.holdout, List.mem_singleton_self _, rfl, rfl, ?_, ⟨_, "v", ?_, rfl⟩⟩
    · unfold Rule.Covers
      decide +kernel
    · decide +kernel
  obtain ⟨verdict, reasons, hsource, hcall⟩ :=
    early_stages_idle Sample.engine.sharder Sample.project Sample.flag Sample.user hearly
  refine ⟨hearly, verdict, hsource, fun s => ?_⟩
  obtain ⟨-, hstate, hresult, -⟩ :=
    hcall Services.answer (fun _ s => (.error .noClient, s)) s Sample.engine Sample.options Sample.user
      rfl rfl rfl rfl
  unfold Sample.run
  exact ⟨hresult, hstate⟩

end Flag

end FlagEngine
