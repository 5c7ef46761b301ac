import FlagEngine.Proofs.Bandit.Stage
import FlagEngine.Proofs.EarlyStages

/-!
# Searching for a bandit

The search for a decision of a flag turns to the bandit of an experiment if it has passed over the experiments
before it: `Flag.Hears`. By `Flag.ends_deliberate_error` and `Flag.ends_deliberate_ok` this is the only way to
a failure, and the only way to a variation that a bandit has chosen.
-/

namespace FlagEngine

open Deliberation

variable {σ : Type} {handler : Plan.Handler σ} {reply : Bandit.Call → σ → Bandit.Reply × σ}
  {engine : Engine} {p : Project} {flag : Flag} {user : User} {options : Options} {e : Experiment}
  {tracker tracker' tracker₁ : Option Tracker} {s s' s₁ : σ} {ids before later : List String}
  {said : Except Bandit.Failure Bandit.Choice} {f : Bandit.Failure}

/-- What has been found, if anything has, and otherwise something else. -/
def Deliberation.otherwise {α : Type} (x : Deliberation (Option α)) :
    Option α → Deliberation (Option α)
  | some a => return some a
  | none => x

namespace Flag

/-- In a run the search passes over experiments, which are given by their ids. An experiment is passed over
that the project does not know, and one that serves nothing to the user and has no decision forced for it. -/
inductive PassesOver (handler : Plan.Handler σ) (reply : Bandit.Call → σ → Bandit.Reply × σ)
    (engine : Engine) (p : Project) (flag : Flag) (user : User) (options : Options) :
    List String → Option Tracker → σ → Option Tracker → σ → Prop where
  | nil {tracker : Option Tracker} {s : σ} :
      PassesOver handler reply engine p flag user options [] tracker s tracker s
  | unknown {id : String} {ids : List String} {tracker tracker' : Option Tracker} {s s' : σ} :
      p.experiment? id = none →
      PassesOver handler reply engine p flag user options ids tracker s tracker' s' →
      PassesOver handler reply engine p flag user options (id :: ids) tracker s tracker' s'
  | unserved {id : String} {ids : List String} {e : Experiment} {tracker tracker₁ tracker' : Option Tracker}
      {s s₁ s' : σ} :
      p.experiment? id = some e →
      (∀ v, ¬ user.Forces p (.ofRule flag.key e.key) v) →
      (e.serve? engine p user.id user.attributes options).Ends handler reply tracker s (.ok none) tracker₁ s₁ →
      PassesOver handler reply engine p flag user options ids tracker₁ s₁ tracker' s' →
      PassesOver handler reply engine p flag user options (id :: ids) tracker s tracker' s'

/-- In a run the search through experiments, given by their ids, passes over those before an experiment,
turns to the bandit of this one and hears what it says. -/
structure Hears (handler : Plan.Handler σ) (reply : Bandit.Call → σ → Bandit.Reply × σ) (engine : Engine)
    (p : Project) (flag : Flag) (user : User) (options : Options) (ids : List String)
    (tracker : Option Tracker) (s : σ) (before : List String) (e : Experiment) (later : List String)
    (said : Except Bandit.Failure Bandit.Choice) (tracker' : Option Tracker) (s' : σ) : Prop where
  listed : ids = before ++ e.id :: later
  known : p.experiment? e.id = some e
  unforced : ∀ v, ¬ user.Forces p (.ofRule flag.key e.key) v
  heard : ∃ (s₀ s₁ : σ) (answer : Option String) (b : Experiment.Bandit),
    flag.PassesOver handler reply engine p user options before tracker s tracker' s₀ ∧
    handler (.forcedVariation user.id e.id) s₀ = (answer, s₁) ∧
    e.TurnsToBandit engine p user.id user.attributes answer b ∧
    engine.Inquires handler reply p user.id user.attributes e.id options s₁ said s'

/-! ## One experiment after the other -/

theorem ends_tryExperiment_of_forced {v : Variation} (h : user.Forces p (.ofRule flag.key e.key) v) :
    (flag.tryExperiment engine p user options e).Ends handler reply tracker s
      (.ok (some (.featureTest e v none))) tracker s := by
  refine (ends_ofReasoned_bind (r := user.forcedDecision? p (.ofRule flag.key e.key))).mpr ?_
  rw [User.forcedDecision?_eq_some.mpr h]
  exact ends_pure.mpr ⟨rfl, rfl, rfl⟩

/-- Without a forced decision, the experiment has the say. -/
theorem ends_tryExperiment {served : Except Bandit.Failure (Option Served)}
    (hunforced : ∀ v, ¬ user.Forces p (.ofRule flag.key e.key) v)
    (h : (e.serve? engine p user.id user.attributes options).Ends handler reply tracker s served
      tracker' s') :
    (flag.tryExperiment engine p user options e).Ends handler reply tracker s
      (served.map (·.map fun x => .featureTest e x.variation x.banditUuid)) tracker' s' := by
  have hforced : (user.forcedDecision? p (.ofRule flag.key e.key)).value = none := by
    refine Option.eq_none_iff_forall_ne_some.mpr fun v hv => ?_
    exact hunforced v (User.forcedDecision?_eq_some.mp hv)
  refine (ends_ofReasoned_bind (r := user.forcedDecision? p (.ofRule flag.key e.key))).mpr ?_
  rw [hforced]
  cases served with
  | error f => exact h.bind_error
  | ok served => exact h.bind (ends_pure.mpr ⟨rfl, rfl, rfl⟩)

theorem tryExperiments_cons_of_none {id : String} (h : p.experiment? id = none) :
    tryExperiments engine p flag user options (id :: ids) = tryExperiments engine p flag user options ids := by
  rw [tryExperiments, h]

theorem tryExperiments_cons_of_some {id : String} (h : p.experiment? id = some e) :
    tryExperiments engine p flag user options (id :: ids)
      = flag.tryExperiment engine p user options e >>=
          otherwise (tryExperiments engine p flag user options ids) := by
  rw [tryExperiments, h]
  refine congrArg (flag.tryExperiment engine p user options e >>= ·) (funext fun verdict => ?_)
  cases verdict <;> rfl

/-- Two searches, one after the other. -/
theorem tryExperiments_append (ids ids' : List String) :
    tryExperiments engine p flag user options (ids ++ ids')
      = tryExperiments engine p flag user options ids >>=
          otherwise (tryExperiments engine p flag user options ids') := by
  induction ids with
  | nil => exact (pure_bind none (otherwise (tryExperiments engine p flag user options ids'))).symm
  | cons id ids ih =>
    rw [List.cons_append]
    cases h : p.experiment? id with
    | none => rw [tryExperiments_cons_of_none h, tryExperiments_cons_of_none h, ih]
    | some e =>
      rw [tryExperiments_cons_of_some h, tryExperiments_cons_of_some h, bind_assoc]
      refine congrArg _ (funext fun verdict => ?_)
      cases verdict with
      | some x => exact (pure_bind (some x) (otherwise (tryExperiments engine p flag user options ids'))).symm
      | none => exact ih

theorem PassesOver.ends_iff {result : Except Bandit.Failure (Option Verdict)}
    (h : flag.PassesOver handler reply engine p user options before tracker s tracker₁ s₁) :
    (tryExperiments engine p flag user options (before ++ ids)).Ends handler reply tracker s result
        tracker' s' ↔
      (tryExperiments engine p flag user options ids).Ends handler reply tracker₁ s₁ result tracker' s' := by
  induction h with
  | nil => rfl
  | unknown hid _ ih => rw [List.cons_append, tryExperiments_cons_of_none hid, ih]
  | unserved hid hunforced hserve _ ih =>
    rw [List.cons_append, tryExperiments_cons_of_some hid, (ends_tryExperiment hunforced hserve).bind_iff]
    exact ih

/-! ## Hearing a bandit -/

theorem Hears.ends_tryExperiments_of_error
    (h : flag.Hears handler reply engine p user options ids tracker s before e later (.error f) tracker' s') :
    (tryExperiments engine p flag user options ids).Ends handler reply tracker s (.error f) tracker' s' := by
  obtain ⟨s₀, s₁, answer, b, hpasses, hanswer, hturns, hsaid⟩ := h.heard
  rw [h.listed, hpasses.ends_iff, tryExperiments_cons_of_some h.known]
  exact (ends_tryExperiment h.unforced (Experiment.ends_serve?_of_turns _ hturns hanswer hsaid)).bind_error

theorem Hears.ends_tryExperiments_of_ok {choice : Bandit.Choice} {v : Variation}
    (h : flag.Hears handler reply engine p user options ids tracker s before e later (.ok choice) tracker' s')
    (hv : e.rule.variationById? choice.variationId = some v) :
    (tryExperiments engine p flag user options ids).Ends handler reply tracker s
      (.ok (some (.featureTest e v (some choice.uuid)))) tracker' s' := by
  obtain ⟨s₀, s₁, answer, b, hpasses, hanswer, hturns, hsaid⟩ := h.heard
  have hserve := Experiment.ends_serve?_of_turns tracker' hturns hanswer hsaid
  have htry := ends_tryExperiment h.unforced hserve
  rw [Experiment.ofBandit_of_some hv] at htry
  rw [h.listed, hpasses.ends_iff, tryExperiments_cons_of_some h.known]
  exact htry.bind (ends_pure.mpr ⟨rfl, rfl, rfl⟩)

theorem Hears.cons_of_none {id : String} (hid : p.experiment? id = none)
    (h : flag.Hears handler reply engine p user options ids tracker s before e later said tracker' s') :
    flag.Hears handler reply engine p user options (id :: ids) tracker s (id :: before) e later said
      tracker' s' := by
  obtain ⟨s₀, s₁, answer, b, hpasses, hrest⟩ := h.heard
  exact { h with
    listed := congrArg (id :: ·) h.listed
    heard := ⟨s₀, s₁, answer, b, .unknown hid hpasses, hrest⟩ }

theorem Hears.cons_of_some {id : String} {e' : Experiment} (hid : p.experiment? id = some e')
    (hunforced : ∀ v, ¬ user.Forces p (.ofRule flag.key e'.key) v)
    (hserve : (e'.serve? engine p user.id user.attributes options).Ends handler reply tracker s (.ok none)
      tracker₁ s₁)
    (h : flag.Hears handler reply engine p user options ids tracker₁ s₁ before e later said tracker' s') :
    flag.Hears handler reply engine p user options (id :: ids) tracker s (id :: before) e later said
      tracker' s' := by
  obtain ⟨s₀, s₂, answer, b, hpasses, hrest⟩ := h.heard
  exact { h with
    listed := congrArg (id :: ·) h.listed
    heard := ⟨s₀, s₂, answer, b, .unserved hid hunforced hserve hpasses, hrest⟩ }

/-- What the search comes to is the doing of a bandit that it has heard: a failure, or a choice. -/
inductive Heeds (handler : Plan.Handler σ) (reply : Bandit.Call → σ → Bandit.Reply × σ) (engine : Engine)
    (p : Project) (flag : Flag) (user : User) (options : Options) (ids : List String)
    (tracker : Option Tracker) (s : σ) :
    Except Bandit.Failure (Option Verdict) → Option Tracker → σ → Prop where
  | failed {before later : List String} {e : Experiment} {f : Bandit.Failure} {tracker' : Option Tracker}
      {s' : σ} :
      flag.Hears handler reply engine p user options ids tracker s before e later (.error f) tracker' s' →
      Heeds handler reply engine p flag user options ids tracker s (.error f) tracker' s'
  | chosen {before later : List String} {e : Experiment} {choice : Bandit.Choice} {v : Variation}
      {tracker' : Option Tracker} {s' : σ} :
      flag.Hears handler reply engine p user options ids tracker s before e later (.ok choice) tracker' s' →
      e.rule.variationById? choice.variationId = some v →
      Heeds handler reply engine p flag user options ids tracker s
        (.ok (some (.featureTest e v (some choice.uuid)))) tracker' s'

variable {result : Except Bandit.Failure (Option Verdict)}

theorem Heeds.cons_of_none {id : String} (hid : p.experiment? id = none)
    (h : flag.Heeds handler reply engine p user options ids tracker s result tracker' s') :
    flag.Heeds handler reply engine p user options (id :: ids) tracker s result tracker' s' := by
  cases h with
  | failed h => exact .failed (h.cons_of_none hid)
  | chosen h hv => exact .chosen (h.cons_of_none hid) hv

theorem Heeds.cons_of_some {id : String} {e' : Experiment} (hid : p.experiment? id = some e')
    (hunforced : ∀ v, ¬ user.Forces p (.ofRule flag.key e'.key) v)
    (hserve : (e'.serve? engine p user.id user.attributes options).Ends handler reply tracker s (.ok none)
      tracker₁ s₁)
    (h : flag.Heeds handler reply engine p user options ids tracker₁ s₁ result tracker' s') :
    flag.Heeds handler reply engine p user options (id :: ids) tracker s result tracker' s' := by
  cases h with
  | failed h => exact .failed (h.cons_of_some hid hunforced hserve)
  | chosen h hv => exact .chosen (h.cons_of_some hid hunforced hserve) hv

/-- No bandit has chosen the variation of the verdict, if there is one. -/
def IsPlain (verdict : Option Verdict) : Prop :=
  ∀ x ∈ verdict, x.banditUuid? = none

theorem isPlain_none : IsPlain none := by
  rintro _ ⟨⟩

theorem isPlain_some {x : Verdict} (h : x.banditUuid? = none) : IsPlain (some x) := by
  rintro _ ⟨⟩
  exact h

section

-- Projects find experiments by their own ids.
variable (hp : ∀ id e, p.experiment? id = some e → e.id = id)

include hp

/-- The search does not fail and finds nothing of a bandit, or it heeds one. -/
theorem plain_or_heeds
    (h : (tryExperiments engine p flag user options ids).Ends handler reply tracker s result tracker' s') :
    (∃ verdict, result = .ok verdict ∧ IsPlain verdict) ∨
      flag.Heeds handler reply engine p user options ids tracker s result tracker' s' := by
  induction ids generalizing tracker s with
  | nil => exact .inl ⟨none, (ends_pure.mp h).1, isPlain_none⟩
  | cons id ids ih =>
    cases hid : p.experiment? id with
    | none =>
      rw [tryExperiments_cons_of_none hid] at h
      exact (ih h).imp_right (·.cons_of_none hid)
    | some e =>
      obtain rfl := hp id e hid
      rw [tryExperiments_cons_of_some hid] at h
      by_cases hforced : ∃ v, user.Forces p (.ofRule flag.key e.key) v
      · obtain ⟨v, hv⟩ := hforced
        rw [(ends_tryExperiment_of_forced hv).bind_iff] at h
        exact .inl ⟨_, (ends_pure.mp h).1, isPlain_some rfl⟩
      · have hunforced : ∀ v, ¬ user.Forces p (.ofRule flag.key e.key) v := fun v hv => hforced ⟨v, hv⟩
        obtain ⟨served, tracker₁, s₂, hserve⟩ :=
          exists_ends handler reply (e.serve? engine p user.id user.attributes options) tracker s
        have htry := ends_tryExperiment hunforced hserve
        -- What comes later decides if this experiment serves nothing.
        have hnext (hnone : served = .ok none) : (∃ verdict, result = .ok verdict ∧ IsPlain verdict) ∨
            flag.Heeds handler reply engine p user options (e.id :: ids) tracker s result tracker' s' := by
          subst hnone
          exact (ih (htry.bind_iff.mp h)).imp_right (·.cons_of_some hid hunforced hserve)
        rcases Experiment.plain_or_ofBandit hserve with
          ⟨served, rfl, hplain⟩ | ⟨s₁, answer, b, said, hanswer, hturns, hsaid, rfl, rfl⟩
        · cases served with
          | none => exact hnext rfl
          | some served =>
            rw [htry.bind_iff] at h
            exact .inl ⟨_, (ends_pure.mp h).1, isPlain_some (hplain served rfl)⟩
        · have hhears : flag.Hears handler reply engine p user options (e.id :: ids) tracker₁ s [] e ids said
              tracker₁ s₂ :=
            ⟨rfl, hid, hunforced, s, s₁, answer, b, .nil, hanswer, hturns, hsaid⟩
          cases said with
          | error f =>
            obtain ⟨rfl, rfl, rfl⟩ := h.unique htry.bind_error
            exact .inr (.failed hhears)
          | ok choice =>
            cases hv : e.rule.variationById? choice.variationId with
            | none => exact hnext (Experiment.ofBandit_of_none hv)
            | some v =>
              rw [Experiment.ofBandit_of_some hv] at htry
              obtain ⟨rfl, rfl, rfl⟩ := h.unique (htry.bind (ends_pure.mpr ⟨rfl, rfl, rfl⟩))
              exact .inr (.chosen hhears hv)

end

theorem Heeds.ends
    (h : flag.Heeds handler reply engine p user options ids tracker s result tracker' s') :
    (tryExperiments engine p flag user options ids).Ends handler reply tracker s result tracker' s' := by
  cases h with
  | failed h => exact h.ends_tryExperiments_of_error
  | chosen h hv => exact h.ends_tryExperiments_of_ok hv

/-! ## Deciding the flag -/

theorem ends_experimentVerdict? :
    (flag.experimentVerdict? engine p user options).Ends handler reply tracker s result tracker' s' ↔
      (tryExperiments engine p flag user options flag.experimentIds).Ends handler reply tracker s result
        tracker' s' := by
  unfold experimentVerdict?
  split
  · next hnil =>
    rw [List.isEmpty_iff.mp hnil]
    have hnote : (note (.noExperiments flag.key)).Ends handler reply tracker s (.ok ()) tracker s :=
      ends_note _
    exact hnote.bind_iff
  · rfl

theorem isDecidedEarly_of_earlyVerdict? {x : Verdict}
    (h : (flag.earlyVerdict? engine.sharder p user).value = some x) :
    flag.IsDecidedEarly engine.sharder p user := by
  unfold earlyVerdict? at h
  rw [Reasoned.value_bind] at h
  cases hforced : (user.forcedDecision? p (.ofFlag flag.key)).value with
  | some v => exact .inl ⟨v, User.forcedDecision?_eq_some.mp hforced⟩
  | none =>
    rw [hforced] at h
    obtain ⟨⟨h', v⟩, hfound, -⟩ := Option.map_eq_some_iff.mp h
    obtain ⟨hmem, happlies, hserve⟩ := Holdout.of_first? hfound
    obtain ⟨hrunning, hcovers, hallocates⟩ := Holdout.serve?_eq_some.mp hserve
    exact .inr ⟨h', hmem, happlies, hrunning, hcovers, v, hallocates⟩

theorem earlyVerdict?_eq_none (h : ¬ flag.IsDecidedEarly engine.sharder p user) :
    (flag.earlyVerdict? engine.sharder p user).value = none := by
  cases hearly : (flag.earlyVerdict? engine.sharder p user).value with
  | some x => exact (h (isDecidedEarly_of_earlyVerdict? hearly)).elim
  | none => rfl

variable {decided : Except Bandit.Failure Verdict}

theorem banditUuid?_of_early (h : flag.IsDecidedEarly engine.sharder p user)
    (hends : (flag.deliberate engine p user options).Ends handler reply tracker s decided tracker' s') :
    ∃ x, decided = .ok x ∧ x.banditUuid? = none := by
  obtain ⟨x, hx, hsource⟩ := exists_earlyVerdict? h
  rw [deliberate_of_earlyVerdict? hx] at hends
  refine ⟨x, (ends_ofReasoned.mp hends).1, ?_⟩
  cases x with
  | forced v | holdout h v | rollout rule v | nothing => rfl
  | featureTest e v uuid => simp [Verdict.source] at hsource

/-- The verdict on the flag if neither an early stage nor an experiment decides it. -/
def lastVerdict (sharder : Sharder) (p : Project) (flag : Flag) (user : User) : Verdict :=
  (flag.rolloutVerdict? sharder p user).value.getD .nothing

theorem banditUuid?_lastVerdict (sharder : Sharder) (p : Project) (flag : Flag) (user : User) :
    (flag.lastVerdict sharder p user).banditUuid? = none := by
  unfold lastVerdict
  rw [value_rolloutVerdict?]
  cases flag.walkedRollout? p with
  | none => rfl
  | some rollout =>
    dsimp only [Option.bind_some]
    cases (Rollout.tryRules sharder p flag.key user 1 rollout.rules).value with
    | none => rfl
    | some served => rfl

/-- If the experiments are looked at, what they come to is decided, or the rollout decides. -/
theorem ends_deliberate (hlate : ¬ flag.IsDecidedEarly engine.sharder p user)
    (h : (tryExperiments engine p flag user options flag.experimentIds).Ends handler reply tracker s result
      tracker' s') :
    (flag.deliberate engine p user options).Ends handler reply tracker s
      (result.map (·.getD (flag.lastVerdict engine.sharder p user))) tracker' s' := by
  rw [deliberate_eq]
  refine ends_ofReasoned_bind.mpr ?_
  rw [earlyVerdict?_eq_none hlate]
  have hverdict := ends_experimentVerdict?.mpr h
  cases result with
  | error f => exact hverdict.bind_error
  | ok verdict =>
    refine hverdict.bind ?_
    cases verdict with
    | some x => exact ends_pure.mpr ⟨rfl, rfl, rfl⟩
    | none =>
      unfold lastVerdict
      generalize flag.rolloutVerdict? engine.sharder p user = r
      exact (ends_ofReasoned_bind (r := r)).mpr (ends_pure.mpr ⟨rfl, rfl, rfl⟩)

theorem Hears.ends_deliberate_of_error (hlate : ¬ flag.IsDecidedEarly engine.sharder p user)
    (h : flag.Hears handler reply engine p user options flag.experimentIds tracker s before e later (.error f)
      tracker' s') :
    (flag.deliberate engine p user options).Ends handler reply tracker s (.error f) tracker' s' :=
  ends_deliberate hlate h.ends_tryExperiments_of_error

theorem Hears.ends_deliberate_of_ok (hlate : ¬ flag.IsDecidedEarly engine.sharder p user)
    {choice : Bandit.Choice} {v : Variation}
    (h : flag.Hears handler reply engine p user options flag.experimentIds tracker s before e later
      (.ok choice) tracker' s')
    (hv : e.rule.variationById? choice.variationId = some v) :
    (flag.deliberate engine p user options).Ends handler reply tracker s
      (.ok (.featureTest e v (some choice.uuid))) tracker' s' :=
  ends_deliberate hlate (h.ends_tryExperiments_of_ok hv)

section

-- Projects find experiments by their own ids.
variable (hp : ∀ id e, p.experiment? id = some e → e.id = id)

include hp

/-- The flag is decided and no bandit has a part in that, or the search has heeded a bandit. -/
theorem plain_or_heeds_of_deliberate
    (h : (flag.deliberate engine p user options).Ends handler reply tracker s decided tracker' s') :
    (∃ x, decided = .ok x ∧ x.banditUuid? = none) ∨
      ¬ flag.IsDecidedEarly engine.sharder p user ∧
        ∃ result, flag.Heeds handler reply engine p user options flag.experimentIds tracker s result
          tracker' s' ∧ decided = result.map (·.getD .nothing) := by
  by_cases hearly : flag.IsDecidedEarly engine.sharder p user
  · exact .inl (banditUuid?_of_early hearly h)
  · obtain ⟨result, tracker₁, s₁, htry⟩ := exists_ends handler reply
      (tryExperiments engine p flag user options flag.experimentIds) tracker s
    obtain ⟨rfl, rfl, rfl⟩ := h.unique (ends_deliberate hearly htry)
    rcases plain_or_heeds hp htry with ⟨verdict, rfl, hplain⟩ | hheeds
    · refine .inl ⟨_, rfl, ?_⟩
      cases verdict with
      | some x => exact hplain x rfl
      | none =>
        dsimp only [Option.getD_none]
        exact flag.banditUuid?_lastVerdict engine.sharder p user
    · refine .inr ⟨hearly, result, hheeds, ?_⟩
      cases hheeds with
      | failed | chosen => simp only [Except.map, Option.getD_some]

/-- A flag fails to be decided if and only if a bandit fails that the search has turned to. -/
theorem ends_deliberate_error :
    (flag.deliberate engine p user options).Ends handler reply tracker s (.error f) tracker' s' ↔
      ¬ flag.IsDecidedEarly engine.sharder p user ∧ ∃ before e later,
        flag.Hears handler reply engine p user options flag.experimentIds tracker s before e later (.error f)
          tracker' s' := by
  constructor
  · intro h
    rcases plain_or_heeds_of_deliberate hp h with ⟨x, hx, -⟩ | ⟨hlate, result, hheeds, hresult⟩
    · cases hx
    · cases hheeds with
      | failed hhears =>
        cases hresult
        exact ⟨hlate, _, _, _, hhears⟩
      | chosen => cases hresult
  · rintro ⟨hlate, before, e, later, hhears⟩
    exact hhears.ends_deliberate_of_error hlate

/-- A flag is decided for what a bandit has chosen if and only if the search has turned to the bandit and the
bandit has chosen it. -/
theorem ends_deliberate_ok {x : Verdict} {uuid : String} :
    (flag.deliberate engine p user options).Ends handler reply tracker s (.ok x) tracker' s' ∧
        x.banditUuid? = some uuid ↔
      ¬ flag.IsDecidedEarly engine.sharder p user ∧ ∃ before e later variationId v,
        flag.Hears handler reply engine p user options flag.experimentIds tracker s before e later
          (.ok ⟨variationId, uuid⟩) tracker' s' ∧
        e.rule.variationById? variationId = some v ∧ x = .featureTest e v (some uuid) := by
  constructor
  · rintro ⟨h, huuid⟩
    rcases plain_or_heeds_of_deliberate hp h with ⟨_, ⟨⟩, hplain⟩ | ⟨hlate, result, hheeds, hresult⟩
    · cases huuid.symm.trans hplain
    · cases hheeds with
      | failed => cases hresult
      | chosen hhears hv =>
        cases hresult
        cases huuid
        exact ⟨hlate, _, _, _, _, _, hhears, hv, rfl⟩
  · rintro ⟨hlate, before, e, later, variationId, v, hhears, hv, rfl⟩
    exact ⟨hhears.ends_deliberate_of_ok hlate hv, rfl⟩

end

end Flag

end FlagEngine
