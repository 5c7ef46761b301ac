import FlagEngine.Proofs.Consulted
import FlagEngine.Proofs.Unassigned

/-!
# Bucketing ids

The attribute that replaces the user id in bucketing replaces it altogether: the verdict on a flag is the same
for users who differ in their ids alone, unless something is assigned to one of these ids
(`Flag.bucketing_id_replaces_user_id`).
-/

namespace FlagEngine

/-- The users have the same attributes, force the same decisions and are bucketed by the same id. Their own ids
may differ. -/
structure User.BucketedAlike (user user' : User) : Prop where
  attributes : ∀ name : String, user.attributes[name]? = user'.attributes[name]?
  forced : ∀ point : DecisionPoint, user.forced[point]? = user'.forced[point]?
  bucketingId : user.attributes.bucketingId user.id = user'.attributes.bucketingId user'.id

namespace User.BucketedAlike

variable {user user' : User} {sharder : Sharder} {p : Project} {flag : Flag}

/-- A string in the reserved attribute takes the place of both ids. -/
theorem of_bucketingKey {id : String}
    (hattributes : ∀ name : String, user.attributes[name]? = user'.attributes[name]?)
    (hforced : ∀ point : DecisionPoint, user.forced[point]? = user'.forced[point]?)
    (hid : user.attributes[Attributes.bucketingKey]? = some (.string id)) : user.BucketedAlike user' where
  attributes := hattributes
  forced := hforced
  bucketingId := by
    unfold Attributes.bucketingId
    rw [← hattributes, hid]

section

variable (h : user.BucketedAlike user')

include h

theorem admits_eq {r : Rule} (hr : p.HasRule r) (n : String) :
    r.admits p n user.attributes = r.admits p n user'.attributes :=
  Rule.admits_congr (fun name _ => h.attributes name) hr n

theorem forcedDecision?_eq (p : Project) (point : DecisionPoint) :
    (user.forcedDecision? p point).value = (user'.forcedDecision? p point).value := by
  refine Option.ext fun v => ?_
  rw [forcedDecision?_eq_some, forcedDecision?_eq_some, Forces, Forces, h.forced]

/-! ## Holdouts -/

theorem holdout_eq {x : Holdout} (hx : x ∈ p.holdouts) :
    (x.serve? sharder p user.id user.attributes).value
      = (x.serve? sharder p user'.id user'.attributes).value := by
  refine Option.ext fun v => ?_
  rw [Holdout.serve?_eq_some, Holdout.serve?_eq_some, ← Rule.admits_eq_true (n := x.key),
    ← Rule.admits_eq_true (n := x.key), h.admits_eq (.holdout hx), h.bucketingId]

theorem holdout?_eq (sharder : Sharder) (p : Project) (flag : Flag) :
    (p.holdout? sharder flag user.id user.attributes).value
      = (p.holdout? sharder flag user'.id user'.attributes).value := by
  have hserve (x : Holdout) (hx : x ∈ p.holdouts) : (x.serve? sharder p user.id user.attributes).value
      = (x.serve? sharder p user'.id user'.attributes).value := h.holdout_eq hx
  unfold Project.holdout?
  generalize p.holdouts = hs at hserve
  induction hs with
  | nil => rfl
  | cons x hs ih =>
    obtain ⟨hx, hs⟩ := List.forall_mem_cons.mp hserve
    unfold Holdout.first?
    split
    · rw [Reasoned.value_bind, Reasoned.value_bind, hx]
      cases (x.serve? sharder p user'.id user'.attributes).value with
      | some v => rfl
      | none => exact ih hs
    · exact ih hs

theorem earlyVerdict?_eq (sharder : Sharder) (p : Project) (flag : Flag) :
    (flag.earlyVerdict? sharder p user).value = (flag.earlyVerdict? sharder p user').value := by
  unfold Flag.earlyVerdict?
  rw [Reasoned.value_bind, Reasoned.value_bind, h.forcedDecision?_eq]
  cases (user'.forcedDecision? p (.ofFlag flag.key)).value with
  | some v => rfl
  | none => rw [Reasoned.value_bind, Reasoned.value_bind, h.holdout?_eq]

/-! ## Experiments -/

theorem placementVerdict?_eq {id : String} {e : Experiment} (he : p.experiment? id = some e) :
    flag.placementVerdict? sharder p user e = flag.placementVerdict? sharder p user' e := by
  unfold Flag.placementVerdict? Experiment.placement?
  rw [h.forcedDecision?_eq, h.admits_eq (.experiment he), h.bucketingId]

theorem placementsVerdict?_eq (sharder : Sharder) (p : Project) (flag : Flag) (ids : List String) :
    flag.placementsVerdict? sharder p user ids = flag.placementsVerdict? sharder p user' ids := by
  unfold Flag.placementsVerdict?
  refine congrArg (ids.findSome? ·) (funext fun id => ?_)
  cases he : p.experiment? id with
  | none => rw [Option.bind_none, Option.bind_none]
  | some e => exact h.placementVerdict?_eq he

/-! ## Rollouts -/

theorem tryRule_eq {rule : Experiment} (hrule : p.HasRule rule.rule) (flagKey name : String) :
    (Rollout.tryRule sharder p flagKey user rule name).value
      = (Rollout.tryRule sharder p flagKey user' rule name).value := by
  unfold Rollout.tryRule
  rw [Reasoned.value_bind, Reasoned.value_bind, h.forcedDecision?_eq]
  cases (user'.forcedDecision? p (.ofRule flagKey rule.key)).value with
  | some v => rfl
  | none =>
    simp only [Reasoned.value_bind, h.admits_eq hrule, h.bucketingId]
    split
    · rw [Reasoned.value_bind, Reasoned.value_bind]
      cases (rule.rule.bucket? sharder (user'.attributes.bucketingId user'.id)).value <;> rfl
    · rfl

theorem tryRules_eq {rules : List Experiment} (hrules : ∀ rule ∈ rules, p.HasRule rule.rule) (flagKey : String)
    (number : Nat) :
    (Rollout.tryRules sharder p flagKey user number rules).value
      = (Rollout.tryRules sharder p flagKey user' number rules).value := by
  induction rules generalizing number with
  | nil => rfl
  | cons rule rest ih =>
    obtain ⟨hrule, hrest⟩ := List.forall_mem_cons.mp hrules
    unfold Rollout.tryRules
    rw [Reasoned.value_bind, Reasoned.value_bind, h.tryRule_eq hrule]
    split
    · rfl
    · exact ih hrest _
    · cases hlast : rest.getLast? with
      | none => rfl
      | some last =>
        have htry : (Rollout.tryRule sharder p flagKey user last Rollout.lastName).value
            = (Rollout.tryRule sharder p flagKey user' last Rollout.lastName).value :=
          h.tryRule_eq (hrest last (List.mem_of_getLast? hlast)) flagKey Rollout.lastName
        simp only [Reasoned.value_bind, htry]

theorem lastVerdict_eq (sharder : Sharder) (p : Project) (flag : Flag) :
    flag.lastVerdict sharder p user = flag.lastVerdict sharder p user' := by
  unfold Flag.lastVerdict
  rw [Flag.value_rolloutVerdict?, Flag.value_rolloutVerdict?]
  cases hrollout : flag.walkedRollout? p with
  | none => rw [Option.bind_none, Option.bind_none]
  | some rollout =>
    have hrules (rule : Experiment) (hrule : rule ∈ rollout.rules) : p.HasRule rule.rule := by
      unfold Flag.walkedRollout? at hrollout
      dsimp only at hrollout
      split at hrollout
      · cases hrollout
      · exact .rollout hrollout hrule
    rw [Option.bind_some, Option.bind_some, h.tryRules_eq hrules]

theorem unassignedVerdict_eq (sharder : Sharder) (p : Project) (flag : Flag) :
    flag.unassignedVerdict sharder p user = flag.unassignedVerdict sharder p user' := by
  unfold Flag.unassignedVerdict
  rw [h.earlyVerdict?_eq, h.placementsVerdict?_eq, h.lastVerdict_eq]

end

end User.BucketedAlike

/-- **The bucketing id replaces the user id.** Let two users have the same attributes, the reserved one of them
a string, and force the same decisions. If none of the experiments of a flag has a bandit, and in none of them
anything is assigned to either user, then the flag comes to the same verdict for both users. -/
theorem Flag.bucketing_id_replaces_user_id {τ : Type} (service : ProfileService τ)
    (reply : Bandit.Call → Services × τ → Bandit.Reply × Services × τ) (s : Services × τ) (engine : Engine)
    (p : Project) (flag : Flag) (options : Options) (user user' : User) (bucketingId : String)
    (hattributes : ∀ name : String, user.attributes[name]? = user'.attributes[name]?)
    (hbucketing : user.attributes[Attributes.bucketingKey]? = some (.string bucketingId))
    (hforced : ∀ point : DecisionPoint, user.forced[point]? = user'.forced[point]?)
    (hbandits : ∀ e, flag.Tries p e → e.bandit = none)
    (hunassigned : ∀ e, flag.Tries p e → e.Unassigned service s user.id ∧ e.Unassigned service s user'.id) :
    let result (u : User) := (((flag.deliberate engine p u options).settle (engine.tracker? u.id options)).run
      (service.answer Services.answer) reply s).1.result
    ∃ verdict, result user = .ok verdict ∧ result user' = .ok verdict := by
  intro result
  have halike : user.BucketedAlike user' := .of_bucketingKey hattributes hforced hbucketing
  have hresult : result user = .ok (flag.unassignedVerdict engine.sharder p user) :=
    result_of_unassigned reply s engine options hbandits fun e he => (hunassigned e he).1
  have hresult' : result user' = .ok (flag.unassignedVerdict engine.sharder p user') :=
    result_of_unassigned reply s engine options hbandits fun e he => (hunassigned e he).2
  rw [← halike.unassignedVerdict_eq] at hresult'
  exact ⟨_, hresult, hresult'⟩

/-! ### Two users with one bucketing id -/

namespace User.BucketedAlike.Sample

def experiment : Experiment :=
  { (default : Experiment) with
    id := "x"
    key := "x"
    status := .running
    variations := [⟨"1", "on", none, []⟩, ⟨"2", "off", none, []⟩]
    traffic := [⟨"1", 5000⟩, ⟨"2", 10000⟩] }

def flag : Flag :=
  ⟨"1", "f", "", ["x"], []⟩

def project : Project :=
  .ofDatafile { (default : Datafile) with experiments := [experiment] }

def engine : Engine :=
  { (default : Engine) with keepsProfiles := true }

def user (id : String) : User :=
  ⟨id, (∅ : Attributes).insert Attributes.bucketingKey (.string "b"), ∅⟩

/-- A store that never fails. -/
def store : ProfileService ProfileStore where
  lookup userId profiles := (some (profiles.profile userId), profiles)
  save userId experimentId variationId profiles := profiles.save userId experimentId variationId

/-- A user who has the bucketing id as its own is set and saved to be in the second variation. -/
def services : Services × ProfileStore :=
  ({ (default : Services) with forced := (∅ : ForcedVariations).put "b" "x" (some "2") },
    (∅ : ProfileStore).save "b" "x" "2")

def reply (_ : Bandit.Call) (s : Services × ProfileStore) : Bandit.Reply × Services × ProfileStore :=
  (.error .noClient, s)

/-- What the flag comes to for a user. -/
def result (user : User) : Except Bandit.Failure Verdict :=
  (((flag.deliberate engine project user .empty).settle (engine.tracker? user.id .empty)).run
    (store.answer Services.answer) reply services).1.result

theorem eq_experiment {e : Experiment} (h : flag.Tries project e) : e = experiment := by
  obtain ⟨id, -, he⟩ := h
  exact List.mem_singleton.mp (Project.of_experiment? he).1

theorem unassigned {userId : String} (hset : services.1.forced.variationId? userId "x" = none)
    (hsaved : (services.2.profile userId)["x"]? = none) : experiment.Unassigned store services userId where
  unset := hset
  unlisted := rfl
  unsaved _ hprofile := Option.some.inj hprofile ▸ hsaved

end User.BucketedAlike.Sample

open User.BucketedAlike in
/-- Both users are put into the first variation. -/
theorem Flag.bucketing_id_replaces_user_id_of_two :
    (∃ verdict, Sample.result (Sample.user "u") = .ok verdict ∧ Sample.result (Sample.user "w") = .ok verdict) ∧
      ((Sample.result (Sample.user "u")).toOption.bind Verdict.variation?).map Variation.key = some "on" := by
  have hresult := bucketing_id_replaces_user_id Sample.store Sample.reply Sample.services Sample.engine
    Sample.project Sample.flag .empty (Sample.user "u") (Sample.user "w") "b" (fun _ => rfl)
    Std.TreeMap.getElem?_insert_self (fun _ => rfl) ?_ ?_
  · refine ⟨?_, by decide +kernel⟩
    unfold Sample.result
    exact hresult
  · intro e he
    rw [Sample.eq_experiment he]
    rfl
  · intro e he
    rw [Sample.eq_experiment he]
    exact ⟨Sample.unassigned (by decide +kernel) (by decide +kernel),
      Sample.unassigned (by decide +kernel) (by decide +kernel)⟩

end FlagEngine
