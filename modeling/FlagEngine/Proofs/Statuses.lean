import FlagEngine.Proofs.Justification

/-!
# Statuses

Unless a decision is forced, experiments and holdouts serve only while they are running:
`Flag.running_or_rollout_of_served`. The rules of a rollout serve whatever their statuses are:
`Rollout.tryRules_withStatus`.
-/

namespace FlagEngine

/-! ## Rollouts -/

def Experiment.withStatus (e : Experiment) (status : Experiment.Status) : Experiment :=
  { e with status }

namespace Rollout

variable {sharder : Sharder} {p : Project} {flagKey name : String} {user : User}

theorem tryRule_withStatus (rule : Experiment) (status : Experiment.Status) :
    tryRule sharder p flagKey user (rule.withStatus status) name
      = tryRule sharder p flagKey user rule name := rfl

/-- Of rules with other statuses, the same one serves the same variation. -/
theorem tryRules_withStatus (status : Experiment → Experiment.Status) (number : Nat)
    (rules : List Experiment) :
    (tryRules sharder p flagKey user number (rules.map fun r => r.withStatus (status r))).value
      = (tryRules sharder p flagKey user number rules).value.map
          fun served => (served.1.withStatus (status served.1), served.2) := by
  induction rules generalizing number with
  | nil => rfl
  | cons rule rest ih =>
    rw [List.map_cons]
    unfold tryRules
    rw [List.isEmpty_map, Reasoned.value_bind, Reasoned.value_bind, tryRule_withStatus]
    split
    · rfl
    · exact ih _
    · rw [List.getLast?_map]
      cases rest.getLast? with
      | none => rfl
      | some last =>
        simp only [Option.map_some, Reasoned.value_bind, tryRule_withStatus]
        split <;> rfl

end Rollout

/-! ## Users without forced decisions -/

namespace Flag

variable {p : Project} {flag : Flag} {user : User} {ruleKey : Option String} {v : Variation}

theorem IsForced.not_isEmpty (h : flag.IsForced p user ruleKey v) : user.forced.isEmpty = false := by
  obtain ⟨key, hkey, -⟩ := h
  cases hempty : user.forced.isEmpty with
  | false => rfl
  | true =>
    rw [Std.TreeMap.getElem?_of_isEmpty hempty] at hkey
    cases hkey

/-- **Only running rules serve, save those of rollouts.** Let a flag of a compiled datafile serve a variation
to a user who forces no decision. Then the verdict names a rule, and this rule is running, or else it is
one of the rollout that the flag names. There it covers the user and allocates them to the variation, and no
status is looked at. -/
theorem running_or_rollout_of_served {σ : Type} (handler : Plan.Handler σ)
    (reply : Bandit.Call → σ → Bandit.Reply × σ) (s : σ) (engine : Engine) (d : Datafile) (key : String)
    (flag : Flag) (user : User) (options : Options) (x : Verdict) (v : Variation)
    (hflag : (Project.ofDatafile d).flag? key = some flag) (hforced : user.forced.isEmpty = true)
    (hx : (((flag.deliberate engine (.ofDatafile d) user options).settle
      (engine.tracker? user.id options)).run handler reply s).1.result = .ok x)
    (hv : x.variation? = some v) :
    ∃ rule, x.rule? = some rule ∧
      (rule.isRunning = true ∨ x.source = .rollout ∧
        ∃ rollout, flag.walkedRollout? (.ofDatafile d) = some rollout ∧
          rule ∈ rollout.rules.map (·.rule) ∧ rule.Covers (.ofDatafile d) user.attributes ∧
            rule.Allocates engine.sharder (user.attributes.bucketingId user.id) v) := by
  have hjustified : x.source.Justifies engine.sharder (.ofDatafile d) flag user x.rule? v :=
    (yields_deliberate (.of_flag? hflag)).of_settle hx v hv
  have notForced {ruleKey : Option String} {w : Variation} :
      ¬ flag.IsForced (.ofDatafile d) user ruleKey w := fun h =>
    Bool.false_ne_true (h.not_isEmpty.symm.trans hforced)
  cases hsource : x.source <;> rw [hsource] at hjustified
  case forced => exact (notForced hjustified.2).elim
  case holdout =>
    obtain ⟨h, -, hrule, hrunning, -⟩ := hjustified
    exact ⟨h.rule, hrule, .inl hrunning⟩
  case featureTest =>
    obtain ⟨id, -, e, -, hrule, hserved⟩ := hjustified
    exact ⟨e.rule, hrule, .inl (hserved.resolve_left notForced).1⟩
  case rollout =>
    obtain ⟨rollout, hrollout, r, hr, hrule, hserved⟩ := hjustified
    exact ⟨r.rule, hrule, .inr ⟨rfl, rollout, hrollout, List.mem_map_of_mem hr,
      hserved.resolve_left notForced⟩⟩

open Rollout

/-- A user without forced decisions is served by the rule of the flag's rollout. -/
theorem running_or_rollout_of_served_by_rollout :
    Sample.user.forced.isEmpty = true ∧
      ∃ x, Sample.result .running = .ok x ∧ x.variation? = some Sample.variation ∧
        ∃ rule, x.rule? = some rule ∧
          (rule.isRunning = true ∨ x.source = .rollout ∧
            ∃ rollout, Sample.flag.walkedRollout? (.ofDatafile (Sample.datafile .running)) = some rollout ∧
              rule ∈ rollout.rules.map (·.rule) ∧
              rule.Covers (.ofDatafile (Sample.datafile .running)) ∅ ∧
              rule.Allocates Sharder.murmur "u" Sample.variation) := by
  have hserved : Sample.served? .running = some (Sample.variation, true) := by decide +kernel
  obtain ⟨x, r, hx, hv, -⟩ := Sample.result_of_served? hserved
  exact ⟨rfl, x, hx, hv, running_or_rollout_of_served Services.answer _ default default _ "f" Sample.flag
    Sample.user .empty x _ (Sample.flag?_datafile _) rfl hx hv⟩

/-- A paused rule of a rollout serves a user who forces no decision. -/
theorem served_by_paused_rule :
    Sample.user.forced.isEmpty = true ∧
      ∃ x r, Sample.result .paused = .ok x ∧ x.variation? = some Sample.variation ∧ x.rule? = some r ∧
        r.isRunning = false := by
  have hserved : Sample.served? .paused = some (Sample.variation, false) := by decide +kernel
  exact ⟨rfl, Sample.result_of_served? hserved⟩

end Flag

end FlagEngine
