import FlagEngine.Proofs.Bandit.Stage
import FlagEngine.Proofs.Preservation
import FlagEngine.Proofs.Projects

/-!
# Mutual exclusion

The ranges of a group with the policy `random` let a bucketing id past the group for one experiment at most.
No other experiment of the group comes to a variation by its ranges or asks its bandit for one, in whatever
calls: `Group.excludes_others`.
-/

namespace FlagEngine

open Deliberation

variable {σ : Type} {handler : Plan.Handler σ} {reply : Bandit.Call → σ → Bandit.Reply × σ}
  {sharder : Sharder} {p : Project} {d : Datafile} {bucketingId id : String}

namespace Project

/-- If the experiment is in a group with the policy `random`, it is the one that the ranges of the group
allocate. -/
def Elects (sharder : Sharder) (p : Project) (bucketingId experimentId : String) : Prop :=
  ∀ g, p.groupOf? experimentId = some g → g.policy = .random →
    sharder.bucket? bucketingId g.id g.traffic = some experimentId

/-- An experiment is let past its group for a bucketing id, be it in the check of the group, in bucketing, or
on the way to a fetch in a call of an engine. -/
inductive LetsPast (sharder : Sharder) (p : Project) (bucketingId : String) : String → Prop where
  | admitted {e : Experiment} : (e.passesGroup sharder p bucketingId).value = true →
      LetsPast sharder p bucketingId e.id
  | bucketed {e : Experiment} {v : Variation} : (e.bucket? sharder p bucketingId).value = some v →
      LetsPast sharder p bucketingId e.id
  | fetched {σ : Type} {handler : Plan.Handler σ} {reply : Bandit.Call → σ → Bandit.Reply × σ} {s : σ}
      {engine : Engine} {errand : Errand} {call : Bandit.Call} {answer : Bandit.Reply} :
      engine.sharder = sharder → errand.user.attributes.bucketingId errand.user.id = bucketingId →
      (handler .project s).1 = some p →
      .fetched call answer ∈ (engine.carryOut errand).transcript handler reply s →
      LetsPast sharder p bucketingId call.ruleId

end Project

open Project (Elects)

/-! ## The check of the group -/

theorem Experiment.elects_of_passesGroup {e : Experiment}
    (h : (e.passesGroup sharder (.ofDatafile d) bucketingId).value = true) :
    Elects sharder (.ofDatafile d) bucketingId e.id := by
  intro g hg hrandom
  obtain ⟨id, chosen, hbucket, hchosen, hid⟩ := passesGroup_eq_true.mp h g hg hrandom
  obtain ⟨_, rfl⟩ := Project.of_experiment? hchosen
  rw [hbucket, hid]

theorem Experiment.passesGroup_of_bucket? {e : Experiment} {v : Variation}
    (h : (e.bucket? sharder p bucketingId).value = some v) :
    (e.passesGroup sharder p bucketingId).value = true := by
  unfold bucket? at h
  rw [Reasoned.value_bind] at h
  cases hgroup : (e.passesGroup sharder p bucketingId).value with
  | true => rfl
  | false =>
    rw [hgroup] at h
    cases h

/-! ## Fetches -/

/-- All that has been fetched is for experiments that their groups let past. -/
def FetchesElected (sharder : Sharder) (p : Project) (bucketingId : String) (past : Transcript) (_ : σ) :
    Prop :=
  ∀ call answer, .fetched call answer ∈ past → Elects sharder p bucketingId call.ruleId

theorem FetchesElected.asked {past : Transcript} {s s' : σ} {q : Query} {answer : q.Answer}
    (h : FetchesElected sharder p bucketingId past s) :
    FetchesElected sharder p bucketingId (.asked q answer :: past) s' := by
  intro call answer' hmem
  rcases List.mem_cons.mp hmem with heq | hmem
  · cases heq
  · exact h call answer' hmem

theorem FetchesElected.fetched {past : Transcript} {s s' : σ} {call : Bandit.Call} {answer : Bandit.Reply}
    (h : FetchesElected sharder p bucketingId past s) (hcall : Elects sharder p bucketingId call.ruleId) :
    FetchesElected sharder p bucketingId (.fetched call answer :: past) s' := by
  intro call' answer' hmem
  rcases List.mem_cons.mp hmem with heq | hmem
  · cases heq
    exact hcall
  · exact h call' answer' hmem

theorem Bandit.preserves_consult (helects : Elects sharder p bucketingId id) (userId : String)
    (attributes : Attributes) (options : CacheOptions) :
    (consult p userId attributes id options).Preserves handler reply
      (FetchesElected sharder p bucketingId) := by
  refine Plan.preserves_ask (fun _ _ h => h.asked) fun finding => ?_
  cases finding with
  | hit e => exact Plan.preserves_done _
  | miss ticket =>
    refine Plan.preserves_ask (fun _ _ h => h.asked) fun uuid => ?_
    refine Plan.preserves_fetch (fun _ _ h => h.fetched helects) fun answer => ?_
    cases answer with
    | error f => exact Plan.preserves_done _
    | ok variationId =>
      exact Plan.preserves_ask (fun _ _ h => h.asked) fun _ => Plan.preserves_done _

theorem Engine.elects_of_fetched {engine : Engine} {errand : Errand} {s : σ} {call : Bandit.Call}
    {answer : Bandit.Reply} (hproject : (handler .project s).1 = some (.ofDatafile d))
    (h : .fetched call answer ∈ (engine.carryOut errand).transcript handler reply s) :
    Elects engine.sharder (.ofDatafile d) (errand.user.attributes.bucketingId errand.user.id)
      call.ruleId := by
  have hgiven : ((engine.carryOut errand).given (handler .project s).1).Preserves handler reply
      (FetchesElected engine.sharder (.ofDatafile d)
        (errand.user.attributes.bucketingId errand.user.id)) := by
    rw [hproject]
    exact engine.preserves_given (fun _ _ _ _ h => h.asked) fun _ x _ hgroup =>
      Bandit.preserves_consult (x.elects_of_passesGroup hgroup) _ _ _
  have hnone : FetchesElected engine.sharder (.ofDatafile d)
      (errand.user.attributes.bucketingId errand.user.id) [] s := nofun
  exact at_end_of_given hgiven hnone.asked call answer h

/-! ## The group -/

theorem Project.LetsPast.elects (h : LetsPast sharder (.ofDatafile d) bucketingId id) :
    Elects sharder (.ofDatafile d) bucketingId id := by
  cases h with
  | admitted h => exact Experiment.elects_of_passesGroup h
  | bucketed h => exact Experiment.elects_of_passesGroup (Experiment.passesGroup_of_bucket? h)
  | fetched hsharder hid hproject hmem =>
    subst hsharder hid
    exact Engine.elects_of_fetched hproject hmem

/-- The experiment that the ranges of its group allocate is let past the group. -/
theorem Project.letsPast_of_bucket? {g : Group} (hg : (ofDatafile d).groupOf? id = some g)
    (hbucket : sharder.bucket? bucketingId g.id g.traffic = some id) :
    LetsPast sharder (ofDatafile d) bucketingId id := by
  obtain ⟨e, he⟩ := exists_experiment?_of_groupOf? hg
  obtain ⟨_, rfl⟩ := of_experiment? he
  refine .admitted (Experiment.passesGroup_eq_true.mpr fun g' hg' _ => ?_)
  rw [hg] at hg'
  cases hg'
  exact ⟨e.id, e, hbucket, he, rfl⟩

/-- **Random groups exclude.** Take a group with the policy `random` in a compiled datafile, whatever the
sharder and the bucketing id are. Of the experiments that belong to the group, the one that the ranges of the
group allocate is let past it, and no other one. So there is one at most, in all calls taken together: the
others do not pass the check of the group, are given no variation in bucketing, and come to no fetch. -/
theorem Group.excludes_others (d : Datafile) (sharder : Sharder) (bucketingId : String) (g : Group)
    (hrandom : g.policy = .random) :
    let p := Project.ofDatafile d
    (∀ id, p.groupOf? id = some g →
      (p.LetsPast sharder bucketingId id ↔ sharder.bucket? bucketingId g.id g.traffic = some id)) ∧
    ∀ id id', p.groupOf? id = some g → p.groupOf? id' = some g → p.LetsPast sharder bucketingId id →
      p.LetsPast sharder bucketingId id' → id = id' := by
  intro p
  have hallocated (id : String) (hg : p.groupOf? id = some g) (h : p.LetsPast sharder bucketingId id) :
      sharder.bucket? bucketingId g.id g.traffic = some id :=
    h.elects g hg hrandom
  refine ⟨fun id hg => ⟨hallocated id hg, Project.letsPast_of_bucket? hg⟩, fun id id' hg hg' h h' => ?_⟩
  exact Option.some.inj ((hallocated id hg h).symm.trans (hallocated id' hg' h'))

/-! ### A group of two experiments -/

namespace Group.Sample

def first : Experiment :=
  { (default : Experiment) with
    id := "x"
    bandit := some ⟨10000, []⟩ }

def second : Experiment :=
  { (default : Experiment) with id := "y" }

/-- The ranges allocate either half of the bucket values to one of the experiments. -/
def group : Group :=
  ⟨"g", .random, [⟨"x", 5000⟩, ⟨"y", 10000⟩], []⟩

def datafile : Datafile :=
  { (default : Datafile) with groups := [{ group with experiments := [first, second] }] }

theorem groupOf?_first : (Project.ofDatafile datafile).groupOf? "x" = some group := by
  rfl

theorem groupOf?_second : (Project.ofDatafile datafile).groupOf? "y" = some group := by
  rfl

end Group.Sample

/-- With the first bucket value a user gets past the group for the first experiment, and so never for the
second one. -/
theorem Group.excludes_others_of_two :
    let p := Project.ofDatafile Sample.datafile
    Sample.group.policy = .random ∧ p.LetsPast (fun _ => 0) "u" "x" ∧ ¬ p.LetsPast (fun _ => 0) "u" "y" := by
  intro p
  obtain ⟨hallocated, hunique⟩ := excludes_others Sample.datafile (fun _ => 0) "u" Sample.group rfl
  have hfirst : p.LetsPast (fun _ => 0) "u" "x" :=
    (hallocated "x" Sample.groupOf?_first).mpr (by decide +kernel)
  refine ⟨rfl, hfirst, fun hsecond => ?_⟩
  have heq := hunique "x" "y" Sample.groupOf?_first Sample.groupOf?_second hfirst hsecond
  exact absurd heq (by decide)

end FlagEngine
