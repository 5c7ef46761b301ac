import FlagEngine.Proofs.Rules
import FlagEngine.Proofs.Transcripts
import Mathlib.Data.List.Forall2

/-!
# Resemblance

Two plans that ask and fetch alike as long as they are told the same. Deciding a flag for two users comes to
such plans if nothing that is looked at on the way tells the users apart: `Flag.resembles_deliberate`.
-/

namespace FlagEngine

/-- How far two runs may differ. -/
structure Tolerance where
  /-- Which fetches pass for the same. -/
  alike : Bandit.Call → Bandit.Call → Prop
  /-- Which reasons must be the same. The others may be missing in the second run. -/
  essential : Reason → Bool
  alike_refl : ∀ call, alike call call

/-- The second reasons are the first ones without some that are not essential. -/
structure Tolerance.Keeps (τ : Tolerance) (rs rs' : List Reason) : Prop where
  sublist : List.Sublist rs' rs
  essential : rs.filter τ.essential = rs'.filter τ.essential

namespace Tolerance.Keeps

variable {τ : Tolerance} {rs rs' ss ss' : List Reason}

theorem refl (rs : List Reason) : τ.Keeps rs rs :=
  ⟨.refl rs, rfl⟩

theorem append (h : τ.Keeps rs rs') (hs : τ.Keeps ss ss') : τ.Keeps (rs ++ ss) (rs' ++ ss') where
  sublist := h.sublist.append hs.sublist
  essential := by rw [List.filter_append, List.filter_append, h.essential, hs.essential]

end Tolerance.Keeps

/-- The exchanges are the same, fetches up to likeness. -/
inductive Exchange.Resembles (alike : Bandit.Call → Bandit.Call → Prop) : Exchange → Exchange → Prop where
  | asked (q : Query) (answer : q.Answer) : Resembles alike (.asked q answer) (.asked q answer)
  | fetched {call call' : Bandit.Call} (reply : Bandit.Reply) :
      alike call call' → Resembles alike (.fetched call reply) (.fetched call' reply)

/-! ## Plans -/

namespace Plan

/-- As long as they are told the same, the plans ask the same questions and make fetches that are alike, and
they come to related ends. -/
inductive Resembles {α β : Type} (alike : Bandit.Call → Bandit.Call → Prop) (R : α → β → Prop) :
    Plan α → Plan β → Prop where
  | done {a : α} {b : β} : R a b → Resembles alike R (.done a) (.done b)
  | ask {q : Query} {next : q.Answer → Plan α} {next' : q.Answer → Plan β} :
      (∀ answer, Resembles alike R (next answer) (next' answer)) →
        Resembles alike R (.ask q next) (.ask q next')
  | fetch {call call' : Bandit.Call} {next : Bandit.Reply → Plan α} {next' : Bandit.Reply → Plan β} :
      alike call call' → (∀ reply, Resembles alike R (next reply) (next' reply)) →
        Resembles alike R (.fetch call next) (.fetch call' next')

namespace Resembles

variable {α β γ δ σ : Type} {alike : Bandit.Call → Bandit.Call → Prop} {R : α → β → Prop}
  {x : Plan α} {y : Plan β}

theorem refl {R : α → α → Prop} (hc : ∀ call, alike call call) (hR : ∀ a, R a a) (x : Plan α) :
    x.Resembles alike R x := by
  induction x with
  | done a => exact .done (hR a)
  | ask q next ih => exact .ask ih
  | fetch call next ih => exact .fetch (hc call) ih

theorem bind {S : γ → δ → Prop} {f : α → Plan γ} {g : β → Plan δ} (h : x.Resembles alike R y)
    (hf : ∀ a b, R a b → (f a).Resembles alike S (g b)) : (x >>= f).Resembles alike S (y >>= g) := by
  induction h with
  | done hab => exact hf _ _ hab
  | ask _ ih => exact .ask ih
  | fetch hc _ ih => exact .fetch hc ih

/-- Runs of such plans that get the same answers. -/
theorem run (h : x.Resembles alike R y) (handler : Handler σ)
    {reply reply' : Bandit.Call → σ → Bandit.Reply × σ}
    (hreply : ∀ call call', alike call call' → reply call = reply' call') (s : σ) :
    R (x.run handler reply s).1 (y.run handler reply' s).1 ∧
      (x.run handler reply s).2 = (y.run handler reply' s).2 ∧
      List.Forall₂ (Exchange.Resembles alike) (x.transcript handler reply s)
        (y.transcript handler reply' s) := by
  induction h generalizing s with
  | done hab => exact ⟨hab, rfl, .nil⟩
  | @ask q next next' _ ih =>
    obtain ⟨hR, hs, ht⟩ := ih (handler q s).1 (handler q s).2
    exact ⟨hR, hs, List.rel_append ht (.cons (.asked q _) .nil)⟩
  | @fetch call call' next next' hc _ ih =>
    have hr : reply' call' s = reply call s := congrFun (hreply call call' hc).symm s
    obtain ⟨hR, hs, ht⟩ := ih (reply call s).1 (reply call s).2
    simp only [run_fetch, transcript, hr]
    exact ⟨hR, hs, List.rel_append ht (.cons (.fetched _ hc) .nil)⟩

end Resembles

end Plan

/-! ## Deliberations -/

variable {τ : Tolerance} {α β : Type}

structure Reasoned.Resembles (τ : Tolerance) (x y : Reasoned α) : Prop where
  value : x.value = y.value
  reasons : τ.Keeps x.reasons y.reasons

namespace Reasoned.Resembles

theorem of_eq {x y : Reasoned α} (h : x = y) : x.Resembles τ y :=
  h ▸ ⟨rfl, .refl _⟩

theorem bind {x y : Reasoned α} {f g : α → Reasoned β} (h : x.Resembles τ y)
    (hf : ∀ a, (f a).Resembles τ (g a)) : (x >>= f).Resembles τ (y >>= g) where
  value := by rw [value_bind, value_bind, h.value, (hf y.value).value]
  reasons := by
    rw [reasons_bind, reasons_bind, h.value]
    exact h.reasons.append (hf y.value).reasons

end Reasoned.Resembles

structure Outcome.Resembles (τ : Tolerance) (o o' : Outcome α) : Prop where
  result : o.result = o'.result
  tracker : o.tracker = o'.tracker
  reasons : τ.Keeps o.reasons o'.reasons

/-- With the same profile at hand, the deliberations ask and fetch alike and come to the same. -/
def Deliberation.Resembles (τ : Tolerance) (x y : Deliberation α) : Prop :=
  ∀ tracker, (x tracker).Resembles τ.alike (Outcome.Resembles τ) (y tracker)

namespace Deliberation.Resembles

theorem refl (x : Deliberation α) : x.Resembles τ x :=
  fun tracker => .refl τ.alike_refl (fun _ => ⟨rfl, rfl, .refl _⟩) (x tracker)

theorem of_eq {x y : Deliberation α} (h : x = y) : x.Resembles τ y :=
  h ▸ refl x

theorem bind {x y : Deliberation α} {f g : α → Deliberation β} (h : x.Resembles τ y)
    (hf : ∀ a, (f a).Resembles τ (g a)) : (x >>= f).Resembles τ (y >>= g) := by
  intro tracker
  refine (h tracker).bind fun o o' ho => ?_
  obtain ⟨result, tracker, reasons⟩ := o
  obtain ⟨result', tracker', reasons'⟩ := o'
  obtain ⟨rfl, rfl, hreasons⟩ := ho
  cases result with
  | error e => exact .done ⟨rfl, rfl, hreasons⟩
  | ok a =>
    refine (hf a tracker).bind fun o o' ho => ?_
    exact .done ⟨ho.result, ho.tracker, hreasons.append ho.reasons⟩

theorem ofReasoned {x y : Reasoned α} (h : x.Resembles τ y) :
    (Deliberation.ofReasoned x).Resembles τ (Deliberation.ofReasoned y) :=
  fun _ => .done ⟨congrArg Except.ok h.value, rfl, h.reasons⟩

theorem ofPlan {x y : Plan α} (h : x.Resembles τ.alike Eq y) :
    (Deliberation.ofPlan x).Resembles τ (Deliberation.ofPlan y) :=
  fun _ => h.bind fun _ _ hab => .done ⟨congrArg Except.ok hab, rfl, .refl _⟩

theorem settle {x y : Deliberation α} (h : x.Resembles τ y) (tracker : Option Tracker) :
    (x.settle tracker).Resembles τ.alike (Outcome.Resembles τ) (y.settle tracker) := by
  refine (h tracker).bind fun o o' ho => ?_
  rw [ho.tracker]
  exact (Plan.Resembles.refl (R := Eq) τ.alike_refl (fun _ => rfl) _).bind fun _ _ _ => .done ho

end Deliberation.Resembles

/-! ## Experiments -/

/-- The rule stands anywhere in the project. -/
inductive Project.HasRule (p : Project) : Rule → Prop where
  | experiment {id : String} {e : Experiment} : p.experiment? id = some e → HasRule p e.rule
  | rollout {id : String} {rollout : Rollout} {rule : Experiment} :
      p.rollout? id = some rollout → rule ∈ rollout.rules → HasRule p rule.rule
  | holdout {h : Holdout} : h ∈ p.holdouts → HasRule p h.rule

/-- No rule of the project and none of its bandits tells the attributes apart. -/
structure Attributes.Alike (τ : Tolerance) (p : Project) (userId : String) (a a' : Attributes) : Prop where
  bucketingId : a.bucketingId userId = a'.bucketingId userId
  admits : ∀ r, p.HasRule r → ∀ name, r.admits p name a = r.admits p name a'
  consult : ∀ ruleId options, (Bandit.consult p userId a ruleId options).Resembles τ.alike Eq
    (Bandit.consult p userId a' ruleId options)

namespace Experiment

open Deliberation.Resembles

variable {engine : Engine} {p : Project} {e : Experiment} {userId : String} {a a' : Attributes}
  {options : Options}

theorem resembles_chosen? (h : a.Alike τ p userId a') (b : Experiment.Bandit) :
    (e.chosen? engine p b userId a options).Resembles τ
      (e.chosen? engine p b userId a' options) := by
  unfold chosen?
  rw [h.bucketingId]
  refine bind (refl _) fun passes => ?_
  split
  · split
    · split
      · exact bind (ofPlan (h.consult _ _)) fun choice => refl _
      · exact refl _
    · exact refl _
  · exact refl _

theorem resembles_allocated? (h : a.Alike τ p userId a') :
    (e.allocated? engine p userId a options).Resembles τ
      (e.allocated? engine p userId a' options) := by
  unfold allocated?
  split
  · exact resembles_chosen? h _
  · rw [h.bucketingId]
    exact refl _

theorem resembles_targeted? (h : a.Alike τ p userId a') (he : p.HasRule e.rule) :
    (e.targeted? engine p userId a options).Resembles τ
      (e.targeted? engine p userId a' options) := by
  unfold targeted?
  rw [h.admits _ he]
  refine bind (refl _) fun admitted => ?_
  split
  · exact bind (resembles_allocated? h) fun served => refl _
  · exact refl _

theorem resembles_serve? (h : a.Alike τ p userId a') (he : p.HasRule e.rule) :
    (e.serve? engine p userId a options).Resembles τ (e.serve? engine p userId a' options) := by
  unfold serve?
  split
  · refine bind (refl _) fun overridden => ?_
    split
    · exact refl _
    · refine bind (refl _) fun saved => ?_
      split
      · exact refl _
      · exact resembles_targeted? h he
  · exact refl _

end Experiment

/-! ## Flags -/

/-- Nothing that is looked at in deciding the flag tells the users apart. -/
structure User.Alike (τ : Tolerance) (p : Project) (flag : Flag) (user user' : User) : Prop where
  id : user.id = user'.id
  attributes : user.attributes.Alike τ p user.id user'.attributes
  forced : ∀ ruleKey, (user.forcedDecision? p ⟨flag.key, ruleKey⟩).Resembles τ
    (user'.forcedDecision? p ⟨flag.key, ruleKey⟩)

/-- Attributes that are alike are in the same holdout. -/
theorem Project.holdout?_congr {sharder : Sharder} {p : Project} {userId : String} {a a' : Attributes}
    (h : a.Alike τ p userId a') (flag : Flag) :
    p.holdout? sharder flag userId a = p.holdout? sharder flag userId a' := by
  have hserve (x : Holdout) (hx : x ∈ p.holdouts) :
      x.serve? sharder p userId a = x.serve? sharder p userId a' := by
    unfold Holdout.serve?
    rw [h.bucketingId, h.admits _ (.holdout hx)]
  unfold holdout?
  generalize p.holdouts = hs at hserve
  induction hs with
  | nil => rfl
  | cons x hs ih =>
    obtain ⟨hx, hs⟩ := List.forall_mem_cons.mp hserve
    rw [Holdout.first?, Holdout.first?, hx, ih hs]

namespace Rollout

open Reasoned.Resembles

variable {sharder : Sharder} {p : Project} {flag : Flag} {user user' : User}

theorem resembles_tryRule (h : user.Alike τ p flag user') {rule : Experiment} (hrule : p.HasRule rule.rule)
    (name : String) : (tryRule sharder p flag.key user rule name).Resembles τ
      (tryRule sharder p flag.key user' rule name) := by
  unfold tryRule
  refine bind (h.forced _) fun forced => ?_
  rw [h.attributes.admits _ hrule, h.attributes.bucketingId, h.id]
  exact of_eq rfl

theorem resembles_tryRules (h : user.Alike τ p flag user') (number : Nat) {rules : List Experiment}
    (hrules : ∀ rule ∈ rules, p.HasRule rule.rule) :
    (tryRules sharder p flag.key user number rules).Resembles τ
      (tryRules sharder p flag.key user' number rules) := by
  induction rules generalizing number with
  | nil => exact of_eq rfl
  | cons rule rest ih =>
    obtain ⟨hrule, hrest⟩ := List.forall_mem_cons.mp hrules
    unfold tryRules
    refine bind (resembles_tryRule h hrule _) fun trial => ?_
    cases trial with
    | served v => exact of_eq rfl
    | uncovered => exact ih _ hrest
    | outside =>
      dsimp only
      split
      · exact of_eq rfl
      · next last hlast =>
        rw [h.id]
        refine bind (of_eq rfl) fun _ => ?_
        exact bind (resembles_tryRule h (hrest _ (List.mem_of_getLast? hlast)) _) fun _ => of_eq rfl

end Rollout

namespace Flag

open Deliberation.Resembles

variable {engine : Engine} {p : Project} {flag : Flag} {user user' : User} {options : Options}

theorem resembles_rolloutVerdict? (h : user.Alike τ p flag user') :
    (flag.rolloutVerdict? engine.sharder p user).Resembles τ
      (flag.rolloutVerdict? engine.sharder p user') := by
  unfold rolloutVerdict?
  dsimp only
  split
  · exact .of_eq rfl
  · split
    · exact .of_eq rfl
    · next rollout hrollout =>
      split
      · exact .of_eq rfl
      · exact .bind (Rollout.resembles_tryRules h 1 fun rule => .rollout hrollout) fun _ => .of_eq rfl

theorem resembles_tryExperiment (h : user.Alike τ p flag user') {e : Experiment}
    (he : p.HasRule e.rule) : (flag.tryExperiment engine p user options e).Resembles τ
      (flag.tryExperiment engine p user' options e) := by
  unfold tryExperiment
  refine bind (ofReasoned (h.forced _)) fun forced => ?_
  split
  · exact refl _
  · rw [← h.id]
    exact bind (Experiment.resembles_serve? h.attributes he) fun _ => refl _

theorem resembles_tryExperiments (h : user.Alike τ p flag user') (ids : List String) :
    (tryExperiments engine p flag user options ids).Resembles τ
      (tryExperiments engine p flag user' options ids) := by
  induction ids with
  | nil => exact refl _
  | cons id ids ih =>
    unfold tryExperiments
    split
    · exact ih
    · next e he =>
      refine bind (resembles_tryExperiment h (.experiment he)) fun verdict => ?_
      split
      · exact refl _
      · exact ih

theorem resembles_experimentVerdict? (h : user.Alike τ p flag user') :
    (flag.experimentVerdict? engine p user options).Resembles τ
      (flag.experimentVerdict? engine p user' options) := by
  unfold experimentVerdict?
  split
  · exact refl _
  · exact resembles_tryExperiments h _

/-- Deciding a flag comes to the same for users who are alike. -/
theorem resembles_deliberate (h : user.Alike τ p flag user') :
    (flag.deliberate engine p user options).Resembles τ
      (flag.deliberate engine p user' options) := by
  unfold deliberate
  refine bind (ofReasoned (h.forced _)) fun forced => ?_
  split
  · exact refl _
  · rw [← h.id, Project.holdout?_congr h.attributes flag]
    refine bind (refl _) fun holdout => ?_
    split
    · exact refl _
    · refine bind (resembles_experimentVerdict? h) fun verdict => ?_
      split
      · exact refl _
      · exact bind (ofReasoned (resembles_rolloutVerdict? h)) fun _ => refl _

end Flag

end FlagEngine
