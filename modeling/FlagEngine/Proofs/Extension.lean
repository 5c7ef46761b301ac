import FlagEngine.Decision.Flag
import FlagEngine.Proofs.Conditions
import Mathlib.Data.List.Basic

/-!
# Extensions of projects

A project that finds the same as another one by each of some names, and whose further holdouts do not apply to
flags with these names, decides the flags with these names alike: `Flag.deliberate_of_extendedBy`. This takes
names that are complete, so that what is found by one of them has no others.
-/

namespace FlagEngine

/-! ## The names of things -/

namespace Condition

mutual

/-- The ids of the audiences that a tree refers to. -/
def audiences : Condition → List String
  | .leaf (.audience id) => [id]
  | .leaf _ => []
  | .branch _ operands => operandAudiences operands

def operandAudiences : List Condition → List String
  | [] => []
  | c :: cs => c.audiences ++ operandAudiences cs

end

theorem operandAudiences_eq (operands : List Condition) :
    operandAudiences operands = operands.flatMap audiences := by
  induction operands with
  | nil => rfl
  | cons c cs ih => rw [operandAudiences, ih, List.flatMap_cons]

theorem HasLeaf.mem_audiences {c : Condition} {id : String} (h : c.HasLeaf (.audience id)) :
    id ∈ c.audiences := by
  induction h with
  | leaf => exact List.mem_singleton_self id
  | branch hc _ ih =>
    rw [audiences, operandAudiences_eq]
    exact List.mem_flatMap.mpr ⟨_, hc, ih⟩

end Condition

/-- The ids of the audiences that a rule refers to. -/
def Rule.audiences (r : Rule) : List String :=
  r.targeting.audiences

/-- The id of an experiment and the ids that it refers to. -/
def Experiment.names (e : Experiment) : List String :=
  e.id :: (e.rule.audiences ++ e.bandit.elim [] (·.attributeIds))

/-- The id of a group and the ids of the experiments that its ranges allocate. -/
def Group.names (g : Group) : List String :=
  g.id :: g.traffic.map (·.entityId)

/-- The id and the key of a flag and the ids that it refers to, that of its rollout also without white space
at either end. -/
def Flag.names (flag : Flag) : List String :=
  [flag.id, flag.key, flag.rolloutId, Text.trim flag.rolloutId] ++ flag.experimentIds

/-- The ids of the audiences that the rules of a rollout refer to. -/
def Rollout.audiences (r : Rollout) : List String :=
  r.rules.flatMap (·.rule.audiences)

/-- By each of the names, the second project finds the same as the first, and what is found there has no
other names. The second project may have further holdouts that do not apply to any flag with these names. -/
structure Project.ExtendedBy (names : List String) (p p' : Project) : Prop where
  experiment? : ∀ id ∈ names, p'.experiment? id = p.experiment? id
  groupOf? : ∀ id ∈ names, p'.groupOf? id = p.groupOf? id
  rollout? : ∀ id ∈ names, p'.rollout? id = p.rollout? id
  attributeName? : ∀ id ∈ names, p'.attributeName? id = p.attributeName? id
  audience? : ∀ id ∈ names, p'.audience? id = p.audience? id
  flagVariation? : ∀ key ∈ names, p'.flagVariation? key = p.flagVariation? key
  holdouts : ∃ more, p'.holdouts = p.holdouts ++ more ∧
    ∀ h ∈ more, ∀ flagId ∈ names, h.appliesTo flagId = false
  of_experiment? : ∀ id e, p.experiment? id = some e → e.names ⊆ names
  of_groupOf? : ∀ id g, p.groupOf? id = some g → g.names ⊆ names
  of_rollout? : ∀ id r, p.rollout? id = some r → r.audiences ⊆ names
  of_holdout : ∀ h ∈ p.holdouts, h.rule.audiences ⊆ names

variable {names : List String} {p p' : Project} {sharder : Sharder} {engine : Engine} {options : Options}

/-! ## Rules -/

open Condition (Leaf) in
theorem Rule.admits_of_extendedBy (h : p.ExtendedBy names p') {r : Rule} (hr : r.audiences ⊆ names)
    (n : String) (a : Attributes) : r.admits p' n a = r.admits p n a := by
  have htargeting : r.targeting.evaluateM (Leaf.truth p' a) = r.targeting.evaluateM (Leaf.truth p a) := by
    refine Condition.evaluateM_congr fun l hl => ?_
    cases l with
    | audience id =>
      have haudience := h.audience? id (hr hl.mem_audiences)
      unfold Leaf.truth
      dsimp only
      rw [haudience]
    | test t | malformed json => rfl
  unfold admits
  rw [htargeting]

theorem User.forcedDecision?_of_extendedBy (h : p.ExtendedBy names p') (user : User) {point : DecisionPoint}
    (hkey : point.flagKey ∈ names) : user.forcedDecision? p' point = user.forcedDecision? p point := by
  unfold forcedDecision?
  rw [h.flagVariation? _ hkey]

/-! ## Bandits -/

namespace Bandit

theorem told_of_extendedBy (h : p.ExtendedBy names p') {ruleId : String} (hid : ruleId ∈ names)
    (a : Attributes) : told p' ruleId a = told p ruleId a := by
  have hnames : attributeNames p' ruleId = attributeNames p ruleId := by
    unfold attributeNames
    rw [h.experiment? ruleId hid]
    cases he : p.experiment? ruleId with
    | none => rfl
    | some e =>
      cases hb : e.bandit with
      | none => rw [Option.bind_some, hb]
      | some b =>
        rw [Option.bind_some, hb]
        refine List.filterMap_congr fun id hid => h.attributeName? id ?_
        refine h.of_experiment? ruleId e he (List.mem_cons_of_mem _ (List.mem_append_right _ ?_))
        rwa [hb]
  unfold told
  rw [hnames]

theorem consult_of_extendedBy (h : p.ExtendedBy names p') {ruleId : String} (hid : ruleId ∈ names)
    (userId : String) (a : Attributes) (options : CacheOptions) :
    consult p' userId a ruleId options = consult p userId a ruleId options := by
  unfold consult
  rw [told_of_extendedBy h hid]

end Bandit

/-! ## Experiments -/

theorem Sharder.mem_of_bucket? {bucketingId salt id : String} {ranges : List TrafficRange}
    (h : sharder.bucket? bucketingId salt ranges = some id) : id ∈ ranges.map (·.entityId) := by
  unfold bucket? Traffic.allocate? at h
  obtain ⟨hrange, _⟩ := Option.filter_eq_some_iff.mp h
  obtain ⟨range, hfind, rfl⟩ := Option.map_eq_some_iff.mp hrange
  exact List.mem_map_of_mem (List.mem_of_find?_eq_some hfind)

namespace Experiment

variable {e : Experiment}

theorem passesGroup_of_extendedBy (h : p.ExtendedBy names p') (he : e.id ∈ names) (bucketingId : String) :
    e.passesGroup sharder p' bucketingId = e.passesGroup sharder p bucketingId := by
  unfold passesGroup
  rw [h.groupOf? _ he]
  cases hg : p.groupOf? e.id with
  | none => rfl
  | some g =>
    have hchosen : e.isChosen sharder p' g bucketingId = e.isChosen sharder p g bucketingId := by
      unfold isChosen
      cases hbucket : sharder.bucket? bucketingId g.id g.traffic with
      | none => rfl
      | some id =>
        have hid : id ∈ names :=
          h.of_groupOf? _ g hg (List.mem_cons_of_mem _ (Sharder.mem_of_bucket? hbucket))
        dsimp only
        rw [h.experiment? id hid]
    dsimp only
    rw [hchosen]

theorem serve?_of_extendedBy (h : p.ExtendedBy names p') (he : e.names ⊆ names) (userId : String)
    (a : Attributes) :
    e.serve? engine p' userId a options = e.serve? engine p userId a options := by
  have hid : e.id ∈ names := he List.mem_cons_self
  have haudiences : e.rule.audiences ⊆ names := fun id hid =>
    he (List.mem_cons_of_mem _ (List.mem_append_left _ hid))
  have hallocated : e.allocated? engine p' userId a options = e.allocated? engine p userId a options := by
    unfold allocated? chosen? bucket?
    dsimp only
    rw [passesGroup_of_extendedBy h hid, Bandit.consult_of_extendedBy h hid]
  unfold serve? targeted?
  rw [Rule.admits_of_extendedBy h haudiences, hallocated]

end Experiment

/-! ## Holdouts -/

theorem Holdout.first?_append {flagId userId : String} {a : Attributes} {more : List Holdout}
    (hmore : ∀ h ∈ more, h.appliesTo flagId = false) (hs : List Holdout) :
    first? sharder p flagId userId a (hs ++ more) = first? sharder p flagId userId a hs := by
  induction hs with
  | nil =>
    rw [List.nil_append]
    induction more with
    | nil => rfl
    | cons h more ih =>
      obtain ⟨hh, hmore⟩ := List.forall_mem_cons.mp hmore
      unfold first?
      rw [hh]
      exact ih hmore
  | cons h hs ih => rw [List.cons_append, first?, first?, ih]

theorem Holdout.first?_of_extendedBy (h : p.ExtendedBy names p') {hs : List Holdout}
    (hhs : ∀ x ∈ hs, x.rule.audiences ⊆ names) (flagId userId : String) (a : Attributes) :
    first? sharder p' flagId userId a hs = first? sharder p flagId userId a hs := by
  induction hs with
  | nil => rfl
  | cons x hs ih =>
    obtain ⟨hx, hhs⟩ := List.forall_mem_cons.mp hhs
    have hserve : x.serve? sharder p' userId a = x.serve? sharder p userId a := by
      unfold serve?
      rw [Rule.admits_of_extendedBy h hx]
    rw [first?, first?, hserve, ih hhs]

/-! ## Flags -/

namespace Rollout

variable {flagKey : String} {user : User}

theorem tryRule_of_extendedBy (h : p.ExtendedBy names p') (hkey : flagKey ∈ names) {rule : Experiment}
    (hrule : rule.rule.audiences ⊆ names) (name : String) :
    tryRule sharder p' flagKey user rule name = tryRule sharder p flagKey user rule name := by
  unfold tryRule
  rw [user.forcedDecision?_of_extendedBy h hkey, Rule.admits_of_extendedBy h hrule]

theorem tryRules_of_extendedBy (h : p.ExtendedBy names p') (hkey : flagKey ∈ names)
    {rules : List Experiment} (hrules : ∀ rule ∈ rules, rule.rule.audiences ⊆ names) (number : Nat) :
    tryRules sharder p' flagKey user number rules = tryRules sharder p flagKey user number rules := by
  induction rules generalizing number with
  | nil => rfl
  | cons rule rest ih =>
    obtain ⟨hrule, hrest⟩ := List.forall_mem_cons.mp hrules
    have hlast : ∀ last ∈ rest.getLast?, tryRule sharder p' flagKey user last lastName
        = tryRule sharder p flagKey user last lastName := fun last hlast =>
      tryRule_of_extendedBy h hkey (hrest last (List.mem_of_getLast? hlast)) lastName
    unfold tryRules
    dsimp only
    rw [tryRule_of_extendedBy h hkey hrule, ih hrest]
    cases hl : rest.getLast? with
    | none => rfl
    | some last =>
      dsimp only
      rw [hlast last hl]

end Rollout

namespace Flag

variable {flag : Flag} {user : User}

theorem rolloutVerdict?_of_extendedBy (h : p.ExtendedBy names p') (hflag : flag.names ⊆ names) :
    flag.rolloutVerdict? sharder p' user = flag.rolloutVerdict? sharder p user := by
  have hrollout : Text.trim flag.rolloutId ∈ names := hflag (by simp [Flag.names])
  unfold rolloutVerdict?
  dsimp only
  rw [h.rollout? _ hrollout]
  cases hr : p.rollout? (Text.trim flag.rolloutId) with
  | none => rfl
  | some rollout =>
    have hkey : flag.key ∈ names := hflag (by simp [Flag.names])
    dsimp only
    rw [Rollout.tryRules_of_extendedBy h hkey fun rule hrule id hid =>
      h.of_rollout? _ rollout hr (List.mem_flatMap.mpr ⟨rule, hrule, hid⟩)]

theorem tryExperiments_of_extendedBy (h : p.ExtendedBy names p') (hkey : flag.key ∈ names)
    {ids : List String} (hids : ids ⊆ names) :
    tryExperiments engine p' flag user options ids = tryExperiments engine p flag user options ids := by
  induction ids with
  | nil => rfl
  | cons id ids ih =>
    obtain ⟨hid, hids⟩ := List.cons_subset.mp hids
    unfold tryExperiments
    rw [h.experiment? id hid, ih hids]
    cases he : p.experiment? id with
    | none => rfl
    | some e =>
      have htry : flag.tryExperiment engine p' user options e = flag.tryExperiment engine p user options e := by
        unfold tryExperiment
        rw [user.forcedDecision?_of_extendedBy h hkey, e.serve?_of_extendedBy h (h.of_experiment? id e he)]
      dsimp only
      rw [htry]

/-- A flag with known names is decided alike. -/
theorem deliberate_of_extendedBy (h : p.ExtendedBy names p') (hflag : flag.names ⊆ names) :
    flag.deliberate engine p' user options = flag.deliberate engine p user options := by
  have hid : flag.id ∈ names := hflag (by simp [Flag.names])
  have hkey : flag.key ∈ names := hflag (by simp [Flag.names])
  have hexperiments : flag.experimentIds ⊆ names := fun id hid => hflag (by simp [Flag.names, hid])
  have hholdout : p'.holdout? engine.sharder flag user.id user.attributes
      = p.holdout? engine.sharder flag user.id user.attributes := by
    obtain ⟨more, hholdouts, hmore⟩ := h.holdouts
    unfold Project.holdout?
    rw [hholdouts, Holdout.first?_append fun x hx => hmore x hx _ hid,
      Holdout.first?_of_extendedBy h h.of_holdout]
  unfold deliberate experimentVerdict?
  rw [user.forcedDecision?_of_extendedBy h hkey, hholdout, tryExperiments_of_extendedBy h hkey hexperiments,
    rolloutVerdict?_of_extendedBy h hflag]

end Flag

end FlagEngine
