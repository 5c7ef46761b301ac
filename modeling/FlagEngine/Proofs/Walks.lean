import FlagEngine.Proofs.Rules
import Mathlib.Data.List.Basic

/-!
# Walks over rollouts

The rules of a rollout are tried one after the other up to the first that catches the user. If it has no
traffic for the user, the last rule is tried, and those between are passed by. `Rollout.Walk` says which rules
are tried and what comes of it, and `Rollout.exists_walk` that this is how rollouts are decided: each of these
rules is tried once and leaves its reasons, and by `Rollout.tryRules_congr` no other rule matters.
-/

namespace FlagEngine

section

variable {sharder : Sharder} {p : Project} {flagKey : String} {user user' : User}
  {rules rules' : List Experiment} {rule last : Experiment} {v w : Variation} {i j : Nat}

/-! ## One rule -/

theorem User.Forces.unique {point : DecisionPoint} (h : user.Forces p point v) (h' : user.Forces p point w) :
    v = w := by
  rw [← forcedDecision?_eq_some] at h h'
  exact Option.some.inj (h.symm.trans h')

theorem Rule.Allocates.unique {r : Rule} {bucketingId : String} (h : r.Allocates sharder bucketingId v)
    (h' : r.Allocates sharder bucketingId w) : v = w := by
  rw [← bucket?_eq_some] at h h'
  exact Option.some.inj (h.symm.trans h')

namespace Rollout

/-- The rule catches the user: its decision is forced, or its conditions are true. -/
def Catches (p : Project) (flagKey : String) (user : User) (rule : Experiment) : Prop :=
  (∃ v, user.Forces p (.ofRule flagKey rule.key) v) ∨ rule.rule.Covers p user.attributes

/-- The rule serves the variation to the user: its decision is forced to it, or no decision is forced and the
rule covers the user and its own ranges allocate it. -/
def Serves (sharder : Sharder) (p : Project) (flagKey : String) (user : User) (rule : Experiment)
    (v : Variation) : Prop :=
  user.Forces p (.ofRule flagKey rule.key) v ∨
    (∀ w, ¬ user.Forces p (.ofRule flagKey rule.key) w) ∧ rule.rule.Covers p user.attributes ∧
      rule.rule.Allocates sharder (user.attributes.bucketingId user.id) v

theorem Serves.unique (h : Serves sharder p flagKey user rule v) (h' : Serves sharder p flagKey user rule w) :
    v = w := by
  rcases h with h | ⟨hunforced, -, h⟩ <;> rcases h' with h' | ⟨hunforced', -, h'⟩
  · exact h.unique h'
  · exact (hunforced' v h).elim
  · exact (hunforced w h').elim
  · exact h.unique h'

theorem Serves.catches (h : Serves sharder p flagKey user rule v) : Catches p flagKey user rule := by
  rcases h with h | ⟨-, h, -⟩
  · exact .inl ⟨v, h⟩
  · exact .inr h

theorem tryRule_eq_uncovered {name : String} :
    (tryRule sharder p flagKey user rule name).value = .uncovered ↔ ¬ Catches p flagKey user rule := by
  unfold Catches
  simp only [← User.forcedDecision?_eq_some, ← Rule.admits_eq_true (n := name)]
  unfold tryRule
  rw [Reasoned.value_bind]
  cases (user.forcedDecision? p (.ofRule flagKey rule.key)).value with
  | some w => simp
  | none =>
    simp only [Reasoned.value_bind]
    cases (rule.rule.admits p name user.attributes).value with
    | false => simp
    | true =>
      simp only [if_true, Reasoned.value_bind]
      cases (rule.rule.bucket? sharder (user.attributes.bucketingId user.id)).value <;> simp

/-- The rule comes to nothing only if it does not serve the user although it catches them. -/
theorem of_tryRule_eq_outside {name : String}
    (h : (tryRule sharder p flagKey user rule name).value = .outside) :
    Catches p flagKey user rule ∧ ∀ v, ¬ Serves sharder p flagKey user rule v := by
  refine ⟨Classical.not_not.mp fun hc => ?_, fun v hv => ?_⟩
  · rw [tryRule_eq_uncovered.mpr hc] at h
    cases h
  · rw [tryRule_eq_served.mpr hv] at h
    cases h

/-- The variation that a trial serves. -/
def Trial.variation? : Trial → Option Variation
  | .served v => some v
  | .uncovered | .outside => none

theorem variation?_tryRule_eq_some {name : String} :
    (tryRule sharder p flagKey user rule name).value.variation? = some v
      ↔ Serves sharder p flagKey user rule v := by
  rw [Serves, ← tryRule_eq_served]
  cases (tryRule sharder p flagKey user rule name).value <;> simp [Trial.variation?]

/-! ## The walk -/

/-- The rule at the position is the first one to catch the user. -/
structure IsFirstCatch (p : Project) (flagKey : String) (user : User) (rules : List Experiment) (i : Nat)
    (rule : Experiment) : Prop where
  position : rules[i]? = some rule
  catches : Catches p flagKey user rule
  earlier : ∀ j < i, ∀ r, rules[j]? = some r → ¬ Catches p flagKey user r

/-- How a user fares with the rules: the positions of those that are tried, in order, and what is served by
which rule, if anything is. -/
inductive Walk (sharder : Sharder) (p : Project) (flagKey : String) (user : User) (rules : List Experiment) :
    List Nat → Option (Experiment × Variation) → Prop where
  /-- No rule catches the user. -/
  | uncaught : (∀ rule ∈ rules, ¬ Catches p flagKey user rule) →
      Walk sharder p flagKey user rules (List.range rules.length) none
  /-- The first rule to catch the user serves a variation. -/
  | served {i : Nat} {rule : Experiment} {v : Variation} :
      IsFirstCatch p flagKey user rules i rule → Serves sharder p flagKey user rule v →
      Walk sharder p flagKey user rules (List.range (i + 1)) (some (rule, v))
  /-- Only the last rule catches the user, and it serves nothing. -/
  | ended {i : Nat} {rule : Experiment} :
      IsFirstCatch p flagKey user rules i rule → (∀ v, ¬ Serves sharder p flagKey user rule v) →
      i + 1 = rules.length →
      Walk sharder p flagKey user rules (List.range (i + 1)) none
  /-- The first rule to catch the user serves nothing, and there are rules after it. Of these, the last one is
  tried, and what it serves is served. -/
  | jumped {i : Nat} {rule last : Experiment} {served : Option Variation} :
      IsFirstCatch p flagKey user rules i rule → (∀ v, ¬ Serves sharder p flagKey user rule v) →
      i + 1 < rules.length → rules.getLast? = some last →
      (∀ v, served = some v ↔ Serves sharder p flagKey user last v) →
      Walk sharder p flagKey user rules (List.range (i + 1) ++ [rules.length - 1]) (served.map (last, ·))

/-- How the rule at a position goes in reasons, if the rules are numbered from the given number on. -/
def nameAt (number : Nat) (rules : List Experiment) (i : Nat) : String :=
  if i + 1 = rules.length then lastName else (number + i).repr

/-- The reasons that the rule at a position leaves if it is tried. -/
def account (sharder : Sharder) (p : Project) (flagKey : String) (user : User) (number : Nat)
    (rules : List Experiment) (i : Nat) : List Reason :=
  match rules[i]? with
  | none => []
  | some rule =>
    let name := nameAt number rules i
    let trial := tryRule sharder p flagKey user rule name
    trial.reasons
      ++ if trial.value = .outside ∧ i + 1 < rules.length then [.outsideRuleTraffic user.id name] else []

variable {tried tried' : List Nat} {served served' : Option (Experiment × Variation)}

theorem IsFirstCatch.unique {rule' : Experiment} (h : IsFirstCatch p flagKey user rules i rule)
    (h' : IsFirstCatch p flagKey user rules j rule') : i = j ∧ rule = rule' := by
  obtain rfl : i = j := by
    rcases Nat.lt_trichotomy i j with hlt | heq | hlt
    · exact (h'.earlier i hlt rule h.position h.catches).elim
    · exact heq
    · exact (h.earlier j hlt rule' h'.position h'.catches).elim
  exact ⟨rfl, Option.some.inj (h.position.symm.trans h'.position)⟩

theorem IsFirstCatch.exists_mem (h : IsFirstCatch p flagKey user rules i rule) :
    ¬ ∀ rule ∈ rules, ¬ Catches p flagKey user rule :=
  fun hnone => hnone rule (List.mem_of_getElem? h.position) h.catches

namespace Walk

/-- There is only one way to fare. -/
theorem unique (h : Walk sharder p flagKey user rules tried served)
    (h' : Walk sharder p flagKey user rules tried' served') : tried = tried' ∧ served = served' := by
  cases h with
  | uncaught hnone =>
    cases h' with
    | uncaught => exact ⟨rfl, rfl⟩
    | served hfirst' | ended hfirst' | jumped hfirst' => exact (hfirst'.exists_mem hnone).elim
  | served hfirst hv =>
    cases h' with
    | uncaught hnone' => exact (hfirst.exists_mem hnone').elim
    | served hfirst' hv' =>
      obtain ⟨rfl, rfl⟩ := hfirst.unique hfirst'
      obtain rfl := hv.unique hv'
      exact ⟨rfl, rfl⟩
    | ended hfirst' hv' | jumped hfirst' hv' =>
      obtain ⟨rfl, rfl⟩ := hfirst.unique hfirst'
      exact (hv' _ hv).elim
  | ended hfirst hv hi =>
    cases h' with
    | uncaught hnone' => exact (hfirst.exists_mem hnone').elim
    | served hfirst' hv' =>
      obtain ⟨rfl, rfl⟩ := hfirst.unique hfirst'
      exact (hv _ hv').elim
    | ended hfirst' =>
      obtain ⟨rfl, rfl⟩ := hfirst.unique hfirst'
      exact ⟨rfl, rfl⟩
    | jumped hfirst' hv' hi' =>
      obtain ⟨rfl, rfl⟩ := hfirst.unique hfirst'
      exact (Nat.lt_irrefl _ (hi ▸ hi')).elim
  | jumped hfirst hv hi hlast hserved =>
    cases h' with
    | uncaught hnone' => exact (hfirst.exists_mem hnone').elim
    | served hfirst' hv' =>
      obtain ⟨rfl, rfl⟩ := hfirst.unique hfirst'
      exact (hv _ hv').elim
    | ended hfirst' hv' hi' =>
      obtain ⟨rfl, rfl⟩ := hfirst.unique hfirst'
      exact (Nat.lt_irrefl _ (hi' ▸ hi)).elim
    | jumped hfirst' hv' hi' hlast' hserved' =>
      obtain ⟨rfl, rfl⟩ := hfirst.unique hfirst'
      obtain rfl := Option.some.inj (hlast.symm.trans hlast')
      refine ⟨rfl, congrArg _ (Option.ext fun v => ?_)⟩
      exact (hserved v).trans (hserved' v).symm

end Walk

theorem IsFirstCatch.cons (hrule : ¬ Catches p flagKey user rule)
    (h : IsFirstCatch p flagKey user rules i last) :
    IsFirstCatch p flagKey user (rule :: rules) (i + 1) last where
  position := h.position
  catches := h.catches
  earlier
    | 0, _, _, hr => Option.some.inj hr ▸ hrule
    | j + 1, hj, r, hr => h.earlier j (Nat.lt_of_succ_lt_succ hj) r hr

private theorem getLast?_cons (hlast : rules.getLast? = some last) : (rule :: rules).getLast? = some last := by
  rw [List.getLast?_cons, hlast]
  rfl

theorem IsFirstCatch.lt_length (h : IsFirstCatch p flagKey user rules i rule) : i < rules.length :=
  (List.getElem?_eq_some_iff.mp h.position).1

namespace Walk

/-- A rule in front that does not catch the user is tried in vain, and the walk goes on behind it. -/
theorem cons (hrule : ¬ Catches p flagKey user rule) (h : Walk sharder p flagKey user rules tried served) :
    Walk sharder p flagKey user (rule :: rules) (0 :: tried.map (· + 1)) served := by
  have hrange (n : Nat) : 0 :: (List.range n).map (· + 1) = List.range (n + 1) := List.range_succ_eq_map.symm
  cases h with
  | uncaught hnone =>
    rw [hrange]
    exact .uncaught (List.forall_mem_cons.mpr ⟨hrule, hnone⟩)
  | served hfirst hv =>
    rw [hrange]
    exact .served (hfirst.cons hrule) hv
  | ended hfirst hv hi =>
    rw [hrange]
    exact .ended (hfirst.cons hrule) hv (congrArg (· + 1) hi)
  | @jumped i _ last _ hfirst hv hi hlast hserved =>
    have hend : rules.length - 1 + 1 = (rule :: rules).length - 1 := by
      rw [List.length_cons]
      omega
    rw [List.map_append, ← List.cons_append, hrange, List.map_singleton, hend]
    exact .jumped (hfirst.cons hrule) hv (Nat.succ_lt_succ hi) (getLast?_cons hlast) hserved

/-- No rule is tried twice, and none before another one that stands in front of it. -/
theorem ascending (h : Walk sharder p flagKey user rules tried served) : tried.Pairwise (· < ·) := by
  cases h with
  | uncaught | served | ended => exact List.pairwise_lt_range
  | jumped _ _ hi =>
    refine List.pairwise_append.mpr ⟨List.pairwise_lt_range, List.pairwise_singleton _ _, ?_⟩
    intro j hj k hk
    rw [List.mem_range] at hj
    rw [List.mem_singleton] at hk
    omega

theorem lt_length (h : Walk sharder p flagKey user rules tried served) : ∀ j ∈ tried, j < rules.length := by
  intro j hj
  cases h with
  | uncaught => exact List.mem_range.mp hj
  | served hfirst | ended hfirst =>
    have := List.mem_range.mp hj
    have := hfirst.lt_length
    omega
  | jumped _ _ hi =>
    rcases List.mem_append.mp hj with hj | hj
    · rw [List.mem_range] at hj
      omega
    · rw [List.mem_singleton] at hj
      omega

end Walk

/-! ## The walk is taken -/

theorem nameAt_cons {number : Nat} : nameAt number (rule :: rules) (i + 1) = nameAt (number + 1) rules i := by
  have hnumber : number + (i + 1) = number + 1 + i := by omega
  simp only [nameAt, List.length_cons, Nat.add_right_cancel_iff, hnumber]

theorem nameAt_last {number : Nat} (hi : i + 1 = rules.length) : nameAt number rules i = lastName :=
  if_pos hi

theorem account_cons {number : Nat} :
    account sharder p flagKey user number (rule :: rules) (i + 1)
      = account sharder p flagKey user (number + 1) rules i := by
  unfold account
  rw [List.getElem?_cons_succ, List.length_cons, nameAt_cons]
  simp only [Nat.add_lt_add_iff_right]

/-- The last rule leaves only the reasons of its own trial. -/
theorem account_last {number : Nat} (hlast : rules.getLast? = some last) :
    account sharder p flagKey user number rules (rules.length - 1)
      = (tryRule sharder p flagKey user last lastName).reasons := by
  have hpos : 0 < rules.length := List.length_pos_of_mem (List.mem_of_getLast? hlast)
  have hlength : rules.length - 1 + 1 = rules.length := Nat.sub_add_cancel hpos
  unfold account
  rw [← List.getLast?_eq_getElem?, hlast]
  simp [hlength, nameAt_last hlength]

/-- The rules are decided by a walk, and the reasons are those that the rules on it leave. -/
theorem exists_walk (number : Nat) (rules : List Experiment) :
    ∃ tried, Walk sharder p flagKey user rules tried (tryRules sharder p flagKey user number rules).value ∧
      (tryRules sharder p flagKey user number rules).reasons
        = tried.flatMap (account sharder p flagKey user number rules) := by
  induction rules generalizing number with
  | nil => exact ⟨[], .uncaught fun _ h => (List.not_mem_nil h).elim, rfl⟩
  | cons rule rest ih =>
    have hname : (if rest.isEmpty then lastName else number.repr) = nameAt number (rule :: rest) 0 := by
      cases rest <;> rfl
    unfold tryRules
    rw [hname]
    generalize hname' : nameAt number (rule :: rest) 0 = name
    have haccount : account sharder p flagKey user number (rule :: rest) 0
        = (tryRule sharder p flagKey user rule name).reasons
          ++ if (tryRule sharder p flagKey user rule name).value = .outside ∧ 0 < rest.length
            then [.outsideRuleTraffic user.id name] else [] := by
      simp [account, ← hname']
    have hfirst (h : Catches p flagKey user rule) : IsFirstCatch p flagKey user (rule :: rest) 0 rule :=
      ⟨rfl, h, fun _ hj => (Nat.not_lt_zero _ hj).elim⟩
    simp only [Reasoned.value_bind, Reasoned.reasons_bind]
    cases htrial : (tryRule sharder p flagKey user rule name).value with
    | served v =>
      have hv := tryRule_eq_served.mp htrial
      refine ⟨List.range 1, .served (hfirst (Serves.catches hv)) hv, ?_⟩
      simp [haccount, htrial]
    | uncovered =>
      obtain ⟨tried, hwalk, hreasons⟩ := ih (number + 1)
      refine ⟨_, hwalk.cons (tryRule_eq_uncovered.mp htrial), ?_⟩
      simp [haccount, htrial, hreasons, List.flatMap_map, account_cons]
    | outside =>
      obtain ⟨hcatches, hv⟩ := of_tryRule_eq_outside htrial
      cases hlast : rest.getLast? with
      | none =>
        obtain rfl := List.getLast?_eq_none_iff.mp hlast
        refine ⟨List.range 1, .ended (hfirst hcatches) hv rfl, ?_⟩
        simp [haccount]
      | some last =>
        have hpos : 0 < rest.length := List.length_pos_of_mem (List.mem_of_getLast? hlast)
        have hlast' : (rule :: rest).getLast? = some last := getLast?_cons hlast
        have haccountLast : account sharder p flagKey user number (rule :: rest) ((rule :: rest).length - 1)
            = (tryRule sharder p flagKey user last lastName).reasons := account_last hlast'
        have hwalk : Walk sharder p flagKey user (rule :: rest) (List.range 1 ++ [(rule :: rest).length - 1])
            ((tryRule sharder p flagKey user last lastName).value.variation?.map (last, ·)) :=
          .jumped (hfirst hcatches) hv (Nat.succ_lt_succ hpos) hlast' fun _ => variation?_tryRule_eq_some
        simp only [Reasoned.value_bind, Reasoned.reasons_bind]
        refine ⟨List.range 1 ++ [(rule :: rest).length - 1], ?_, ?_⟩
        · cases hserved : (tryRule sharder p flagKey user last lastName).value <;> rw [hserved] at hwalk
          all_goals exact hwalk
        · rw [List.flatMap_append, List.flatMap_singleton, haccountLast]
          cases (tryRule sharder p flagKey user last lastName).value <;> simp [haccount, htrial, hpos]

/-- Whoever knows the walk knows what is decided and why. -/
theorem Walk.tryRules_eq (h : Walk sharder p flagKey user rules tried served) (number : Nat) :
    tryRules sharder p flagKey user number rules
      = ⟨served, tried.flatMap (account sharder p flagKey user number rules)⟩ := by
  obtain ⟨tried', hwalk, hreasons⟩ : ∃ tried, Walk sharder p flagKey user rules tried _ ∧ _ :=
    exists_walk number rules
  obtain ⟨rfl, hvalue⟩ := hwalk.unique h
  rw [← hvalue, ← hreasons]

/-! ## What is passed by -/

/-- Two users look the same at the rules that are tried, and these stand at the same positions of two lists. The
other rules may differ in everything, and so may the decisions that the users force there. -/
structure AgreeAt (flagKey : String) (user user' : User) (rules rules' : List Experiment) (tried : List Nat) :
    Prop where
  id : user'.id = user.id
  attributes : user'.attributes = user.attributes
  length : rules'.length = rules.length
  position : ∀ i ∈ tried, rules'[i]? = rules[i]?
  forced : ∀ i ∈ tried, ∀ rule, rules[i]? = some rule →
    user'.forced[DecisionPoint.ofRule flagKey rule.key]? = user.forced[DecisionPoint.ofRule flagKey rule.key]?

namespace AgreeAt

variable {name : String}

theorem tryRule_eq (h : AgreeAt flagKey user user' rules rules' tried) (hi : i ∈ tried)
    (hrule : rules[i]? = some rule) :
    tryRule sharder p flagKey user' rule name = tryRule sharder p flagKey user rule name := by
  unfold tryRule User.forcedDecision?
  rw [h.forced i hi rule hrule, h.attributes, h.id]

theorem catches_iff (h : AgreeAt flagKey user user' rules rules' tried) (hi : i ∈ tried)
    (hrule : rules[i]? = some rule) : Catches p flagKey user' rule ↔ Catches p flagKey user rule := by
  unfold Catches User.Forces
  rw [h.forced i hi rule hrule, h.attributes]

theorem serves_iff (h : AgreeAt flagKey user user' rules rules' tried) (hi : i ∈ tried)
    (hrule : rules[i]? = some rule) :
    Serves sharder p flagKey user' rule v ↔ Serves sharder p flagKey user rule v := by
  unfold Serves User.Forces
  rw [h.forced i hi rule hrule, h.attributes, h.id]

theorem isFirstCatch (h : AgreeAt flagKey user user' rules rules' tried) (htried : ∀ j ≤ i, j ∈ tried)
    (hfirst : IsFirstCatch p flagKey user rules i rule) : IsFirstCatch p flagKey user' rules' i rule where
  position := (h.position i (htried i (Nat.le_refl _))).trans hfirst.position
  catches := (h.catches_iff (htried i (Nat.le_refl _)) hfirst.position).mpr hfirst.catches
  earlier j hj r hr := by
    have hjtried := htried j (Nat.le_of_lt hj)
    rw [h.position j hjtried] at hr
    rw [h.catches_iff hjtried hr]
    exact hfirst.earlier j hj r hr

/-- The other user walks the same way over the other rules. -/
theorem walk (h : AgreeAt flagKey user user' rules rules' tried)
    (hwalk : Walk sharder p flagKey user rules tried served) :
    Walk sharder p flagKey user' rules' tried served := by
  have hunserved {i : Nat} {rule : Experiment} (hi : i ∈ tried) (hrule : rules[i]? = some rule)
      (hv : ∀ v, ¬ Serves sharder p flagKey user rule v) : ∀ v, ¬ Serves sharder p flagKey user' rule v :=
    fun v => (not_congr (h.serves_iff hi hrule)).mpr (hv v)
  cases hwalk with
  | uncaught hnone =>
    rw [← h.length]
    refine .uncaught fun rule hrule => ?_
    obtain ⟨i, hi⟩ := List.mem_iff_getElem?.mp hrule
    have htried : i ∈ List.range rules.length :=
      List.mem_range.mpr (h.length ▸ (List.getElem?_eq_some_iff.mp hi).1)
    rw [h.position i htried] at hi
    rw [h.catches_iff htried hi]
    exact hnone rule (List.mem_of_getElem? hi)
  | @served i _ _ hfirst hv =>
    have htried : ∀ j ≤ i, j ∈ List.range (i + 1) := fun j hj => List.mem_range.mpr (Nat.lt_succ_of_le hj)
    exact .served (h.isFirstCatch htried hfirst)
      ((h.serves_iff (htried i (Nat.le_refl _)) hfirst.position).mpr hv)
  | @ended i _ hfirst hv hi =>
    have htried : ∀ j ≤ i, j ∈ List.range (i + 1) := fun j hj => List.mem_range.mpr (Nat.lt_succ_of_le hj)
    exact .ended (h.isFirstCatch htried hfirst) (hunserved (htried _ (Nat.le_refl _)) hfirst.position hv)
      (hi.trans h.length.symm)
  | @jumped i rule last served hfirst hv hi hlast hserved =>
    have htried : ∀ j ≤ i, j ∈ List.range (i + 1) ++ [rules.length - 1] := fun j hj =>
      List.mem_append_left _ (List.mem_range.mpr (Nat.lt_succ_of_le hj))
    have hend : rules.length - 1 ∈ List.range (i + 1) ++ [rules.length - 1] :=
      List.mem_append_right _ (List.mem_singleton_self _)
    have hlast' : rules'.getLast? = some last := by
      rw [List.getLast?_eq_getElem?, h.length, h.position _ hend, ← List.getLast?_eq_getElem?, hlast]
    rw [List.getLast?_eq_getElem?] at hlast
    rw [← h.length]
    refine .jumped (h.isFirstCatch htried hfirst) (hunserved (htried i (Nat.le_refl _)) hfirst.position hv)
      (h.length.symm ▸ hi) hlast' fun v => ?_
    rw [h.serves_iff hend hlast]
    exact hserved v

theorem account_eq {number : Nat} (h : AgreeAt flagKey user user' rules rules' tried) (hi : i ∈ tried) :
    account sharder p flagKey user' number rules' i = account sharder p flagKey user number rules i := by
  unfold account nameAt
  rw [h.position i hi, h.length, h.id]
  cases hrule : rules[i]? with
  | none => rfl
  | some rule => simp only [h.tryRule_eq hi hrule]

end AgreeAt

/-- The rules that are not tried do not matter, neither for what is served nor for the reasons. -/
theorem tryRules_congr {number : Nat} (hwalk : Walk sharder p flagKey user rules tried served)
    (h : AgreeAt flagKey user user' rules rules' tried) :
    tryRules sharder p flagKey user' number rules' = tryRules sharder p flagKey user number rules := by
  rw [hwalk.tryRules_eq, (h.walk hwalk).tryRules_eq, List.flatMap_congr fun i hi => h.account_eq hi]

/-- Neither what a rule asks of a user nor what can be forced there depends on the rollouts of the project. -/
theorem tryRules_with_rollouts {number : Nat} (rollouts : Index Rollout) :
    tryRules sharder { p with rollouts } flagKey user number rules
      = tryRules sharder p flagKey user number rules := by
  have htry (rule : Experiment) (name : String) :
      tryRule sharder { p with rollouts } flagKey user rule name
        = tryRule sharder p flagKey user rule name := rfl
  induction rules generalizing number with
  | nil => rfl
  | cons rule rest ih =>
    unfold tryRules
    simp only [htry, ih]

end Rollout

/-! ## Rollouts of flags -/

namespace Flag

variable {flag : Flag} {rollout : Rollout}

theorem rolloutVerdict?_eq (h : flag.walkedRollout? p = some rollout) :
    flag.rolloutVerdict? sharder p user
      = ⟨(Rollout.tryRules sharder p flag.key user 1 rollout.rules).value.map fun served =>
            .rollout served.1 served.2,
          (if rollout.rules.isEmpty then [.emptyRollout (Text.trim flag.rolloutId)] else [])
            ++ (Rollout.tryRules sharder p flag.key user 1 rollout.rules).reasons⟩ := by
  unfold walkedRollout? at h
  unfold rolloutVerdict?
  dsimp only at h ⊢
  split at h
  · cases h
  · next hid =>
    rw [if_neg hid, h]
    dsimp only
    split
    · next hnil =>
      rw [List.isEmpty_iff.mp hnil]
      rfl
    · exact congrArg _ (List.append_nil _)

end Flag

end

/-- A rollout is walked. There is one walk over its rules, on which each rule is tried at most once. It settles
what is served and every reason, and the rules that are not on it can be replaced by any others, with any
decisions forced there, without a trace in either. -/
theorem Flag.walks_rollout (sharder : Sharder) (p : Project) (flag : Flag) (user : User) (rollout : Rollout)
    (h : flag.walkedRollout? p = some rollout) :
    ∃ tried served,
      Rollout.Walk sharder p flag.key user rollout.rules tried served ∧
      (∀ tried' served', Rollout.Walk sharder p flag.key user rollout.rules tried' served' →
        tried' = tried ∧ served' = served) ∧
      tried.Pairwise (· < ·) ∧
      (∀ i ∈ tried, i < rollout.rules.length) ∧
      (flag.rolloutVerdict? sharder p user).value = served.map (fun s => .rollout s.1 s.2) ∧
      (flag.rolloutVerdict? sharder p user).reasons
        = (if rollout.rules.isEmpty then [.emptyRollout (Text.trim flag.rolloutId)] else [])
          ++ tried.flatMap (Rollout.account sharder p flag.key user 1 rollout.rules) ∧
      ∀ (rollouts' : Index Rollout) (rollout' : Rollout) (user' : User),
        flag.walkedRollout? { p with rollouts := rollouts' } = some rollout' →
        Rollout.AgreeAt flag.key user user' rollout.rules rollout'.rules tried →
        flag.rolloutVerdict? sharder { p with rollouts := rollouts' } user'
          = flag.rolloutVerdict? sharder p user := by
  obtain ⟨tried, hwalk, hreasons⟩ : ∃ tried, Rollout.Walk sharder p flag.key user rollout.rules tried _ ∧ _ :=
    Rollout.exists_walk 1 rollout.rules
  refine ⟨tried, _, hwalk, fun _ _ h' => h'.unique hwalk, hwalk.ascending, hwalk.lt_length, ?_, ?_, ?_⟩
  · rw [rolloutVerdict?_eq h]
  · rw [rolloutVerdict?_eq h, hreasons]
  · intro rollouts' rollout' user' h' hagree
    have hempty : rollout'.rules.isEmpty = rollout.rules.isEmpty := by
      rw [Bool.eq_iff_iff, List.isEmpty_iff_length_eq_zero, List.isEmpty_iff_length_eq_zero, hagree.length]
    rw [rolloutVerdict?_eq h', rolloutVerdict?_eq h, Rollout.tryRules_with_rollouts,
      Rollout.tryRules_congr hwalk hagree, hempty]

namespace Rollout.Walk.Sample

def on : Variation :=
  { (default : Variation) with
    id := "1"
    key := "on" }

/-- A rule that covers everyone, but has no traffic. -/
def closed : Experiment :=
  { (default : Experiment) with
    id := "x"
    key := "closed" }

/-- A rule that serves everyone whom it is tried for. -/
def opened (key : String) : Experiment :=
  { (default : Experiment) with
    id := key
    key
    variations := [on]
    traffic := [⟨"1", 10000⟩] }

def rollout : Rollout :=
  ⟨"r", [closed, opened "between", opened "last"]⟩

def flag : Flag :=
  { (default : Flag) with
    key := "f"
    rolloutId := " r" }

def project : Project :=
  .ofDatafile { (default : Datafile) with
    flags := [flag]
    rollouts := [rollout] }

def user : User :=
  ⟨"u", ∅, ∅⟩

theorem walk :
    Rollout.Walk (fun _ => 0) project flag.key user rollout.rules [0, 2] (some (opened "last", on)) := by
  have hclosed : (Rollout.tryRule (fun _ => 0) project flag.key user closed "1").value = .outside := by
    decide +kernel
  have hopened :
      (Rollout.tryRule (fun _ => 0) project flag.key user (opened "last") "3").value.variation? = some on := by
    decide +kernel
  obtain ⟨hcatches, hunserved⟩ := Rollout.of_tryRule_eq_outside hclosed
  have hfirst : Rollout.IsFirstCatch project flag.key user rollout.rules 0 closed := ⟨rfl, hcatches, nofun⟩
  have hlast (v : Variation) :
      some on = some v ↔ Rollout.Serves (fun _ => 0) project flag.key user (opened "last") v := by
    rw [← Rollout.variation?_tryRule_eq_some, hopened]
  exact .jumped hfirst hunserved (by decide) rfl hlast

/-- A user that forces a decision at the rule that is passed by. -/
def insistent : User :=
  ⟨"u", ∅, Std.TreeMap.ofList [(DecisionPoint.ofRule "f" "between", "on")]⟩

end Rollout.Walk.Sample

/-- The rule between the first and the last one would serve the user too, but is passed by. Not even a decision
that is forced there makes a difference. -/
theorem Rollout.Walk.jumps_over_one :
    Sample.flag.walkedRollout? Sample.project = some Sample.rollout ∧
      (Sample.flag.rolloutVerdict? (fun _ => 0) Sample.project Sample.user).value
        = some (.rollout (Sample.opened "last") Sample.on) ∧
      Sample.flag.rolloutVerdict? (fun _ => 0) Sample.project Sample.insistent
        = Sample.flag.rolloutVerdict? (fun _ => 0) Sample.project Sample.user := by
  have h : Sample.flag.walkedRollout? Sample.project = some Sample.rollout := rfl
  obtain ⟨tried, served, -, hunique, -, -, hvalue, -, hothers⟩ :=
    Flag.walks_rollout (fun _ => 0) Sample.project Sample.flag Sample.user Sample.rollout h
  obtain ⟨rfl, rfl⟩ := hunique _ _ Sample.walk
  refine ⟨h, hvalue, hothers Sample.project.rollouts Sample.rollout Sample.insistent h ?_⟩
  refine ⟨rfl, rfl, rfl, fun _ _ => rfl, ?_⟩
  decide +kernel

end FlagEngine
