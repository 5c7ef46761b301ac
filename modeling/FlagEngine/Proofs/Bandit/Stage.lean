import FlagEngine.Proofs.Discipline
import FlagEngine.Proofs.Placements
import FlagEngine.Proofs.Runs

/-!
# Turning to a bandit

An experiment turns to its bandit for a user if nothing is set for the user and the audience, the group and
the traffic let the user in: `Experiment.TurnsToBandit`. What a bandit that is consulted comes to is
`Bandit.Consults`. Together they decide what the experiment comes to (`Experiment.ends_serve?_of_turns`), and
without them it neither fails nor serves a variation of a bandit (`Experiment.plain_of_not_turns`).
-/

namespace FlagEngine

open Deliberation

variable {σ : Type} {handler : Plan.Handler σ} {reply : Bandit.Call → σ → Bandit.Reply × σ}
  {engine : Engine} {p : Project} {userId : String} {attributes : Attributes} {options : Options}
  {tracker tracker' : Option Tracker} {s s' : σ}

/-! ## Consulting -/

namespace Bandit

/-- In a run the bandit of a rule is consulted for a user. The services answer with what is remembered, or
there is a fetch; what is fetched is handed back to the services, and a failure is not. -/
inductive Consults (handler : Plan.Handler σ) (reply : Call → σ → Reply × σ) (p : Project)
    (userId : String) (attributes : Attributes) (ruleId : String) (options : CacheOptions) (s : σ) :
    Except Failure Choice → σ → Prop where
  | remembered {e : Entry} {s' : σ} :
      handler (.beginDecision (cacheKey userId ruleId) (told p ruleId attributes).fingerprint options) s
        = (Finding.hit e, s') →
      Consults handler reply p userId attributes ruleId options s (.ok e.choice) s'
  | failed {t : Ticket} {uuid : String} {f : Failure} {s₁ s₂ s' : σ} :
      handler (.beginDecision (cacheKey userId ruleId) (told p ruleId attributes).fingerprint options) s
        = (Finding.miss t, s₁) →
      handler .uuid s₁ = (uuid, s₂) →
      reply ⟨ruleId, userId, told p ruleId attributes, uuid⟩ s₂ = (.error f, s') →
      Consults handler reply p userId attributes ruleId options s (.error f) s'
  | fetched {t : Ticket} {uuid variationId : String} {written : Bool} {s₁ s₂ s₃ s' : σ} :
      handler (.beginDecision (cacheKey userId ruleId) (told p ruleId attributes).fingerprint options) s
        = (Finding.miss t, s₁) →
      handler .uuid s₁ = (uuid, s₂) →
      reply ⟨ruleId, userId, told p ruleId attributes, uuid⟩ s₂ = (.ok variationId, s₃) →
      handler (.completeDecision (cacheKey userId ruleId)
        ⟨(told p ruleId attributes).fingerprint, variationId, uuid⟩ t) s₃ = (written, s') →
      Consults handler reply p userId attributes ruleId options s (.ok ⟨variationId, uuid⟩) s'

variable {ruleId : String} {cacheOptions : CacheOptions} {result : Except Failure Choice}

theorem Consults.run_eq
    (h : Consults handler reply p userId attributes ruleId cacheOptions s result s') :
    (consult p userId attributes ruleId cacheOptions).run handler reply s = (result, s') := by
  have hrun : (consult p userId attributes ruleId cacheOptions).run handler reply s = _ :=
    Plan.run_ask ..
  rw [hrun]
  cases h with
  | remembered hbegin =>
    rw [hbegin]
    rfl
  | failed hbegin huuid hreply =>
    rw [hbegin]
    refine (Plan.run_ask ..).trans ?_
    rw [huuid]
    refine (Plan.run_fetch ..).trans ?_
    rw [hreply]
    rfl
  | fetched hbegin huuid hreply hcomplete =>
    rw [hbegin]
    refine (Plan.run_ask ..).trans ?_
    rw [huuid]
    refine (Plan.run_fetch ..).trans ?_
    rw [hreply]
    refine (Plan.run_ask ..).trans ?_
    rw [hcomplete]
    rfl

theorem exists_consults (handler : Plan.Handler σ) (reply : Call → σ → Reply × σ) (p : Project)
    (userId : String) (attributes : Attributes) (ruleId : String) (options : CacheOptions) (s : σ) :
    ∃ result s', Consults handler reply p userId attributes ruleId options s result s' := by
  rcases hbegin : handler (.beginDecision (cacheKey userId ruleId)
    (told p ruleId attributes).fingerprint options) s with ⟨finding, s₁⟩
  cases finding with
  | hit e => exact ⟨_, _, .remembered hbegin⟩
  | miss t =>
    rcases huuid : handler .uuid s₁ with ⟨uuid, s₂⟩
    rcases hreply : reply ⟨ruleId, userId, told p ruleId attributes, uuid⟩ s₂ with ⟨answer, s₃⟩
    cases answer with
    | error f => exact ⟨_, _, .failed hbegin huuid hreply⟩
    | ok variationId => exact ⟨_, _, .fetched hbegin huuid hreply rfl⟩

theorem run_consult_eq_iff :
    (consult p userId attributes ruleId cacheOptions).run handler reply s = (result, s') ↔
      Consults handler reply p userId attributes ruleId cacheOptions s result s' := by
  refine ⟨fun h => ?_, Consults.run_eq⟩
  obtain ⟨result', s'', hc⟩ := exists_consults handler reply p userId attributes ruleId cacheOptions s
  cases hc.run_eq.symm.trans h
  exact hc

end Bandit

/-- In a run an engine turns to the bandit of a rule. An engine without a bandit fails at once. -/
inductive Engine.Inquires (engine : Engine) (handler : Plan.Handler σ)
    (reply : Bandit.Call → σ → Bandit.Reply × σ) (p : Project) (userId : String) (attributes : Attributes)
    (ruleId : String) (options : Options) (s : σ) : Except Bandit.Failure Bandit.Choice → σ → Prop where
  | noClient : engine.hasBandit = false →
      Inquires engine handler reply p userId attributes ruleId options s (.error .noClient) s
  | consulted {result : Except Bandit.Failure Bandit.Choice} {s' : σ} : engine.hasBandit = true →
      Bandit.Consults handler reply p userId attributes ruleId options.cacheOptions s result s' →
      Inquires engine handler reply p userId attributes ruleId options s result s'

theorem Engine.exists_inquires (engine : Engine) (handler : Plan.Handler σ)
    (reply : Bandit.Call → σ → Bandit.Reply × σ) (p : Project) (userId : String) (attributes : Attributes)
    (ruleId : String) (options : Options) (s : σ) :
    ∃ result s', engine.Inquires handler reply p userId attributes ruleId options s result s' := by
  cases h : engine.hasBandit with
  | false => exact ⟨_, _, .noClient h⟩
  | true =>
    obtain ⟨result, s', hc⟩ := Bandit.exists_consults handler reply p userId attributes ruleId
      options.cacheOptions s
    exact ⟨_, _, .consulted h hc⟩

/-! ## Who is let in -/

namespace Experiment

variable {e : Experiment} {b : Experiment.Bandit} {bucketingId : String}

/-- If the experiment is in a group with the policy `random`, the ranges of the group choose it. -/
def GroupAdmits (sharder : Sharder) (p : Project) (e : Experiment) (bucketingId : String) : Prop :=
  ∀ g, p.groupOf? e.id = some g → g.policy = .random →
    ∃ id chosen, sharder.bucket? bucketingId g.id g.traffic = some id ∧ p.experiment? id = some chosen ∧
      chosen.id = e.id

/-- The bucket value is in the traffic of the bandit and, if the engine asks for that, the ranges of the
experiment allocate it, too. -/
def TrafficAdmits (engine : Engine) (e : Experiment) (b : Experiment.Bandit) (bucketingId : String) :
    Prop :=
  engine.sharder.value bucketingId e.id < b.traffic ∧
    (engine.admission = .experimentAndBanditTraffic →
      ∃ id, engine.sharder.bucket? bucketingId e.id e.traffic = some id)

theorem isChosen_eq_true {sharder : Sharder} {g : Group} :
    (e.isChosen sharder p g bucketingId).value = true ↔
      ∃ id chosen, sharder.bucket? bucketingId g.id g.traffic = some id ∧
        p.experiment? id = some chosen ∧ chosen.id = e.id := by
  unfold isChosen
  cases sharder.bucket? bucketingId g.id g.traffic with
  | none => simp
  | some id =>
    simp only [Option.some.injEq, exists_and_left, exists_eq_left']
    cases p.experiment? id with
    | none => simp
    | some chosen =>
      simp only [Option.some.injEq, exists_eq_left']
      split <;> simp [*]

theorem passesGroup_eq_true {sharder : Sharder} :
    (e.passesGroup sharder p bucketingId).value = true ↔ e.GroupAdmits sharder p bucketingId := by
  unfold passesGroup GroupAdmits
  cases p.groupOf? e.id with
  | none => simp
  | some g =>
    simp only [Option.some.injEq, forall_eq', ← isChosen_eq_true]
    split <;> simp [*]

theorem isInBanditTraffic_eq_true :
    e.isInBanditTraffic engine b bucketingId = true ↔ e.TrafficAdmits engine b bucketingId := by
  have hvalue : (engine.sharder.bucket? bucketingId e.id [⟨"$", b.traffic⟩]).isSome = true ↔
      engine.sharder.value bucketingId e.id < b.traffic := by
    rw [Sharder.bucket?, Traffic.allocate?_cons]
    split <;> simp [*]
  unfold isInBanditTraffic TrafficAdmits
  rw [Bool.and_eq_true, hvalue, Bool.or_eq_true, Option.isSome_iff_exists, and_comm]
  cases engine.admission <;> simp

/-- The experiment turns to its bandit for a user, if `answer` is what the client has set for the user. It
is running, neither the client nor the whitelist has a valid variation for the user, the audience covers the
user, and the group and the traffic let the user in. -/
structure TurnsToBandit (engine : Engine) (p : Project) (userId : String) (attributes : Attributes)
    (answer : Option String) (e : Experiment) (b : Experiment.Bandit) : Prop where
  running : e.rule.isRunning = true
  bandit : e.bandit = some b
  unforced : answer.bind e.rule.variationById? = none
  unlisted : (e.whitelist.lookup userId).bind e.rule.variationByKey? = none
  covered : e.rule.Covers p attributes
  grouped : e.GroupAdmits engine.sharder p (attributes.bucketingId userId)
  admitted : e.TrafficAdmits engine b (attributes.bucketingId userId)

/-- What the experiment serves of what its bandit says. An unknown variation is none. -/
def ofBandit (e : Experiment) :
    Except Bandit.Failure Bandit.Choice → Except Bandit.Failure (Option Served)
  | .error f => .error f
  | .ok choice =>
    .ok ((e.rule.variationById? choice.variationId).map fun v => ⟨v, some choice.uuid⟩)

theorem ofBandit_of_some {choice : Bandit.Choice} {v : Variation}
    (h : e.rule.variationById? choice.variationId = some v) :
    e.ofBandit (.ok choice) = .ok (some ⟨v, some choice.uuid⟩) := by
  simp [ofBandit, h]

theorem ofBandit_of_none {choice : Bandit.Choice} (h : e.rule.variationById? choice.variationId = none) :
    e.ofBandit (.ok choice) = .ok none := by
  simp [ofBandit, h]

/-! ## What the experiment comes to -/

variable {result : Except Bandit.Failure (Option Served)}
  {said : Except Bandit.Failure Bandit.Choice}

variable (tracker) in
theorem ends_chosen?_of_admits
    (hgroup : e.GroupAdmits engine.sharder p (attributes.bucketingId userId))
    (htraffic : e.TrafficAdmits engine b (attributes.bucketingId userId))
    (h : engine.Inquires handler reply p userId attributes e.id options s said s') :
    (e.chosen? engine p b userId attributes options).Ends handler reply tracker s (e.ofBandit said)
      tracker s' := by
  refine (ends_ofReasoned_bind (r := e.passesGroup engine.sharder p _)).mpr ?_
  rw [passesGroup_eq_true.mpr hgroup, if_pos rfl, if_pos (isInBanditTraffic_eq_true.mpr htraffic)]
  cases h with
  | noClient hb =>
    rw [hb]
    exact ends_fail.mpr ⟨rfl, rfl, rfl⟩
  | consulted hb hc =>
    rw [hb, if_pos rfl]
    refine (ends_ofPlan_of_run hc.run_eq).bind ?_
    cases said with
    | error f => exact ends_fail.mpr ⟨rfl, rfl, rfl⟩
    | ok choice =>
      dsimp only [ofBandit]
      cases e.rule.variationById? choice.variationId with
      | some v => exact ends_pure.mpr ⟨rfl, rfl, rfl⟩
      | none => exact (ends_note _).bind (ends_pure.mpr ⟨rfl, rfl, rfl⟩)

theorem eq_none_of_ends_chosen?
    (hadmits : ¬ (e.GroupAdmits engine.sharder p (attributes.bucketingId userId) ∧
      e.TrafficAdmits engine b (attributes.bucketingId userId)))
    (h : (e.chosen? engine p b userId attributes options).Ends handler reply tracker s result tracker' s') :
    result = .ok none := by
  rw [← passesGroup_eq_true, ← isInBanditTraffic_eq_true] at hadmits
  have h := (ends_ofReasoned_bind (r := e.passesGroup engine.sharder p _)).mp h
  split at h
  · next hgroup =>
    split at h
    · next htraffic => exact (hadmits ⟨hgroup, htraffic⟩).elim
    · exact (h.unique ((ends_note _).bind (ends_pure.mpr ⟨rfl, rfl, rfl⟩))).1
  · exact (ends_pure.mp h).1

/-- The variation that is set for a user, if `answer` is what the client has set. -/
def setVariation? (e : Experiment) (userId : String) (answer : Option String) : Option Variation :=
  (answer.bind e.rule.variationById?).or ((e.whitelist.lookup userId).bind e.rule.variationByKey?)

variable {answer : Option String} {s₁ : σ}

theorem ends_overridden? (h : handler (.forcedVariation userId e.id) s = (answer, s')) :
    (e.overridden? userId).Ends handler reply tracker s (.ok (e.setVariation? userId answer)) tracker s' := by
  have hquery : (Plan.query (.forcedVariation userId e.id)).run handler reply s = (answer, s') := h
  refine (ends_ofPlan_of_run hquery).bind ?_
  refine (ends_ofReasoned_bind (r := e.forcedVariation? userId answer)).mpr ?_
  unfold setVariation?
  rw [value_forcedVariation?, ← value_whitelisted?]
  cases answer.bind e.rule.variationById? with
  | some v => exact ends_pure.mpr ⟨rfl, rfl, rfl⟩
  | none => exact ends_ofReasoned.mpr ⟨rfl, rfl, rfl⟩

/-- An experiment with a bandit looks at no profile. -/
theorem ends_serve?_of_bandit (hrunning : e.rule.isRunning = true) (hb : e.bandit = some b)
    (hanswer : handler (.forcedVariation userId e.id) s = (answer, s₁))
    (hset : e.setVariation? userId answer = none) :
    (e.serve? engine p userId attributes options).Ends handler reply tracker s result tracker' s' ↔
      (e.targeted? engine p userId attributes options).Ends handler reply tracker s₁ result tracker' s' := by
  unfold serve?
  rw [if_pos hrunning, (ends_overridden? hanswer).bind_iff, hset]
  unfold Experiment.saved?
  rw [hb, Option.isSome_some, if_pos rfl]
  exact ends_pure_bind

variable (tracker) in
/-- What the bandit says decides what the experiment comes to. -/
theorem ends_serve?_of_turns (h : e.TurnsToBandit engine p userId attributes answer b)
    (hanswer : handler (.forcedVariation userId e.id) s = (answer, s₁))
    (hsaid : engine.Inquires handler reply p userId attributes e.id options s₁ said s') :
    (e.serve? engine p userId attributes options).Ends handler reply tracker s (e.ofBandit said)
      tracker s' := by
  have hset : e.setVariation? userId answer = none := by
    unfold setVariation?
    rw [h.unforced, h.unlisted]
    rfl
  have hchosen := ends_chosen?_of_admits tracker h.grouped h.admitted hsaid
  rw [ends_serve?_of_bandit h.running h.bandit hanswer hset]
  unfold targeted? allocated?
  rw [h.bandit]
  refine (ends_ofReasoned_bind (r := e.rule.admits p e.key attributes)).mpr ?_
  rw [Rule.admits_eq_true.mpr h.covered, if_pos rfl]
  cases said with
  | error f => exact hchosen.bind_error
  | ok choice =>
    cases hv : e.rule.variationById? choice.variationId with
    | some v =>
      rw [ofBandit_of_some hv] at hchosen ⊢
      exact hchosen.bind ((ends_note _).bind (ends_pure.mpr ⟨rfl, rfl, rfl⟩))
    | none =>
      rw [ofBandit_of_none hv] at hchosen ⊢
      exact hchosen.bind ((ends_note _).bind (ends_pure.mpr ⟨rfl, rfl, rfl⟩))

/-! ### Without the bandit -/

/-- No bandit has chosen what is served, if anything is. -/
def IsPlain (served : Option Served) : Prop :=
  ∀ x ∈ served, x.banditUuid = none

theorem isPlain_none : IsPlain none := by
  rintro _ ⟨⟩

theorem isPlain_some (v : Variation) : IsPlain (some ⟨v, none⟩) := by
  rintro _ ⟨⟩
  rfl

theorem attains_overridden? (e : Experiment) (userId : String) :
    (e.overridden? userId).Attains fun _ => True := by
  refine (attains_ofPlan _).bind fun answer _ => ?_
  refine attains_ofReasoned_bind (r := e.forcedVariation? userId answer) ?_
  cases (e.forcedVariation? userId answer).value with
  | some v => exact attains_pure trivial
  | none => exact attains_ofReasoned trivial

theorem attains_saved? (e : Experiment) (userId : String) :
    (e.saved? userId).Attains fun _ => True := by
  unfold Experiment.saved?
  split
  · exact attains_pure trivial
  · refine (Deliberation.attains_saved? e.id).bind fun saved _ => ?_
    cases saved.bind e.rule.variationById? with
    | some v => exact attains_ofReasoned_bind (attains_pure trivial)
    | none => exact attains_pure trivial

theorem attains_targeted?_of_no_bandit (hb : e.bandit = none) :
    (e.targeted? engine p userId attributes options).Attains IsPlain := by
  have hallocated : (e.allocated? engine p userId attributes options).Attains IsPlain := by
    unfold allocated?
    rw [hb]
    refine attains_ofReasoned_bind (attains_pure ?_)
    cases (e.bucket? engine.sharder p (attributes.bucketingId userId)).value with
    | some v => exact isPlain_some v
    | none => exact isPlain_none
  refine attains_ofReasoned_bind (r := e.rule.admits p e.key attributes) ?_
  split
  · refine hallocated.bind fun served hserved => ?_
    cases served with
    | some served =>
      refine attains_ofReasoned_bind ?_
      rw [hb]
      exact (attains_record e.id served.variation.id).bind fun _ _ => attains_pure hserved
    | none => exact attains_ofReasoned_bind (attains_pure isPlain_none)
  · exact attains_ofReasoned_bind (attains_pure isPlain_none)

theorem attains_serve?_of_no_bandit (hb : e.bandit = none) :
    (e.serve? engine p userId attributes options).Attains IsPlain := by
  unfold serve?
  split
  · refine (e.attains_overridden? userId).bind fun set _ => ?_
    cases set with
    | some v => exact attains_pure (isPlain_some v)
    | none =>
      refine (e.attains_saved? userId).bind fun saved _ => ?_
      cases saved with
      | some v => exact attains_pure (isPlain_some v)
      | none => exact attains_targeted?_of_no_bandit hb
  · exact attains_ofReasoned_bind (attains_pure isPlain_none)

/-- An experiment that does not turn to its bandit does not fail, and serves nothing of a bandit. -/
theorem plain_of_not_turns (hanswer : handler (.forcedVariation userId e.id) s = (answer, s₁))
    (hturns : ∀ b, ¬ e.TurnsToBandit engine p userId attributes answer b)
    (h : (e.serve? engine p userId attributes options).Ends handler reply tracker s result tracker' s') :
    ∃ served, result = .ok served ∧ IsPlain served := by
  cases hb : e.bandit with
  | none => exact (attains_serve?_of_no_bandit hb).of_ends h
  | some b =>
    cases hrunning : e.rule.isRunning with
    | false =>
      unfold serve? at h
      rw [hrunning, if_neg Bool.false_ne_true] at h
      have hend := h.unique ((ends_note _).bind (ends_pure.mpr ⟨rfl, rfl, rfl⟩))
      exact ⟨none, hend.1, isPlain_none⟩
    | true =>
      cases hset : e.setVariation? userId answer with
      | some v =>
        unfold serve? at h
        rw [if_pos hrunning, (ends_overridden? hanswer).bind_iff, hset] at h
        exact ⟨_, (ends_pure.mp h).1, isPlain_some v⟩
      | none =>
        rw [ends_serve?_of_bandit hrunning hb hanswer hset] at h
        obtain ⟨hforced, hlisted⟩ := Option.or_eq_none_iff.mp hset
        have hadmits (hcovered : e.rule.Covers p attributes) :
            ¬ (e.GroupAdmits engine.sharder p (attributes.bucketingId userId) ∧
              e.TrafficAdmits engine b (attributes.bucketingId userId)) :=
          fun ⟨hgroup, htraffic⟩ => hturns b ⟨hrunning, hb, hforced, hlisted, hcovered, hgroup, htraffic⟩
        unfold targeted? allocated? at h
        rw [hb] at h
        have h := (ends_ofReasoned_bind (r := e.rule.admits p e.key attributes)).mp h
        split at h
        · next hcovered =>
          obtain ⟨chosen, tracker₁, s₂, hchosen⟩ :=
            exists_ends handler reply (e.chosen? engine p b userId attributes options) tracker s₁
          obtain rfl := eq_none_of_ends_chosen? (hadmits (Rule.admits_eq_true.mp hcovered)) hchosen
          have hend := h.unique (hchosen.bind ((ends_note _).bind (ends_pure.mpr ⟨rfl, rfl, rfl⟩)))
          exact ⟨none, hend.1, isPlain_none⟩
        · have hend := h.unique ((ends_note _).bind (ends_pure.mpr ⟨rfl, rfl, rfl⟩))
          exact ⟨none, hend.1, isPlain_none⟩

/-- Either no bandit has a part in what the experiment comes to, or it is what its bandit says. -/
theorem plain_or_ofBandit
    (h : (e.serve? engine p userId attributes options).Ends handler reply tracker s result tracker' s') :
    (∃ served, result = .ok served ∧ IsPlain served) ∨
      ∃ s₁ answer b said, handler (.forcedVariation userId e.id) s = (answer, s₁) ∧
        e.TurnsToBandit engine p userId attributes answer b ∧
        engine.Inquires handler reply p userId attributes e.id options s₁ said s' ∧
        result = e.ofBandit said ∧ tracker' = tracker := by
  obtain ⟨answer, s₁, hanswer⟩ : ∃ (answer : Option String) (s₁ : σ),
      handler (.forcedVariation userId e.id) s = (answer, s₁) := ⟨_, _, rfl⟩
  by_cases hturns : ∃ b, e.TurnsToBandit engine p userId attributes answer b
  · obtain ⟨b, hturns⟩ := hturns
    obtain ⟨said, s₂, hsaid⟩ :=
      engine.exists_inquires handler reply p userId attributes e.id options s₁
    obtain ⟨hresult, htracker, rfl⟩ := h.unique (ends_serve?_of_turns tracker hturns hanswer hsaid)
    exact .inr ⟨s₁, answer, b, said, hanswer, hturns, hsaid, hresult, htracker⟩
  · exact .inl (plain_of_not_turns hanswer (fun b hb => hturns ⟨b, hb⟩) h)

end Experiment

end FlagEngine
