import FlagEngine.Proofs.Alternatives
import FlagEngine.Proofs.Bandit.Stage
import FlagEngine.Proofs.EarlyStages

/-!
# Precedence inside an experiment

An experiment is decided in layers, of which the first that applies has the answer. `Experiment.serve?_eq`
splits the decision into the layers, `Experiment.Layer.Settles` says when a layer applies and what its answer
is, and `Experiment.serves_by_precedence` that no layer is asked after the first one that applies, and a bandit
only by the last one.
-/

namespace FlagEngine

open Deliberation

/-- An entity that is allocated has an id. -/
theorem Sharder.ne_empty_of_bucket? {sharder : Sharder} {bucketingId salt id : String}
    {ranges : List TrafficRange} (h : sharder.bucket? bucketingId salt ranges = some id) : id ≠ "" := by
  have hid := (Option.filter_eq_some_iff.mp h).2
  rintro rfl
  cases hid

namespace Experiment

/-- The layers of the decision of an experiment. -/
inductive Layer where
  | status
  /-- What the client has set for the user. -/
  | client
  | whitelist
  | profile
  | audience
  | group
  /-- What the ranges of the experiment or its bandit choose. -/
  | choice
deriving DecidableEq

namespace Layer

/-- The layers in the order in which they are asked. -/
def order : List Layer :=
  [.status, .client, .whitelist, .profile, .audience, .group, .choice]

end Layer

/-- The variation that the client has set for a user. -/
def clientVariation? (e : Experiment) (userId : String) : Deliberation (Option Variation) := do
  let variationId : Option String ← Plan.query (.forcedVariation userId e.id)
  e.forcedVariation? userId variationId

/-- The variation that the bandit of an experiment chooses for a user who is past the group. -/
def banditChoice? (engine : Engine) (p : Project) (e : Experiment) (b : Experiment.Bandit) (userId : String)
    (attributes : Attributes) (options : Options) : Deliberation (Option Served) := do
  if e.isInBanditTraffic engine b (attributes.bucketingId userId) then
    if engine.hasBandit then
      match ← Bandit.consult p userId attributes e.id options.cacheOptions with
      | .error f => Deliberation.fail (.banditFailed e.key) f
      | .ok choice =>
        match e.rule.variationById? choice.variationId with
        | some v => return some ⟨v, some choice.uuid⟩
        | none =>
          note (.unknownVariation choice.variationId)
          return none
    else Deliberation.fail (.banditFailed e.key) .noClient
  else
    note (.outsideBanditTraffic userId e.key)
    return none

/-- The variation that is chosen for a user who is past the group. -/
def choice? (engine : Engine) (p : Project) (e : Experiment) (userId : String) (attributes : Attributes)
    (options : Options) : Deliberation (Option Served) :=
  match e.bandit with
  | some b => e.banditChoice? engine p b userId attributes options
  | none => do
    let v ← e.rule.bucket? engine.sharder (attributes.bucketingId userId)
    return v.map fun v => ⟨v, none⟩

/-- Puts a user into what has been chosen. -/
def settleOn (e : Experiment) (userId : String) : Option Served → Deliberation (Option Served)
  | some served => do
    note (.inVariation userId served.variation.key e.key)
    if e.bandit.isNone then Deliberation.record e.id served.variation.id
    return some served
  | none => do
    note (.inNoVariation userId)
    return none

/-- Asks one layer. It passes the user on, or answers with what the experiment serves. -/
def Layer.ask (engine : Engine) (p : Project) (e : Experiment) (userId : String) (attributes : Attributes)
    (options : Options) : Layer → Deliberation (Option (Option Served))
  | .status =>
    if e.rule.isRunning then return none
    else do
      note (.experimentNotRunning e.key)
      return some none
  | .client => do
    let v ← e.clientVariation? userId
    return v.map fun v => some ⟨v, none⟩
  | .whitelist => do
    let v ← e.whitelisted? userId
    return v.map fun v => some ⟨v, none⟩
  | .profile => do
    let v ← e.saved? userId
    return v.map fun v => some ⟨v, none⟩
  | .audience => do
    if ← e.rule.admits p e.key attributes then return none
    else
      note (.experimentConditions userId e.key)
      return some none
  | .group => do
    if ← e.passesGroup engine.sharder p (attributes.bucketingId userId) then return none
    else
      note (.inNoVariation userId)
      return some none
  | .choice => do
    let chosen ← e.choice? engine p userId attributes options
    return some (← e.settleOn userId chosen)

variable {σ : Type} {handler : Plan.Handler σ} {reply : Bandit.Call → σ → Bandit.Reply × σ}
  {engine : Engine} {p : Project} {e : Experiment} {userId : String} {attributes : Attributes}
  {options : Options} {tracker tracker' : Option Tracker} {s s' : σ}

/-! ## The layers make up the decision -/

theorem chosen?_eq {b : Experiment.Bandit} :
    e.chosen? engine p b userId attributes options
      = ofReasoned (e.passesGroup engine.sharder p (attributes.bucketingId userId)) >>= fun
        | true => e.banditChoice? engine p b userId attributes options
        | false => return none :=
  bind_congr fun admitted => by cases admitted <;> rfl

theorem allocated?_eq :
    e.allocated? engine p userId attributes options
      = ofReasoned (e.passesGroup engine.sharder p (attributes.bucketingId userId)) >>= fun
        | true => e.choice? engine p userId attributes options
        | false => return none := by
  unfold allocated? choice?
  cases e.bandit with
  | some b => exact chosen?_eq
  | none =>
    unfold bucket?
    have hsplit := ofReasoned_bind (e.passesGroup engine.sharder p (attributes.bucketingId userId))
      fun admitted =>
        if admitted then e.rule.bucket? engine.sharder (attributes.bucketingId userId) else return none
    refine (congrArg (· >>= _) hsplit).trans ((bind_assoc ..).trans ?_)
    refine bind_congr fun admitted => ?_
    cases admitted with
    | true => rfl
    | false => exact pure_bind _ _

theorem targeted?_eq :
    e.targeted? engine p userId attributes options
      = ofReasoned (e.rule.admits p e.key attributes) >>= fun
        | true => e.allocated? engine p userId attributes options >>= e.settleOn userId
        | false => do
          note (.experimentConditions userId e.key)
          return none := by
  unfold targeted?
  refine bind_congr fun admitted => ?_
  cases admitted with
  | false => rfl
  | true =>
    rw [if_pos rfl]
    refine bind_congr fun chosen => ?_
    cases chosen <;> rfl

/-- A layer whose answer is a variation, or nothing. -/
theorem inTurn_map_cons {α β : Type} (x : Deliberation (Option β)) (f : β → Option α)
    (xs : List (Deliberation (Option (Option α)))) :
    inTurn ((do return (← x).map f) :: xs) = x >>= fun
      | some b => return f b
      | none => inTurn xs := by
  rw [inTurn_cons, bind_assoc]
  refine bind_congr fun answer => ?_
  cases answer <;> exact pure_bind _ _

/-- A layer that passes the user on, or answers that there is nothing. -/
theorem inTurn_guard_cons {α : Type} (x : Deliberation Bool) (r : Reason)
    (xs : List (Deliberation (Option (Option α)))) :
    inTurn ((do if ← x then return none else (do note r; return some none)) :: xs) = x >>= fun
      | true => inTurn xs
      | false => do
        note r
        return none := by
  rw [inTurn_cons, bind_assoc]
  refine bind_congr fun passed => ?_
  cases passed with
  | true => exact pure_bind _ _
  | false => exact (bind_assoc ..).trans (bind_congr fun _ => pure_bind _ _)

theorem inTurn_choice :
    inTurn [Layer.choice.ask engine p e userId attributes options]
      = e.choice? engine p userId attributes options >>= e.settleOn userId := by
  simp [inTurn_cons, Layer.ask]

theorem inTurn_group :
    inTurn ([.group, .choice].map (Layer.ask engine p e userId attributes options))
      = e.allocated? engine p userId attributes options >>= e.settleOn userId := by
  rw [allocated?_eq, bind_assoc]
  refine (inTurn_guard_cons (ofReasoned (e.passesGroup engine.sharder p _)) _ _).trans ?_
  refine bind_congr fun admitted => ?_
  cases admitted with
  | true => exact inTurn_choice
  | false => exact (pure_bind none (e.settleOn userId)).symm

theorem inTurn_audience :
    inTurn ([.audience, .group, .choice].map (Layer.ask engine p e userId attributes options))
      = e.targeted? engine p userId attributes options := by
  rw [targeted?_eq]
  refine (inTurn_guard_cons (ofReasoned (e.rule.admits p e.key attributes)) _ _).trans ?_
  refine bind_congr fun admitted => ?_
  cases admitted with
  | true => exact inTurn_group
  | false => rfl

theorem overridden?_eq :
    e.overridden? userId = e.clientVariation? userId >>= fun
      | some v => return some v
      | none => ofReasoned (e.whitelisted? userId) :=
  (bind_assoc ..).symm

theorem inTurn_profile :
    inTurn ([.profile, .audience, .group, .choice].map (Layer.ask engine p e userId attributes options))
      = e.saved? userId >>= fun
        | some v => return some ⟨v, none⟩
        | none => e.targeted? engine p userId attributes options := by
  rw [← inTurn_audience]
  refine (inTurn_map_cons (e.saved? userId) (fun v => some (Served.mk v none)) _).trans ?_
  exact bind_congr fun saved => by cases saved <;> rfl

theorem inTurn_client :
    inTurn ([.client, .whitelist, .profile, .audience, .group, .choice].map
        (Layer.ask engine p e userId attributes options))
      = e.overridden? userId >>= fun
        | some v => return some ⟨v, none⟩
        | none => e.saved? userId >>= fun
          | some v => return some ⟨v, none⟩
          | none => e.targeted? engine p userId attributes options := by
  rw [← inTurn_profile, overridden?_eq, bind_assoc]
  refine (inTurn_map_cons (e.clientVariation? userId) (fun v => some (Served.mk v none)) _).trans ?_
  refine bind_congr fun forced => ?_
  cases forced with
  | some v => exact (pure_bind (some v) fun _ => _).symm
  | none =>
    refine (inTurn_map_cons (ofReasoned (e.whitelisted? userId)) (fun v => some (Served.mk v none)) _).trans ?_
    exact bind_congr fun listed => by cases listed <;> rfl

/-- The decision of an experiment is what its layers come to in turn. -/
theorem serve?_eq :
    e.serve? engine p userId attributes options
      = inTurn (Layer.order.map (Layer.ask engine p e userId attributes options)) := by
  unfold serve?
  rw [Layer.order, List.map_cons, inTurn_cons, Layer.ask]
  cases e.rule.isRunning with
  | false => simp
  | true =>
    refine inTurn_client.symm.trans ?_
    exact (pure_bind none fun _ => _).symm

/-! ## When a layer applies -/

/-- The profile that is looked at: what has been read of it, or else what the store tells of it. Without
profiles there is none. -/
def profileInView? (handler : Plan.Handler σ) (s : σ) : Option Tracker → Option Profile
  | none => none
  | some t =>
    let answer : Option Profile := (handler (.profile t.userId) s).1
    some (t.loaded.getD (answer.getD ∅))

/-- A layer applies and has an answer. Here `answer` is what the client has set for the user, as the services
have told, and `s` is their state after that. -/
inductive Layer.Settles (handler : Plan.Handler σ) (reply : Bandit.Call → σ → Bandit.Reply × σ)
    (engine : Engine) (p : Project) (e : Experiment) (userId : String) (attributes : Attributes)
    (options : Options) (tracker : Option Tracker) (answer : Option String) (s : σ) :
    Layer → Except Bandit.Failure (Option Served) → Prop where
  | notRunning : e.rule.isRunning = false →
      Settles handler reply engine p e userId attributes options tracker answer s .status (.ok none)
  | forced {v : Variation} : answer.bind e.rule.variationById? = some v →
      Settles handler reply engine p e userId attributes options tracker answer s .client
        (.ok (some ⟨v, none⟩))
  | listed {v : Variation} : (e.whitelist.lookup userId).bind e.rule.variationByKey? = some v →
      Settles handler reply engine p e userId attributes options tracker answer s .whitelist
        (.ok (some ⟨v, none⟩))
  /-- What a bandit has chosen is not saved. -/
  | saved {profile : Profile} {v : Variation} : e.bandit = none →
      profileInView? handler s tracker = some profile → profile[e.id]?.bind e.rule.variationById? = some v →
      Settles handler reply engine p e userId attributes options tracker answer s .profile
        (.ok (some ⟨v, none⟩))
  | uncovered : ¬ e.rule.Covers p attributes →
      Settles handler reply engine p e userId attributes options tracker answer s .audience (.ok none)
  | elsewhere : ¬ e.GroupAdmits engine.sharder p (attributes.bucketingId userId) →
      Settles handler reply engine p e userId attributes options tracker answer s .group (.ok none)
  /-- Without a bandit, the ranges of the experiment choose. -/
  | allocated {v : Option Variation} : e.bandit = none →
      (∀ w, v = some w ↔ e.rule.Allocates engine.sharder (attributes.bucketingId userId) w) →
      Settles handler reply engine p e userId attributes options tracker answer s .choice
        (.ok (v.map fun w => ⟨w, none⟩))
  | outside {b : Experiment.Bandit} : e.bandit = some b →
      ¬ e.TrafficAdmits engine b (attributes.bucketingId userId) →
      Settles handler reply engine p e userId attributes options tracker answer s .choice (.ok none)
  /-- The bandit chooses, or fails. -/
  | bandit {b : Experiment.Bandit} {said : Except Bandit.Failure Bandit.Choice} {s' : σ} : e.bandit = some b →
      e.TrafficAdmits engine b (attributes.bucketingId userId) →
      engine.Inquires handler reply p userId attributes e.id options s said s' →
      Settles handler reply engine p e userId attributes options tracker answer s .choice (e.ofBandit said)

/-! ## The layers in turn -/

section

variable {answer : Option String} {s₁ s₂ : σ} {result : Except Bandit.Failure (Option Served)}
  {settles : Layer → Except Bandit.Failure (Option Served) → Prop} {layer : Layer}

/-- The turn of a layer whose answer is a variation, if it finds one. -/
theorem turn_of_found {x : Deliberation (Option Variation)} {found : Option Variation}
    (hask : layer.ask engine p e userId attributes options
      = do return (← x).map fun v => some (Served.mk v none))
    (hends : x.Ends handler reply tracker s (.ok found) tracker' s')
    (hsome : ∀ v, found = some v → settles layer (.ok (some ⟨v, none⟩)))
    (hnone : found = none → ∀ r, ¬ settles layer r) :
    Turn handler reply settles (Layer.ask engine p e userId attributes options) layer tracker s tracker'
      s' := by
  cases found with
  | some v =>
    have hanswer : (layer.ask engine p e userId attributes options).Ends handler reply tracker s
        (.ok (some (some ⟨v, none⟩))) tracker' s' := by
      rw [hask]
      exact hends.bind (ends_pure.mpr ⟨rfl, rfl, rfl⟩)
    exact .answers (hsome v rfl) hanswer
  | none =>
    refine .passes (hnone rfl) ?_
    rw [hask]
    exact hends.bind (ends_pure.mpr ⟨rfl, rfl, rfl⟩)

/-- The turn of a layer that lets the user pass, or answers that there is nothing. -/
theorem turn_of_guard {x : Reasoned Bool} {r : Reason}
    (hask : layer.ask engine p e userId attributes options
      = do if ← ofReasoned x then return none else (do note r; return some none))
    (htrue : x.value = true → ∀ r, ¬ settles layer r) (hfalse : x.value = false → settles layer (.ok none)) :
    Turn handler reply settles (Layer.ask engine p e userId attributes options) layer tracker s tracker s := by
  cases hx : x.value with
  | true =>
    refine .passes (htrue hx) ?_
    rw [hask]
    refine ends_ofReasoned_bind.mpr ?_
    rw [hx]
    exact ends_pure.mpr ⟨rfl, rfl, rfl⟩
  | false =>
    have hanswer : (layer.ask engine p e userId attributes options).Ends handler reply tracker s
        (.ok (some none)) tracker s := by
      rw [hask]
      refine ends_ofReasoned_bind.mpr ?_
      rw [hx]
      exact (ends_note r).bind (ends_pure.mpr ⟨rfl, rfl, rfl⟩)
    exact .answers (hfalse hx) hanswer

theorem turn_status :
    Turn handler reply (Layer.Settles handler reply engine p e userId attributes options tracker answer s₁)
      (Layer.ask engine p e userId attributes options) .status tracker s tracker s := by
  refine turn_of_guard (x := return e.rule.isRunning) (r := .experimentNotRunning e.key) ?_
    (fun hrunning _ h => ?_) .notRunning
  · exact (pure_bind e.rule.isRunning fun _ => _).symm
  · cases h with
    | notRunning h => cases h.symm.trans hrunning

theorem turn_client (h : handler (.forcedVariation userId e.id) s = (answer, s₁)) :
    Turn handler reply (Layer.Settles handler reply engine p e userId attributes options tracker answer s₁)
      (Layer.ask engine p e userId attributes options) .client tracker s tracker s₁ := by
  have hends : (e.clientVariation? userId).Ends handler reply tracker s
      (.ok (answer.bind e.rule.variationById?)) tracker s₁ := by
    have hquery : (Plan.query (.forcedVariation userId e.id)).run handler reply s = (answer, s₁) := h
    refine (ends_ofPlan_of_run hquery).bind ?_
    rw [← value_forcedVariation? e userId]
    exact ends_ofReasoned.mpr ⟨rfl, rfl, rfl⟩
  refine turn_of_found rfl hends (fun _ => .forced) fun hnone r h => ?_
  cases h with
  | forced hsome => cases hnone.symm.trans hsome

theorem turn_whitelist :
    Turn handler reply (Layer.Settles handler reply engine p e userId attributes options tracker answer s₁)
      (Layer.ask engine p e userId attributes options) .whitelist tracker s tracker s := by
  have hends : (ofReasoned (e.whitelisted? userId)).Ends handler reply tracker s
      (.ok ((e.whitelist.lookup userId).bind e.rule.variationByKey?)) tracker s := by
    rw [← value_whitelisted?]
    exact ends_ofReasoned.mpr ⟨rfl, rfl, rfl⟩
  refine turn_of_found rfl hends (fun _ => .listed) fun hnone r h => ?_
  cases h with
  | listed hsome => cases hnone.symm.trans hsome

theorem turn_audience :
    Turn handler reply (Layer.Settles handler reply engine p e userId attributes options tracker answer s₁)
      (Layer.ask engine p e userId attributes options) .audience tracker' s₂ tracker' s₂ := by
  refine turn_of_guard rfl (fun htrue r h => ?_) fun hfalse => .uncovered fun hcovers => ?_
  · cases h with
    | uncovered h => exact h (Rule.admits_eq_true.mp htrue)
  · cases hfalse.symm.trans (Rule.admits_eq_true.mpr hcovers)

theorem turn_group :
    Turn handler reply (Layer.Settles handler reply engine p e userId attributes options tracker answer s₁)
      (Layer.ask engine p e userId attributes options) .group tracker' s₂ tracker' s₂ := by
  refine turn_of_guard rfl (fun htrue r h => ?_) fun hfalse => .elsewhere fun hadmits => ?_
  · cases h with
    | elsewhere h => exact h (passesGroup_eq_true.mp htrue)
  · cases hfalse.symm.trans (passesGroup_eq_true.mpr hadmits)

/-- The variation that the profile in view has for the user. -/
def savedVariation? (handler : Plan.Handler σ) (s : σ) (e : Experiment) (tracker : Option Tracker) :
    Option Variation :=
  (profileInView? handler s tracker).bind fun profile => profile[e.id]?.bind e.rule.variationById?

theorem exists_ends_saved? (handler : Plan.Handler σ) (reply : Bandit.Call → σ → Bandit.Reply × σ)
    (userId : String) (tracker : Option Tracker) (s : σ) (hb : e.bandit = none) :
    ∃ tracker' s', (e.saved? userId).Ends handler reply tracker s (.ok (e.savedVariation? handler s tracker))
      tracker' s' := by
  obtain ⟨tracker', s', hsaved⟩ : ∃ tracker' s', (Deliberation.saved? e.id).Ends handler reply tracker s
      (.ok ((profileInView? handler s tracker).bind fun profile => profile[e.id]?)) tracker' s' := by
    cases tracker with
    | none => exact ⟨none, s, [], rfl⟩
    | some t =>
      obtain ⟨owner, loaded, pending⟩ := t
      cases loaded <;> exact ⟨_, _, [], rfl⟩
  refine ⟨tracker', s', ?_⟩
  unfold Experiment.saved? savedVariation?
  rw [hb, Option.isSome_none, if_neg Bool.false_ne_true, ← Option.bind_assoc]
  refine hsaved.bind ?_
  cases ((profileInView? handler s tracker).bind fun profile => profile[e.id]?).bind e.rule.variationById? with
  | some v => exact (ends_note _).bind (ends_pure.mpr ⟨rfl, rfl, rfl⟩)
  | none => exact ends_pure.mpr ⟨rfl, rfl, rfl⟩

/-- With a bandit, the profile is not looked at. -/
theorem exists_turn_profile (handler : Plan.Handler σ) (reply : Bandit.Call → σ → Bandit.Reply × σ)
    (engine : Engine) (p : Project) (e : Experiment) (userId : String) (attributes : Attributes)
    (options : Options) (tracker : Option Tracker) (answer : Option String) (s : σ) :
    ∃ tracker' s',
      Turn handler reply (Layer.Settles handler reply engine p e userId attributes options tracker answer s)
        (Layer.ask engine p e userId attributes options) .profile tracker s tracker' s' ∧
      ∀ b, e.bandit = some b → s' = s := by
  cases hb : e.bandit with
  | some b =>
    have hends : (e.saved? userId).Ends handler reply tracker s (.ok none) tracker s := by
      unfold Experiment.saved?
      rw [hb, Option.isSome_some, if_pos rfl]
      exact ends_pure.mpr ⟨rfl, rfl, rfl⟩
    refine ⟨tracker, s, turn_of_found rfl hends nofun fun _ r h => ?_, fun _ _ => rfl⟩
    cases h with
    | saved hnone => cases hb.symm.trans hnone
  | none =>
    obtain ⟨tracker', s', hends⟩ := exists_ends_saved? handler reply userId tracker s hb
    refine ⟨tracker', s', turn_of_found rfl hends (fun v hv => ?_) fun hnone r h => ?_, nofun⟩
    · obtain ⟨profile, hprofile, hv⟩ := Option.bind_eq_some_iff.mp hv
      exact .saved hb hprofile hv
    · cases h with
      | saved _ hprofile hv => cases hnone.symm.trans (Option.bind_eq_some_iff.mpr ⟨_, hprofile, hv⟩)

/-- Once something has been chosen, it is served. -/
theorem exists_ends_ask_choice {result : Except Bandit.Failure (Option Served)}
    (h : (e.choice? engine p userId attributes options).Ends handler reply tracker s result tracker' s') :
    ∃ tracker₁ s₁, (Layer.choice.ask engine p e userId attributes options).Ends handler reply tracker s
      (result.map some) tracker₁ s₁ := by
  cases result with
  | error f => exact ⟨tracker', s', h.bind_error⟩
  | ok served =>
    have hsettle : ∃ tracker₁ s₁,
        (e.settleOn userId served).Ends handler reply tracker' s' (.ok served) tracker₁ s₁ := by
      cases served with
      | none => exact ⟨tracker', s', (ends_note _).bind (ends_pure.mpr ⟨rfl, rfl, rfl⟩)⟩
      | some served =>
        cases hb : e.bandit with
        | some b =>
          refine ⟨tracker', s', (ends_note _).bind ?_⟩
          rw [hb]
          exact ends_pure.mpr ⟨rfl, rfl, rfl⟩
        | none =>
          obtain ⟨tracker₁, s₁, hrecord⟩ :=
            exists_ends_record handler reply e.id served.variation.id tracker' s'
          refine ⟨tracker₁, s₁, (ends_note _).bind ?_⟩
          rw [hb]
          exact hrecord.bind (ends_pure.mpr ⟨rfl, rfl, rfl⟩)
    obtain ⟨tracker₁, s₁, hsettle⟩ := hsettle
    exact ⟨tracker₁, s₁, h.bind (hsettle.bind (ends_pure.mpr ⟨rfl, rfl, rfl⟩))⟩

/-- The last layer always applies. -/
theorem exists_settles_choice (handler : Plan.Handler σ) (reply : Bandit.Call → σ → Bandit.Reply × σ)
    (engine : Engine) (p : Project) (e : Experiment) (userId : String) (attributes : Attributes)
    (options : Options) (tracker : Option Tracker) (answer : Option String) (s : σ) :
    ∃ result,
      Layer.Settles handler reply engine p e userId attributes options tracker answer s .choice result := by
  cases hb : e.bandit with
  | none => exact ⟨_, .allocated hb fun _ => Rule.bucket?_eq_some⟩
  | some b =>
    by_cases htraffic : e.TrafficAdmits engine b (attributes.bucketingId userId)
    · obtain ⟨said, s', hsaid⟩ := engine.exists_inquires handler reply p userId attributes e.id options s
      exact ⟨_, .bandit hb htraffic hsaid⟩
    · exact ⟨_, .outside hb htraffic⟩

theorem Layer.Settles.ends_choice? (tracker₁ : Option Tracker)
    (h : Layer.Settles handler reply engine p e userId attributes options tracker answer s .choice result)
    (hs : ∀ b, e.bandit = some b → s₂ = s)
    (hgroup : e.GroupAdmits engine.sharder p (attributes.bucketingId userId)) :
    ∃ s', (e.choice? engine p userId attributes options).Ends handler reply tracker₁ s₂ result tracker₁ s' := by
  unfold choice?
  cases h with
  | allocated hb hv =>
    rw [hb]
    have hbucket : (e.rule.bucket? engine.sharder (attributes.bucketingId userId)).value = _ :=
      Option.ext fun w => Rule.bucket?_eq_some.trans (hv w).symm
    rw [← hbucket]
    exact ⟨s₂, (ends_ofReasoned_bind (r := e.rule.bucket? engine.sharder _)).mpr
      (ends_pure.mpr ⟨rfl, rfl, rfl⟩)⟩
  | outside hb htraffic =>
    rw [hb]
    dsimp only [banditChoice?]
    rw [if_neg (mt isInBanditTraffic_eq_true.mp htraffic)]
    exact ⟨s₂, (ends_note _).bind (ends_pure.mpr ⟨rfl, rfl, rfl⟩)⟩
  | bandit hb htraffic hsaid =>
    obtain rfl := hs _ hb
    have hchosen := ends_chosen?_of_admits tracker₁ hgroup htraffic hsaid
    rw [chosen?_eq, ends_ofReasoned_bind, passesGroup_eq_true.mpr hgroup] at hchosen
    rw [hb]
    exact ⟨_, hchosen⟩

variable (reply engine p attributes options tracker) in
/-- There is always a first layer that applies. -/
theorem exists_answersFirst (h : handler (.forcedVariation userId e.id) s = (answer, s₁)) :
    ∃ before layer after result tracker' s',
      AnswersFirst handler reply
        (Layer.Settles handler reply engine p e userId attributes options tracker answer s₁)
        (Layer.ask engine p e userId attributes options) tracker s Layer.order before layer after result
        tracker' s' := by
  obtain ⟨tracker₁, s₂, hprofile, hbandit⟩ :=
    exists_turn_profile handler reply engine p e userId attributes options tracker answer s₁
  refine turn_status.exists_answersFirst fun _ => ?_
  refine (turn_client h).exists_answersFirst fun _ => ?_
  refine turn_whitelist.exists_answersFirst fun _ => ?_
  refine hprofile.exists_answersFirst fun _ => ?_
  refine turn_audience.exists_answersFirst fun _ => ?_
  refine turn_group.exists_answersFirst fun hgroup => ?_
  have hadmits : e.GroupAdmits engine.sharder p (attributes.bucketingId userId) :=
    Classical.not_not.mp fun hnot => hgroup _ (.elsewhere hnot)
  obtain ⟨result, hsettles⟩ :=
    exists_settles_choice handler reply engine p e userId attributes options tracker answer s₁
  obtain ⟨s₃, hchoice⟩ := hsettles.ends_choice? tracker₁ hbandit hadmits
  obtain ⟨tracker', s', hanswer⟩ := exists_ends_ask_choice hchoice
  exact ⟨[], .choice, [], result, tracker', s', rfl, nofun, hsettles, _, _, .nil, hanswer⟩

end

/-! ## Asking the bandit -/

/-- In a run of the decision the services are asked about the bandit, or its decision is fetched. -/
def AsksBandit (handler : Plan.Handler σ) (reply : Bandit.Call → σ → Bandit.Reply × σ) (engine : Engine)
    (p : Project) (e : Experiment) (userId : String) (attributes : Attributes) (options : Options)
    (tracker : Option Tracker) (s : σ) : Prop :=
  ∃ y ∈ (e.serve? engine p userId attributes options tracker).transcript handler reply s,
    y.concernsBandit = true

section

variable {answer : Option String} {s₁ : σ} {layer : Layer} {before after : List Layer}
  {result : Except Bandit.Failure (Option Served)}

theorem isOrdinary_ask_of_ne_choice (h : layer ≠ .choice) :
    (layer.ask engine p e userId attributes options).IsOrdinary := by
  have hc := composed_isOrdinary
  cases layer with
  | status =>
    dsimp only [Layer.ask]
    split
    · exact hc.pure _
    · exact hc.bind (hc.note _) fun _ => hc.pure _
  | client => exact hc.bind (hc.bind (hc.forced userId e.id) fun _ => hc.ofReasoned _) fun _ => hc.pure _
  | whitelist => exact hc.bind (hc.ofReasoned _) fun _ => hc.pure _
  | profile => exact hc.bind (hc.saved? (Deliberation.isOrdinary_saved? e.id)) fun _ => hc.pure _
  | audience | group =>
    refine hc.bind (hc.ofReasoned _) fun passed => ?_
    split
    · exact hc.pure _
    · exact hc.bind (hc.note _) fun _ => hc.pure _
  | choice => exact (h rfl).elim

theorem isOrdinary_ask_choice (h : ∀ b, e.bandit = some b →
      ¬ (e.TrafficAdmits engine b (attributes.bucketingId userId) ∧ engine.hasBandit = true)) :
    (Layer.choice.ask engine p e userId attributes options).IsOrdinary := by
  have hc := composed_isOrdinary
  have hchoice : (e.choice? engine p userId attributes options).IsOrdinary := by
    unfold choice?
    cases hb : e.bandit with
    | none => exact hc.bind (hc.ofReasoned _) fun _ => hc.pure _
    | some b =>
      dsimp only
      unfold banditChoice?
      split
      · next htraffic =>
        split
        · next hhas => exact (h b hb ⟨isInBanditTraffic_eq_true.mp htraffic, hhas⟩).elim
        · exact hc.fail _ _
      · exact hc.bind (hc.note _) fun _ => hc.pure _
  refine hc.bind hchoice fun chosen => hc.bind ?_ fun _ => hc.pure _
  cases chosen with
  | none => exact hc.bind (hc.note _) fun _ => hc.pure _
  | some served =>
    refine hc.bind (hc.note _) fun _ => ?_
    split
    · exact hc.bind (isOrdinary_record _ _) fun _ => hc.pure _
    · exact hc.pure _

/-- A bandit whose traffic lets the user in is asked. -/
theorem exists_concernsBandit_choice? {b : Experiment.Bandit} (hb : e.bandit = some b)
    (htraffic : e.TrafficAdmits engine b (attributes.bucketingId userId)) (hhas : engine.hasBandit = true) :
    ∃ y ∈ (e.choice? engine p userId attributes options tracker).transcript handler reply s,
      y.concernsBandit = true := by
  unfold choice?
  rw [hb]
  dsimp only [banditChoice?]
  rw [if_pos (isInBanditTraffic_eq_true.mpr htraffic), if_pos hhas]
  obtain ⟨y, hy, hbandit⟩ : ∃ y ∈ (Bandit.consult p userId attributes e.id options.cacheOptions).transcript
      handler reply s, y.concernsBandit = true :=
    ⟨_, List.mem_append_right _ (List.mem_singleton_self _), rfl⟩
  refine ⟨y, mem_transcript_bind ?_, hbandit⟩
  change y ∈ (Bandit.consult p userId attributes e.id options.cacheOptions >>= _).transcript handler reply s
  rw [Plan.transcript_bind]
  exact List.mem_append_right _ hy

theorem trafficAdmits_iff {b : Experiment.Bandit} {bucketingId : String} :
    e.TrafficAdmits engine b bucketingId ↔
      engine.sharder.value bucketingId e.id < b.traffic ∧
        (engine.admission = .experimentAndBanditTraffic →
          ∃ id, id ≠ "" ∧ engine.sharder.bucket? bucketingId e.id e.traffic = some id) :=
  and_congr_right fun _ => imp_congr_right fun _ => exists_congr fun _ =>
    ⟨fun h => ⟨Sharder.ne_empty_of_bucket? h, h⟩, And.right⟩

/-- The last layer comes before no other one, since something always settles it. -/
theorem ne_choice_of_mem_before {l : Layer}
    (h : AnswersFirst handler reply
      (Layer.Settles handler reply engine p e userId attributes options tracker answer s₁)
      (Layer.ask engine p e userId attributes options) tracker s Layer.order before layer after result
      tracker' s') (hl : l ∈ before) : l ≠ .choice := by
  rintro rfl
  obtain ⟨r, hr⟩ :=
    exists_settles_choice handler reply engine p e userId attributes options tracker answer s₁
  exact h.unsettled _ hl r hr

/-- The bandit is asked in the last layer only, and only if its traffic lets the user in. -/
theorem asksBandit_iff
    (h : AnswersFirst handler reply
      (Layer.Settles handler reply engine p e userId attributes options tracker answer s₁)
      (Layer.ask engine p e userId attributes options) tracker s Layer.order before layer after result
      tracker' s') :
    e.AsksBandit handler reply engine p userId attributes options tracker s ↔
      layer = .choice ∧ engine.hasBandit = true ∧ ∃ b, e.bandit = some b ∧
        e.TrafficAdmits engine b (attributes.bucketingId userId) := by
  unfold AsksBandit
  rw [serve?_eq]
  constructor
  · rintro ⟨y, hy, hbandit⟩
    refine Classical.byContradiction fun hnot => ?_
    rw [(h.agrees []).transcript] at hy
    have hordinary : ∀ x ∈ before.map (Layer.ask engine p e userId attributes options)
        ++ [layer.ask engine p e userId attributes options], x.IsOrdinary := by
      refine List.forall_mem_append.mpr
        ⟨List.forall_mem_map.mpr fun l hl => ?_, List.forall_mem_singleton.mpr ?_⟩
      · exact isOrdinary_ask_of_ne_choice (ne_choice_of_mem_before h hl)
      · by_cases hchoice : layer = .choice
        · subst hchoice
          exact isOrdinary_ask_choice fun b hb ⟨htraffic, hhas⟩ => hnot ⟨rfl, hhas, b, hb, htraffic⟩
        · exact isOrdinary_ask_of_ne_choice hchoice
    have hfalse := (isOrdinary_inTurn hordinary tracker).concernsBandit_eq_false y hy
    cases hfalse.symm.trans hbandit
  · rintro ⟨rfl, hhas, b, hb, htraffic⟩
    obtain ⟨tracker₁, s₂, hpasses, -⟩ := h.answered
    obtain ⟨y, hy, hbandit⟩ : ∃ y ∈ (e.choice? engine p userId attributes options tracker₁).transcript handler
        reply s₂, y.concernsBandit = true := exists_concernsBandit_choice? hb htraffic hhas
    refine ⟨y, ?_, hbandit⟩
    rw [h.listed, List.map_append, List.map_cons]
    exact hpasses.mem_transcript (mem_transcript_bind (mem_transcript_bind hy))

/-- The other layers do not apply if and only if it is the turn of the last one. -/
theorem before_of_choice
    (h : AnswersFirst handler reply
      (Layer.Settles handler reply engine p e userId attributes options tracker answer s₁)
      (Layer.ask engine p e userId attributes options) tracker s Layer.order before .choice after result
      tracker' s') :
    before = [.status, .client, .whitelist, .profile, .audience, .group] := by
  have hbefore : ∀ l ∈ before, decide (l ≠ .choice) = true :=
    fun l hl => decide_eq_true (ne_choice_of_mem_before h hl)
  have htake : Layer.order.takeWhile (fun l => decide (l ≠ .choice)) = before := by
    rw [h.listed, List.takeWhile_append_of_pos hbefore, List.takeWhile_cons_of_neg (by decide), List.append_nil]
  exact htake.symm

/-- The bandit is asked if and only if the experiment turns to it. -/
theorem asksBandit_iff_turns (h : handler (.forcedVariation userId e.id) s = (answer, s₁)) :
    e.AsksBandit handler reply engine p userId attributes options tracker s ↔
      engine.hasBandit = true ∧ ∃ b, e.TurnsToBandit engine p userId attributes answer b := by
  obtain ⟨before, layer, after, result, tracker', s', hfirst⟩ :=
    exists_answersFirst reply engine p attributes options tracker h
  rw [asksBandit_iff hfirst]
  constructor
  · rintro ⟨rfl, hhas, b, hb, htraffic⟩
    have hunsettled := hfirst.unsettled
    rw [before_of_choice hfirst] at hunsettled
    exact ⟨hhas, b, {
      running := eq_true_of_ne_false fun hrunning => hunsettled .status (by decide) _ (.notRunning hrunning)
      bandit := hb
      unforced := Option.eq_none_iff_forall_ne_some.mpr fun v hv =>
        hunsettled .client (by decide) _ (.forced hv)
      unlisted := Option.eq_none_iff_forall_ne_some.mpr fun v hv =>
        hunsettled .whitelist (by decide) _ (.listed hv)
      covered := Classical.not_not.mp fun hcovers => hunsettled .audience (by decide) _ (.uncovered hcovers)
      grouped := Classical.not_not.mp fun hgroup => hunsettled .group (by decide) _ (.elsewhere hgroup)
      admitted := htraffic }⟩
  · rintro ⟨hhas, b, hturns⟩
    refine ⟨?_, hhas, b, hturns.bandit, hturns.admitted⟩
    cases hfirst.settled with
    | notRunning hrunning => cases hrunning.symm.trans hturns.running
    | forced hv => cases hturns.unforced.symm.trans hv
    | listed hv => cases hturns.unlisted.symm.trans hv
    | saved hb => cases hturns.bandit.symm.trans hb
    | uncovered hcovers => exact (hcovers hturns.covered).elim
    | elsewhere hgroup => exact (hgroup hturns.grouped).elim
    | allocated | outside | bandit => rfl

/-- Whoever is let in by the traffic of both is let in by the traffic of the bandit. -/
theorem AsksBandit.of_banditTraffic
    (h : e.AsksBandit handler reply engine p userId attributes options tracker s) :
    e.AsksBandit handler reply { engine with admission := .banditTraffic } p userId attributes options tracker
      s := by
  obtain ⟨answer, s₁, hanswer⟩ : ∃ (answer : Option String) (s₁ : σ),
      handler (.forcedVariation userId e.id) s = (answer, s₁) := ⟨_, _, rfl⟩
  obtain ⟨hhas, b, hturns⟩ := (asksBandit_iff_turns hanswer).mp h
  exact (asksBandit_iff_turns hanswer).mpr ⟨hhas, b, { hturns with admitted := ⟨hturns.admitted.1, nofun⟩ }⟩

end

end Experiment

/-- An experiment serves what the first layer that applies answers, and no later layer is asked: whatever stands
in their place, the outcome with its reasons and what passes between the decision and the services are the same.
The services are asked about a bandit in the last layer only, and only if the bucket value is in the traffic of
the bandit and, if the engine asks for that, the ranges of the experiment allocate it as well. So the engine
that asks for both never asks about a bandit where the other one would not. -/
theorem Experiment.serves_by_precedence {σ : Type} (handler : Plan.Handler σ)
    (reply : Bandit.Call → σ → Bandit.Reply × σ) (engine : Engine) (p : Project) (e : Experiment)
    (userId : String) (attributes : Attributes) (options : Options) (tracker : Option Tracker) (s : σ) :
    ∃ (answer : Option String) (s₁ : σ), handler (.forcedVariation userId e.id) s = (answer, s₁) ∧
    ∃ before layer after result tracker' s',
      Layer.order = before ++ layer :: after ∧
      (∀ l ∈ before, ∀ r,
        ¬ l.Settles handler reply engine p e userId attributes options tracker answer s₁ r) ∧
      layer.Settles handler reply engine p e userId attributes options tracker answer s₁ result ∧
      (e.serve? engine p userId attributes options).Ends handler reply tracker s result tracker' s' ∧
      (∀ later, Agrees handler reply (e.serve? engine p userId attributes options)
        (inTurn (before.map (Layer.ask engine p e userId attributes options)
          ++ layer.ask engine p e userId attributes options :: later)) tracker s) ∧
      (e.AsksBandit handler reply engine p userId attributes options tracker s ↔
        layer = .choice ∧ engine.hasBandit = true ∧ ∃ b, e.bandit = some b ∧
          engine.sharder.value (attributes.bucketingId userId) e.id < b.traffic ∧
          (engine.admission = .experimentAndBanditTraffic → ∃ id, id ≠ "" ∧
            engine.sharder.bucket? (attributes.bucketingId userId) e.id e.traffic = some id)) ∧
      (e.AsksBandit handler reply engine p userId attributes options tracker s →
        e.AsksBandit handler reply { engine with admission := .banditTraffic } p userId attributes options
          tracker s) := by
  obtain ⟨answer, s₁, hanswer⟩ : ∃ (answer : Option String) (s₁ : σ),
      handler (.forcedVariation userId e.id) s = (answer, s₁) := ⟨_, _, rfl⟩
  obtain ⟨before, layer, after, result, tracker', s', hfirst⟩ :=
    exists_answersFirst reply engine p attributes options tracker hanswer
  refine ⟨answer, s₁, hanswer, before, layer, after, result, tracker', s', hfirst.listed, hfirst.unsettled,
    hfirst.settled, ?_, fun later => ?_, ?_, .of_banditTraffic⟩
  · rw [serve?_eq]
    exact hfirst.ends
  · rw [serve?_eq]
    exact hfirst.agrees later
  · simp only [asksBandit_iff hfirst, trafficAdmits_iff]

end FlagEngine
