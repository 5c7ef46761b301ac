import FlagEngine.Proofs.Batch
import FlagEngine.Proofs.Calls
import FlagEngine.Proofs.EarlyStages

/-!
# Reports

What a client tells of its decisions. An `Account` goes through the keys that a call is made with and says
of each what is decided and which event is sent. Every call reports as its account does, however many calls
there are and whatever happens between them: `Engine.events_mirror_decisions`.
-/

namespace FlagEngine

open Deliberation

/-! ## Decisions and events -/

/-- The decision tells of the verdict on the flag. -/
structure Decision.Tells (flag : Flag) (user : User) (x : Verdict) (d : Decision) : Prop where
  variationKey : d.variationKey = x.variation?.map (·.key)
  ruleKey : d.ruleKey = x.rule?.map (·.key)
  enabled : d.enabled = true ↔ ∃ v, x.variation? = some v ∧ v.featureEnabled = some true
  flagKey : d.flagKey = flag.key
  userId : d.userId = user.id
  attributes : d.attributes = user.attributes

/-- The event makes known what the decision says. It counts as an impression unless that is not wanted, if
every decision is to be sent, or if a variation is served by another stage than the rollout. -/
structure Event.Mirrors (p : Project) (options : Options) (x : Verdict) (d : Decision) (event : Event) :
    Prop where
  kind : event.kind = .flag
  userId : event.userId = d.userId
  attributes : event.attributes = d.attributes
  flagKey : event.flagKey = d.flagKey
  ruleKey : event.ruleKey = d.ruleKey
  variationKey : event.variationKey = d.variationKey
  enabled : event.enabled = d.enabled
  values : event.values = d.values
  reasons : event.reasons = d.reasons
  source : event.source = x.source
  banditUuid : event.banditUuid = x.banditUuid?
  isImpression : event.isImpression = true ↔ options.contains .disableDecisionEvent = false ∧
    (p.sendFlagDecisions = true ∨ x.source ≠ .rollout ∧ ∃ v, x.variation? = some v)

section

variable {p : Project} {flag : Flag} {user : User} {options : Options} {x : Verdict}
  {reasons : List Reason}

theorem Verdict.isEnabled_eq_true :
    x.isEnabled = true ↔ ∃ v, x.variation? = some v ∧ v.featureEnabled = some true := by
  unfold isEnabled
  rw [Option.any_eq_true]
  refine exists_congr fun v => and_congr_right fun _ => ?_
  exact beq_iff_eq

theorem Verdict.isImpression_eq_true :
    x.isImpression p options = true ↔ options.contains .disableDecisionEvent = false ∧
      (p.sendFlagDecisions = true ∨ x.source ≠ .rollout ∧ ∃ v, x.variation? = some v) := by
  unfold isImpression
  rw [Bool.and_eq_true, Bool.not_eq_true', Bool.or_eq_true, Bool.and_eq_true, bne_iff_ne,
    Option.isSome_iff_exists]

theorem Verdict.tells_decision : (x.decision p flag user options reasons).1.Tells flag user x :=
  ⟨rfl, rfl, isEnabled_eq_true, rfl, rfl, rfl⟩

theorem Verdict.mirrors_decision :
    (x.decision p flag user options reasons).2.Mirrors p options x
      (x.decision p flag user options reasons).1 :=
  ⟨rfl, rfl, rfl, rfl, rfl, rfl, rfl, rfl, rfl, rfl, rfl, isImpression_eq_true⟩

theorem Reason.text_mem_report {r : Reason} (hr : r ∈ reasons) (herror : r.isError = true)
    (withInfos : Bool) : r.text ∈ report withInfos reasons := by
  have herrors : r.text ∈ Remark.errors (reasons.map remark) := by
    have hremark : r.remark ∈ (reasons.map remark).filter (·.isError) :=
      List.mem_filter.mpr ⟨List.mem_map_of_mem hr, herror⟩
    exact List.mem_map_of_mem (f := Remark.text) hremark
  exact List.mem_append_left _ herrors

variable (p flag user options) in
theorem Outcome.decision_of_error {o : Outcome Verdict} {f : Bandit.Failure} (h : o.result = .error f) :
    ∃ texts, f.message ∈ texts ∧
      o.decision p flag user options = (.ofFailure flag.key user texts, []) := by
  have hmem : Reason.failed f.message ∈ o.reasons ++ [.failed f.message] :=
    List.mem_append_right _ List.mem_cons_self
  refine ⟨_, Reason.text_mem_report hmem rfl (options.contains .includeReasons), ?_⟩
  unfold decision
  rw [h]

theorem Outcome.decision_of_ok {o : Outcome Verdict} (h : o.result = .ok x) :
    o.decision p flag user options
      = ((x.decision p flag user options o.reasons).1, [(x.decision p flag user options o.reasons).2]) := by
  unfold decision
  rw [h]

end

/-! ## The account of a call -/

variable {σ : Type} {handler : Plan.Handler σ} {reply : Bandit.Call → σ → Bandit.Reply × σ}
  {engine : Engine} {p : Project} {flag : Flag} {user : User} {options : Options}
  {R R' : Flag → Option Tracker → σ → Verdict → Decision → Event → Prop}
  {tracker tracker' : Option Tracker} {s s' : σ} {keys : List String} {ds : List (String × Decision)}
  {events : List Event}

/-- How the flags with some keys are decided in a run, one after the other on the same profile: the decisions
with their keys, and the events. There is one event for each key of a flag that is decided, and none for a key
that the project does not know or for a flag with a failing bandit. The relation `R` is one between a flag, the
profile and the services when its turn comes, its verdict, its decision and its event. -/
inductive Account (handler : Plan.Handler σ) (reply : Bandit.Call → σ → Bandit.Reply × σ) (engine : Engine)
    (p : Project) (user : User) (options : Options)
    (R : Flag → Option Tracker → σ → Verdict → Decision → Event → Prop) :
    List String → Option Tracker → σ → List (String × Decision) → List Event → Option Tracker → σ →
      Prop where
  | nil {tracker : Option Tracker} {s : σ} :
      Account handler reply engine p user options R [] tracker s [] [] tracker s
  | unknown {key : String} {keys : List String} {tracker tracker' : Option Tracker} {s s' : σ}
      {ds : List (String × Decision)} {events : List Event} :
      p.flag? key = none →
      Account handler reply engine p user options R keys tracker s ds events tracker' s' →
      Account handler reply engine p user options R (key :: keys) tracker s
        ((key, Engine.refuse key user (.unknownFlag key)) :: ds) events tracker' s'
  | failed {key : String} {keys : List String} {flag : Flag} {f : Bandit.Failure} {texts : List String}
      {tracker tracker₁ tracker' : Option Tracker} {s s₁ s' : σ} {ds : List (String × Decision)}
      {events : List Event} :
      p.flag? key = some flag →
      (flag.deliberate engine p user options).Ends handler reply tracker s (.error f) tracker₁ s₁ →
      f.message ∈ texts →
      Account handler reply engine p user options R keys tracker₁ s₁ ds events tracker' s' →
      Account handler reply engine p user options R (key :: keys) tracker s
        ((key, .ofFailure flag.key user texts) :: ds) events tracker' s'
  | resolved {key : String} {keys : List String} {flag : Flag} {x : Verdict} {d : Decision} {event : Event}
      {tracker tracker₁ tracker' : Option Tracker} {s s₁ s' : σ} {ds : List (String × Decision)}
      {events : List Event} :
      p.flag? key = some flag →
      (flag.deliberate engine p user options).Ends handler reply tracker s (.ok x) tracker₁ s₁ →
      R flag tracker s x d event →
      Account handler reply engine p user options R keys tracker₁ s₁ ds events tracker' s' →
      Account handler reply engine p user options R (key :: keys) tracker s ((key, d) :: ds)
        (event :: events) tracker' s'

theorem Account.mono (h : Account handler reply engine p user options R keys tracker s ds events tracker' s')
    (hR : ∀ flag tracker s x tracker' s' d event,
      (flag.deliberate engine p user options).Ends handler reply tracker s (.ok x) tracker' s' →
      R flag tracker s x d event → R' flag tracker s x d event) :
    Account handler reply engine p user options R' keys tracker s ds events tracker' s' := by
  induction h with
  | nil => exact .nil
  | unknown hk _ ih => exact .unknown hk ih
  | failed hk hends hmem _ ih => exact .failed hk hends hmem ih
  | resolved hk hends hr _ ih => exact .resolved hk hends (hR _ _ _ _ _ _ _ _ hends hr) ih

/-- The decision and the event are those that a client makes of the verdict. -/
def Verdict.Rendered (p : Project) (user : User) (options : Options) (flag : Flag) (_ : Option Tracker)
    (_ : σ) (x : Verdict) (d : Decision) (event : Event) : Prop :=
  ∃ reasons, x.decision p flag user options reasons = (d, event)

variable (handler reply engine p user options) in
/-- The outcomes of the known flags make up an account. -/
theorem exists_account (keys : List String) (tracker : Option Tracker) (s : σ) :
    let r := (each ((keys.filterMap p.flag?).map fun flag => flag.deliberate engine p user options)
      tracker).run handler reply s
    ∃ ds events, Tally p user options keys r.1.1 ds events ∧
      Account handler reply engine p user options (Verdict.Rendered p user options) keys tracker s ds events
        r.1.2 r.2 := by
  induction keys generalizing tracker s with
  | nil => exact ⟨[], [], .nil, .nil⟩
  | cons key keys ih =>
    cases hk : p.flag? key with
    | none =>
      rw [List.filterMap_cons_none hk]
      obtain ⟨ds, events, htally, haccount⟩ := ih tracker s
      exact ⟨_, _, .unknown hk htally, .unknown hk haccount⟩
    | some flag =>
      rw [List.filterMap_cons_some hk, List.map_cons, run_each_cons]
      rcases hrun : (flag.deliberate engine p user options tracker).run handler reply s with ⟨o, s₁⟩
      obtain ⟨ds, events, htally, haccount⟩ := ih o.tracker s₁
      refine ⟨_, _, .known o hk htally, ?_⟩
      cases hresult : o.result with
      | error f =>
        have hends : (flag.deliberate engine p user options).Ends handler reply tracker s (.error f)
            o.tracker s₁ := ⟨o.reasons, by rw [hrun, ← hresult]⟩
        obtain ⟨texts, hmem, hdecision⟩ := Outcome.decision_of_error p flag user options hresult
        rw [hdecision]
        exact .failed hk hends hmem haccount
      | ok x =>
        have hends : (flag.deliberate engine p user options).Ends handler reply tracker s (.ok x)
            o.tracker s₁ := ⟨o.reasons, by rw [hrun, ← hresult]⟩
        rw [Outcome.decision_of_ok hresult]
        exact .resolved hk hends ⟨o.reasons, rfl⟩ haccount

/-! ## Calls -/

/-- How a client reports on a call in a run: what it answers and which events it sends, and the state that it
leaves. Without a project there are no events. Otherwise there is an account of the keys that the call is made
with, and what has changed in the profile is saved in the end. A call on some flags answers for each key with
the last decision in the account, unless only enabled flags are asked for and this one is not. Nothing is said
here of asking for the variation of an experiment. -/
inductive Errand.Reports (handler : Plan.Handler σ) (reply : Bandit.Call → σ → Bandit.Reply × σ)
    (engine : Engine)
    (R : Project → User → Options → Flag → Option Tracker → σ → Verdict → Decision → Event → Prop) (s : σ) :
    Errand → Errand.Result → List Event → σ → Prop where
  | refused {user : User} {key : String} {options : Options} {s' : σ} :
      handler .project s = ((none : Option Project), s') →
      Reports handler reply engine R s (.decide user key options)
        (.decision (Engine.refuse key user .notConfigured)) [] s'
  | nothing {errand : Errand} {s' : σ} :
      (∃ user keys options, errand = .decideEach user keys options) ∨
        (∃ user options, errand = .decideAll user options) →
      handler .project s = ((none : Option Project), s') →
      Reports handler reply engine R s errand (.decisions ∅) [] s'
  | one {user : User} {key : String} {options : Options} {p : Project} {d : Decision} {events : List Event}
      {tracker' : Option Tracker} {s₁ s₂ : σ} :
      handler .project s = (some p, s₁) →
      Account handler reply engine p user (engine.defaults.union options)
        (R p user (engine.defaults.union options)) [key]
        (engine.tracker? user.id (engine.defaults.union options)) s₁ [(key, d)] events tracker' s₂ →
      Reports handler reply engine R s (.decide user key options) (.decision d) events
        ((Tracker.saveIfAny tracker').run handler reply s₂).2
  | several {errand : Errand} {user : User} {keys : List String} {options : Options} {p : Project}
      {result : Index Decision} {ds : List (String × Decision)} {events : List Event}
      {tracker' : Option Tracker} {s₁ s₂ : σ} :
      errand = .decideEach user keys options ∨
        errand = .decideAll user options ∧ keys = p.flags.map (·.key) →
      handler .project s = (some p, s₁) →
      Account handler reply engine p user (engine.defaults.union options)
        (R p user (engine.defaults.union options)) keys
        (engine.tracker? user.id (engine.defaults.union options)) s₁ ds events tracker' s₂ →
      (∀ key : String, result[key]? = (Index.ofLast ds)[key]?.filter fun d =>
        d.enabled || !(engine.defaults.union options).contains .enabledFlagsOnly) →
      Reports handler reply engine R s errand (.decisions result) events
        ((Tracker.saveIfAny tracker').run handler reply s₂).2
  | variation {experimentKey userId : String} {attributes : Attributes} {result : Errand.Result}
      {events : List Event} {s' : σ} :
      Reports handler reply engine R s (.variationOf experimentKey userId attributes) result events s'

namespace Engine

variable {s₁ : σ}

theorem run_decide_of_none (hproject : handler .project s = ((none : Option Project), s₁)) (key : String) :
    (engine.decide user key options).run handler reply s = ((refuse key user .notConfigured, []), s₁) := by
  refine (Plan.run_query_project _ _).trans ?_
  rw [hproject]
  rfl

end Engine

namespace Errand

variable {s₁ : σ} {errand : Errand} {result : Result} {d : Datafile}

theorem reports_decide (hproject : handler .project s = (some p, s₁)) (user : User) (key : String)
    (options : Options) :
    let r := (engine.decide user key options).run handler reply s
    Reports handler reply engine Verdict.Rendered s (.decide user key options) (.decision r.1.1) r.1.2
      r.2 := by
  intro r
  obtain ⟨ds, events, htally, haccount⟩ := exists_account handler reply engine p user
    (engine.defaults.union options) [key] (engine.tracker? user.id (engine.defaults.union options)) s₁
  cases hk : p.flag? key with
  | none =>
    have hr : r = _ := Engine.run_decide_of_unknown hproject hk
    rw [hr]
    rw [List.filterMap_cons_none hk] at haccount htally
    cases htally with
    | unknown _ hnil =>
      cases hnil
      have hone : Reports handler reply engine Verdict.Rendered s (.decide user key options)
          (.decision (Engine.refuse key user (.unknownFlag key))) []
          ((Tracker.saveIfAny (engine.tracker? user.id (engine.defaults.union options))).run handler
            reply s₁).2 := .one hproject haccount
      rw [Tracker.saveIfAny_tracker?] at hone
      exact hone
  | some flag =>
    have hr : r = _ := Engine.run_decide hproject hk
    rw [run_settle] at hr
    rw [hr]
    rw [List.filterMap_cons_some hk, List.filterMap_nil, List.map_singleton, run_each_cons] at haccount htally
    cases htally with
    | unknown hk' => cases hk.symm.trans hk'
    | known o hk' hnil =>
      cases hnil
      cases hk.symm.trans hk'
      rw [List.append_nil] at haccount
      exact .one hproject haccount

theorem reports_decideIn (hproject : handler .project s = (some (.ofDatafile d), s₁)) (user : User)
    (keys : List String) (options : Options)
    (hcall : errand = .decideEach user keys options ∨
      errand = .decideAll user options ∧ keys = (Project.ofDatafile d).flags.map (·.key)) :
    let r := (engine.decideIn (.ofDatafile d) user keys options).run handler reply s₁
    Reports handler reply engine Verdict.Rendered s errand (.decisions r.1.1) r.1.2 r.2 := by
  intro r
  obtain ⟨ds, events, htally, haccount⟩ := exists_account handler reply engine (.ofDatafile d) user
    (engine.defaults.union options) keys (engine.tracker? user.id (engine.defaults.union options)) s₁
  have hr : r = _ := Engine.run_decideIn keys
  rw [hr, ← htally.events_eq]
  refine .several hcall hproject haccount fun key => ?_
  have hlookup := htally.findRev?_eq (fun key flag hk => (Project.of_flag? hk).2) key
  rw [← Index.getElem?_lastBy] at hlookup
  rw [Index.getElem?_ofLast, ← hlookup]
  exact Index.getElem?_restrict ..

/-- The project in force is compiled from a datafile, or there is none. -/
theorem reports_carryOut {project : Option Datafile}
    (hproject : handler .project s = (project.map .ofDatafile, s₁)) (errand : Errand) :
    let r := (engine.carryOut errand).run handler reply s
    Reports handler reply engine Verdict.Rendered s errand r.1.1 r.1.2 r.2 := by
  cases errand with
  | decide user key options =>
    have hrun : (engine.carryOut (.decide user key options)).run handler reply s = _ := Plan.run_bind ..
    rw [hrun]
    cases project with
    | none =>
      rw [Engine.run_decide_of_none hproject]
      exact .refused hproject
    | some d => exact reports_decide hproject user key options
  | decideEach user keys options =>
    have hrun : (engine.carryOut (.decideEach user keys options)).run handler reply s = _ :=
      Plan.run_bind ..
    have heach : (engine.decideEach user keys options).run handler reply s = _ :=
      Plan.run_query_project ..
    rw [hproject] at heach
    rw [hrun, heach]
    cases project with
    | none => exact .nothing (.inl ⟨user, keys, options, rfl⟩) hproject
    | some d => exact reports_decideIn hproject user keys options (.inl rfl)
  | decideAll user options =>
    have hrun : (engine.carryOut (.decideAll user options)).run handler reply s = _ := Plan.run_bind ..
    have hall : (engine.decideAll user options).run handler reply s = _ := Plan.run_query_project ..
    rw [hproject] at hall
    rw [hrun, hall]
    cases project with
    | none => exact .nothing (.inr ⟨user, options, rfl⟩) hproject
    | some d => exact reports_decideIn hproject user _ options (.inr ⟨rfl, rfl⟩)
  | variationOf => exact .variation

theorem Reports.mono {R R' : Project → User → Options → Flag → Option Tracker → σ → Verdict → Decision →
      Event → Prop} {result : Result}
    (h : Reports handler reply engine R s errand result events s')
    (hR : ∀ p, (handler .project s).1 = some p → ∀ user options flag tracker s x tracker' s' d event,
      (flag.deliberate engine p user options).Ends handler reply tracker s (.ok x) tracker' s' →
      R p user options flag tracker s x d event → R' p user options flag tracker s x d event) :
    Reports handler reply engine R' s errand result events s' := by
  cases h with
  | refused hproject => exact .refused hproject
  | nothing hcall hproject => exact .nothing hcall hproject
  | one hproject haccount =>
    exact .one hproject (haccount.mono (hR _ (congrArg Prod.fst hproject) _ _))
  | several hcall hproject haccount hresult =>
    exact .several hcall hproject (haccount.mono (hR _ (congrArg Prod.fst hproject) _ _)) hresult
  | variation => exact .variation

end Errand

/-! ## Sessions -/

/-- The decision tells of the verdict and the event mirrors the decision. -/
def Verdict.Mirrored (p : Project) (user : User) (options : Options) (flag : Flag) (_ : Option Tracker)
    (_ : σ) (x : Verdict) (d : Decision) (event : Event) : Prop :=
  d.Tells flag user x ∧ event.Mirrors p options x d

theorem Verdict.Rendered.mirrored {x : Verdict} {d : Decision} {event : Event}
    (h : Rendered p user options flag tracker s x d event) :
    Mirrored p user options flag tracker s x d event := by
  obtain ⟨reasons, hdecision⟩ := h
  have htells : (x.decision p flag user options reasons).1.Tells flag user x := tells_decision
  have hmirrors : (x.decision p flag user options reasons).2.Mirrors p options x
      (x.decision p flag user options reasons).1 := mirrors_decision
  rw [hdecision] at htells hmirrors
  exact ⟨htells, hmirrors⟩

variable {κ : Type} {responder : Responder κ} {w : World κ}

/-- What happens to a client. -/
inductive Happening (κ : Type) where
  | call (errand : Errand)
  | publish (d : Datafile)
  /-- Something else that leaves the project in force as it is, such as that time passes. -/
  | change (f : World κ → World κ) (keeps : ∀ w, (f w).services.project = w.services.project)

/-- A call that has been carried out. -/
structure Transaction (κ : Type) where
  before : World κ
  errand : Errand
  result : Errand.Result
  events : List Event
  after : World κ

/-- The call has been reported on, with events that mirror the decisions. -/
def Transaction.IsMirrored (responder : Responder κ) (engine : Engine) (t : Transaction κ) : Prop :=
  t.errand.Reports World.answer (World.fetch responder) engine Verdict.Mirrored t.before t.result t.events
    t.after

namespace Engine

/-- The calls that are carried out while things happen one after the other. -/
def attend (responder : Responder κ) (engine : Engine) : List (Happening κ) → World κ → List (Transaction κ)
  | [], _ => []
  | .call errand :: rest, w =>
    let r := (engine.carryOut errand).play responder w
    ⟨w, errand, r.1.1, r.1.2, r.2⟩ :: attend responder engine rest r.2
  | .publish d :: rest, w =>
    attend responder engine rest
      { w with services := { w.services with project := some (.ofDatafile d) } }
  | .change f _ :: rest, w => attend responder engine rest (f w)

theorem isMirrored_call {project : Option Datafile} (hw : w.services.project = project.map .ofDatafile)
    (errand : Errand) :
    let r := (engine.carryOut errand).play responder w
    Transaction.IsMirrored responder engine ⟨w, errand, r.1.1, r.1.2, r.2⟩ := by
  have hproject : World.answer .project w = (project.map .ofDatafile, w) := by
    rw [← hw]
    rfl
  exact (Errand.reports_carryOut hproject errand).mono fun _ _ _ _ _ _ _ _ _ _ _ _ _ h => h.mirrored

/-- **Events mirror decisions.** Let a client be called any number of times, let datafiles be published and
anything else happen in between, and let the bandit say what it likes. Then every call has an account of the
keys that it is made with, in order: the decision on a flag that is decided tells of its verdict, and there is
exactly one event for it, which says the same as the decision, also if the decision is left out of the answer.
There is no event without a project, for a key that the project does not know and for a failing bandit. -/
theorem events_mirror_decisions (responder : Responder κ) (engine : Engine) (happenings : List (Happening κ))
    (w : World κ) (project : Option Datafile) (hw : w.services.project = project.map .ofDatafile) :
    ∀ t ∈ engine.attend responder happenings w, t.IsMirrored responder engine := by
  induction happenings generalizing w project with
  | nil => exact fun t ht => nomatch ht
  | cons happening rest ih =>
    cases happening with
    | call errand =>
      intro t ht
      rcases List.mem_cons.mp ht with rfl | ht
      · exact isMirrored_call hw errand
      · exact ih _ project ((Plan.play_project ..).trans hw) t ht
    | publish d => exact ih _ (some d) rfl
    | change f keeps => exact ih _ project ((keeps w).trans hw)

/-- A client is asked for a flag before and after a datafile is published. -/
theorem events_mirror_decisions_of_publish :
    let d : Datafile := { (default : Datafile) with flags := [⟨"1", "f", "", [], []⟩] }
    let respond : Responder Unit := fun _ k => (.ok "v", 0, k)
    let w : World Unit := ⟨Services.initial default, (), []⟩
    let happenings : List (Happening Unit) := [.call (.decide default "f" .empty), .publish d,
      .call (.decideEach default ["f", "g", "f"] .empty)]
    let ts := attend respond default happenings w
    w.services.project = none ∧ ts.map (·.events.length) = [0, 2] ∧
      ∀ t ∈ ts, t.IsMirrored respond default := by
  intro d respond w happenings ts
  have hw : w.services.project = (none : Option Datafile).map .ofDatafile := rfl
  exact ⟨rfl, by decide +kernel, events_mirror_decisions respond default happenings w none hw⟩

end Engine

end FlagEngine
