import FlagEngine.Proofs.Bandit.Failures

/-!
# Bandits in events

The event of a decision on a flag identifies the bandit that has chosen the variation, if one has, by the uuid
of its choice. The event of asking for the variation of an experiment never does:
`Engine.flag_events_identify_bandits`.
-/

namespace FlagEngine

open Deliberation

section

variable {σ : Type} {handler : Plan.Handler σ} {reply : Bandit.Call → σ → Bandit.Reply × σ}
  {engine : Engine} {p : Project} {flag : Flag} {user : User} {options : Options} {x : Verdict}
  {d : Decision} {event : Event} {tracker tracker' : Option Tracker} {s s' : σ}

/-- In a run the flag is decided by the bandit of an experiment, which has chosen a variation of it: the search
has turned to the bandit and has heard a choice with the uuid. -/
def Flag.ChosenByBandit (handler : Plan.Handler σ) (reply : Bandit.Call → σ → Bandit.Reply × σ)
    (engine : Engine) (p : Project) (flag : Flag) (user : User) (options : Options)
    (tracker : Option Tracker) (s : σ) (uuid : String) (e : Experiment) (v : Variation) : Prop :=
  ¬ flag.IsDecidedEarly engine.sharder p user ∧ ∃ before later variationId tracker' s',
    flag.Hears handler reply engine p user options flag.experimentIds tracker s before e later
      (.ok ⟨variationId, uuid⟩) tracker' s' ∧
    e.rule.variationById? variationId = some v

/-- The event has the uuid of a bandit's choice if and only if its variation is this choice. -/
def Verdict.Identified (handler : Plan.Handler σ) (reply : Bandit.Call → σ → Bandit.Reply × σ)
    (engine : Engine) (p : Project) (user : User) (options : Options) (flag : Flag)
    (tracker : Option Tracker) (s : σ) (_ : Verdict) (_ : Decision) (event : Event) : Prop :=
  ∀ uuid, event.banditUuid = some uuid ↔ ∃ e v,
    flag.ChosenByBandit handler reply engine p user options tracker s uuid e v ∧
    event.ruleKey = some e.key ∧ event.variationKey = some v.key

theorem Verdict.Rendered.identified (hp : ∀ id e, p.experiment? id = some e → e.id = id)
    (hends : (flag.deliberate engine p user options).Ends handler reply tracker s (.ok x) tracker' s')
    (h : x.Rendered p user options flag tracker s d event) :
    x.Identified handler reply engine p user options flag tracker s d event := by
  obtain ⟨reasons, hdecision⟩ := h
  cases hdecision
  intro uuid
  constructor
  · intro huuid
    obtain ⟨hlate, before, e, later, variationId, v, hhears, hv, rfl⟩ :=
      (Flag.ends_deliberate_ok hp).mp ⟨hends, huuid⟩
    exact ⟨e, v, ⟨hlate, before, later, variationId, _, _, hhears, hv⟩, rfl, rfl⟩
  · rintro ⟨e, v, ⟨hlate, before, later, variationId, tracker₁, s₁, hhears, hv⟩, -, -⟩
    obtain ⟨hx, -⟩ := hends.unique (hhears.ends_deliberate_of_ok hlate hv)
    cases hx
    rfl

/-! ## Asking for the variation of an experiment -/

theorem Engine.banditUuid_variationOf (experimentKey userId : String) (attributes : Attributes) (s : σ) :
    ∀ event ∈ ((engine.variationOf experimentKey userId attributes).run handler reply s).1.2,
      event.banditUuid = none := by
  have hfollows : (engine.variationOf experimentKey userId attributes).Follows unrestricted
      fun a => ∀ event ∈ a.2, event.banditUuid = none := by
    refine (Plan.follows_unrestricted _).bind fun project _ => ?_
    cases project with
    | none => exact List.forall_mem_nil _
    | some p =>
      dsimp only
      split
      · exact List.forall_mem_nil _
      · refine (Plan.follows_unrestricted _).bind fun o _ => ?_
        split
        · exact List.forall_mem_nil _
        · intro event hevent
          obtain rfl := List.mem_singleton.mp hevent
          rfl
  exact hfollows.run (fun _ _ => trivial) reply s

/-- **The event of a decision on a flag identifies the bandit that has chosen its variation.** A call that
decides flags reports on each of them with an event that has a uuid if and only if a bandit, asked for or
remembered, has chosen the variation that the event tells of. The uuid is then the one that came with this
choice. Events of other calls have none. -/
theorem Engine.flag_events_identify_bandits (handler : Plan.Handler σ)
    (reply : Bandit.Call → σ → Bandit.Reply × σ) (engine : Engine) (errand : Errand)
    (project : Option Datafile) (s s₁ : σ) (hproject : handler .project s = (project.map .ofDatafile, s₁)) :
    let r := (engine.carryOut errand).run handler reply s
    errand.Reports handler reply engine (Verdict.Identified handler reply engine) s r.1.1 r.1.2 r.2 ∧
      ∀ experimentKey userId attributes, errand = .variationOf experimentKey userId attributes →
        ∀ event ∈ r.1.2, event.banditUuid = none := by
  intro r
  constructor
  · refine (Errand.reports_carryOut hproject errand).mono fun p hp user options flag tracker s x tracker' s' d
      event hends hrendered => hrendered.identified ?_ hends
    rw [hproject] at hp
    obtain ⟨d, -, rfl⟩ := Option.map_eq_some_iff.mp hp
    exact fun id e he => (Project.of_experiment? he).2
  · rintro experimentKey userId attributes rfl event hevent
    have hrun : r = _ := Plan.run_bind ..
    rw [hrun] at hevent
    exact banditUuid_variationOf experimentKey userId attributes s event hevent

end

/-! ### A bandit that chooses -/

namespace Bandit.Sample

/-- The bandit always chooses the same variation. -/
def choose (_ : Bandit.Call) (s : Services) : Bandit.Reply × Services :=
  (.ok "v", s)

/-- The first identifier that is given. -/
def uuid : String :=
  Services.uuidText 1

def errand : Errand :=
  .decide user "f" .empty

def decided : (Errand.Result × List Event) × Services :=
  (engine.carryOut errand).run Services.answer choose services

def asked : (Except FlagEngine.Failure (Option String) × List Event) × Services :=
  (engine.variationOf "x" user.id user.attributes).run Services.answer choose services

end Bandit.Sample

namespace Engine

open Bandit

/-- The event of the decision has the uuid. -/
theorem flag_events_identify_bandits_of_choice :
    Services.answer .project Sample.services = ((some Sample.datafile).map .ofDatafile, Sample.services) ∧
      Sample.errand.Reports Services.answer Sample.choose Sample.engine
        (Verdict.Identified Services.answer Sample.choose Sample.engine) Sample.services Sample.decided.1.1
        Sample.decided.1.2 Sample.decided.2 ∧
      Sample.decided.1.2.map (·.banditUuid) = [some Sample.uuid] := by
  have hproject : Services.answer .project Sample.services
      = ((some Sample.datafile).map .ofDatafile, Sample.services) := rfl
  have hreports := (flag_events_identify_bandits Services.answer Sample.choose Sample.engine Sample.errand
    (some Sample.datafile) Sample.services Sample.services hproject).1
  refine ⟨hproject, ?_, by decide +kernel⟩
  unfold Sample.decided
  exact hreports

/-- If the same user asks for the variation of the experiment, the bandit chooses alike, and the event that
tells of the variation has no uuid. -/
theorem variation_event_lacks_uuid :
    (∃ s', Sample.engine.Inquires Services.answer Sample.choose Sample.project Sample.user.id
      Sample.user.attributes "x" .empty Sample.services (.ok ⟨"v", Sample.uuid⟩) s') ∧
    (Sample.experiment.rule.variationById? "v").map (·.key) = some "on" ∧
    Sample.asked.1.2.map (fun event => (event.variationKey, event.banditUuid)) = [(some "on", none)] :=
  ⟨⟨_, .consulted rfl (.fetched rfl rfl rfl rfl)⟩, rfl, by decide +kernel⟩

end Engine

end FlagEngine
