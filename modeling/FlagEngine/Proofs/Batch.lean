import FlagEngine.Client
import FlagEngine.Proofs.Projects
import FlagEngine.Proofs.Runs
import FlagEngine.Proofs.Uniformity

/-!
# Deciding together and in turn

To decide some flags in one call comes to the same as to decide each of them in a call of its own, in
order: `Engine.decideEach_eq_decideInTurn`.
-/

namespace FlagEngine

variable {σ : Type} {handler : Plan.Handler σ} {reply : Bandit.Call → σ → Bandit.Reply × σ} {s s₁ : σ}
  {κ : Type} {responder : Responder κ} {w : World κ} {engine : Engine} {p : Project} {user : User}
  {options : Options}

namespace Engine

/-- Decides flags in calls of their own. The decisions go with the keys that they were asked by. -/
def decideInTurn (engine : Engine) (user : User) (options : Options) :
    List String → Plan (List (String × Decision) × List Event)
  | [] => return ([], [])
  | key :: keys => do
    let (d, events) ← engine.decide user key options
    let (ds, rest) ← decideInTurn engine user options keys
    return ((key, d) :: ds, events ++ rest)

/-! ## Single calls -/

theorem run_decide_of_unknown (hproject : handler .project s = (some p, s₁)) {key : String}
    (hk : p.flag? key = none) :
    (engine.decide user key options).run handler reply s
      = ((refuse key user (.unknownFlag key), []), s₁) := by
  refine (Plan.run_query_project _ _).trans ?_
  rw [hproject]
  dsimp only
  rw [hk]
  rfl

theorem run_decide (hproject : handler .project s = (some p, s₁)) {key : String} {flag : Flag}
    (hk : p.flag? key = some flag) :
    let merged := engine.defaults.union options
    let r := ((flag.deliberate engine p user merged).settle (engine.tracker? user.id merged)).run handler
      reply s₁
    (engine.decide user key options).run handler reply s = (r.1.decision p flag user merged, r.2) := by
  intro merged r
  refine (Plan.run_query_project _ _).trans ?_
  rw [hproject]
  dsimp only
  rw [hk]
  exact Plan.run_bind ..

theorem play_decide_of_unknown (hp : w.services.project = some p) {key : String} (hk : p.flag? key = none) :
    (engine.decide user key options).play responder w
      = ((refuse key user (.unknownFlag key), []), w) :=
  run_decide_of_unknown (World.answer_project hp) hk

theorem play_decide (hp : w.services.project = some p) {key : String} {flag : Flag}
    (hk : p.flag? key = some flag) :
    let merged := engine.defaults.union options
    let r := (flag.deliberate engine p user merged (engine.tracker? user.id merged)).play responder w
    (engine.decide user key options).play responder w
      = (r.1.decision p flag user merged,
          r.2.withProfiles (Tracker.flushAny r.1.tracker r.2.services.profiles)) := by
  intro merged r
  have hsave := congrArg Prod.snd (Tracker.play_saveIfAny responder r.1.tracker r.2)
  refine (run_decide (World.answer_project hp) hk).trans ?_
  rw [Deliberation.run_settle]
  exact Prod.ext rfl hsave

theorem play_decideInTurn_cons (key : String) (keys : List String) :
    let a := (engine.decide user key options).play responder w
    let b := (engine.decideInTurn user options keys).play responder a.2
    (engine.decideInTurn user options (key :: keys)).play responder w
      = (((key, a.1.1) :: b.1.1, a.1.2 ++ b.1.2), b.2) := by
  intro a b
  rw [decideInTurn, Plan.play_bind, Plan.play_bind]
  rfl

end Engine

/-! ## Trackers that have read nothing -/

theorem kept_tracker? (engine : Engine) (userId : String) (options : Options) (w : World κ) :
    Kept ((engine.tracker? userId options).map (·.userId)) (engine.tracker? userId options, w) := by
  refine ⟨rfl, fun t ht => ?_⟩
  unfold Engine.tracker? at ht
  split at ht
  · cases ht
    exact Tracker.coherent_ofUser ..
  · cases ht

theorem flushAny_tracker? (engine : Engine) (userId : String) (options : Options) (s : ProfileStore) :
    Tracker.flushAny (engine.tracker? userId options) s = s := by
  unfold Engine.tracker?
  split <;> rfl

/-- One side is saved and goes on with a tracker that has read nothing. -/
theorem Related.save {userId : String} {a : Option Tracker × World κ} {tracker : Option Tracker}
    (h : Related ((engine.tracker? userId options).map (·.userId)) a (tracker, w)) :
    Related ((engine.tracker? userId options).map (·.userId)) a
      (engine.tracker? userId options,
        w.withProfiles (Tracker.flushAny tracker w.services.profiles)) := by
  refine ⟨h.left, kept_tracker? .., h.agrees, ?_⟩
  rw [flushAny_tracker?]
  exact h.same

/-! ## Tallies -/

/-- How outcomes for the known ones of some keys make up the decisions by key, and the events. -/
inductive Tally (p : Project) (user : User) (options : Options) :
    List String → List (Outcome Verdict) → List (String × Decision) → List Event → Prop where
  | nil : Tally p user options [] [] [] []
  | unknown {key keys os ds events} : p.flag? key = none → Tally p user options keys os ds events →
      Tally p user options (key :: keys) os
        ((key, Engine.refuse key user (.unknownFlag key)) :: ds) events
  | known {key keys os ds events flag} (o : Outcome Verdict) : p.flag? key = some flag →
      Tally p user options keys os ds events →
      Tally p user options (key :: keys) (o :: os)
        ((key, (o.decision p flag user options).1) :: ds)
        ((o.decision p flag user options).2 ++ events)

theorem Outcome.decision_congr {o o' : Outcome Verdict} (hr : o.result = o'.result)
    (hs : o.reasons = o'.reasons) (flag : Flag) :
    o.decision p flag user options = o'.decision p flag user options := by
  rw [Outcome.decision, Outcome.decision, hr, hs]

theorem tally_decideInTurn (responder : Responder κ) (keys : List String) {tracker : Option Tracker}
    {w w' : World κ} (h : Related ((engine.tracker? user.id (engine.defaults.union options)).map (·.userId))
      (tracker, w) (engine.tracker? user.id (engine.defaults.union options), w'))
    (hp : w'.services.project = some p) :
    let merged := engine.defaults.union options
    let r := (Deliberation.each ((keys.filterMap p.flag?).map
      fun flag => flag.deliberate engine p user merged) tracker).play responder w
    let r' := (engine.decideInTurn user options keys).play responder w'
    Tally p user merged keys r.1.1 r'.1.1 r'.1.2 ∧
      Related ((engine.tracker? user.id merged).map (·.userId)) (r.1.2, r.2)
        (engine.tracker? user.id merged, r'.2) := by
  intro merged
  induction keys generalizing tracker w w' with
  | nil => exact ⟨.nil, h⟩
  | cons key keys ih =>
    rw [Engine.play_decideInTurn_cons]
    cases hk : p.flag? key with
    | none =>
      rw [List.filterMap_cons_none hk, Engine.play_decide_of_unknown hp hk]
      obtain ⟨htally, hrelated⟩ := ih h hp
      exact ⟨.unknown hk htally, hrelated⟩
    | some flag =>
      rw [List.filterMap_cons_some hk, List.map_cons, Plan.play, Deliberation.run_each_cons,
        Engine.play_decide hp hk]
      obtain ⟨hresult, hreasons, hrelated⟩ :=
        Flag.uniform_deliberate responder engine p flag user merged _ _ h
      have hproject := Plan.play_project responder
        (flag.deliberate engine p user merged (engine.tracker? user.id merged)) w'
      obtain ⟨htally, hrelated'⟩ := ih hrelated.save (hproject.trans hp)
      rw [← Outcome.decision_congr hresult hreasons flag]
      exact ⟨.known _ hk htally, hrelated'⟩

/-! ## The decisions by key -/

private theorem findRev?_cons {α : Type} (P : α → Bool) (a : α) (as : List α) :
    (a :: as).findRev? P = (as.findRev? P).or (if P a then some a else none) := by
  rw [List.findRev?]
  cases as.findRev? P <;> cases P a <;> rfl

private theorem findRev?_append {α : Type} (P : α → Bool) (as bs : List α) :
    (as ++ bs).findRev? P = (bs.findRev? P).or (as.findRev? P) := by
  simp only [List.findRev?_eq_find?_reverse, List.reverse_append, List.find?_append]

theorem Outcome.flagKey_decision (o : Outcome Verdict) (flag : Flag) :
    (o.decision p flag user options).1.flagKey = flag.key := by
  unfold Outcome.decision
  split <;> rfl

/-- The decisions that a call on many flags makes of its outcomes. -/
def outcomeDecisions (p : Project) (user : User) (options : Options) (keys : List String)
    (os : List (Outcome Verdict)) : List (Decision × List Event) :=
  List.zipWith (fun flag o => o.decision p flag user options) (keys.filterMap p.flag?) os

/-- The refusals of the keys that the project does not know. -/
def refusals (p : Project) (user : User) (keys : List String) : List Decision :=
  (keys.filter fun key => (p.flag? key).isNone).map fun key =>
    Engine.refuse key user (.unknownFlag key)

variable {keys : List String} {os : List (Outcome Verdict)} {ds : List (String × Decision)}
  {events : List Event}

theorem Tally.events_eq (h : Tally p user options keys os ds events) :
    events = (outcomeDecisions p user options keys os).flatMap (·.2) := by
  induction h with
  | nil => rfl
  | unknown hk _ ih => rw [ih, outcomeDecisions, outcomeDecisions, List.filterMap_cons_none hk]
  | known o hk _ ih =>
    rw [ih, outcomeDecisions, outcomeDecisions, List.filterMap_cons_some hk, List.zipWith_cons_cons,
      List.flatMap_cons]

/-- Nobody is refused a known flag. -/
private theorem findRev?_refusals {key : String} {flag : Flag} (hk : p.flag? key = some flag) :
    (refusals p user keys).findRev? (·.flagKey == key) = none := by
  rw [List.findRev?_eq_find?_reverse, List.find?_eq_none]
  intro d hd
  obtain ⟨key', hkey', rfl⟩ := List.mem_map.mp (List.mem_reverse.mp hd)
  have hn := (List.mem_filter.mp hkey').2
  intro he
  obtain rfl : key' = key := beq_iff_eq.mp he
  rw [hk] at hn
  cases hn

theorem Tally.findRev?_eq (h : Tally p user options keys os ds events)
    (hp : ∀ key flag, p.flag? key = some flag → flag.key = key) (k : String) :
    (refusals p user keys ++ (outcomeDecisions p user options keys os).map (·.1)).findRev?
        (·.flagKey == k)
      = (ds.findRev? (·.1 == k)).map (·.2) := by
  rw [findRev?_append]
  induction h with
  | nil => rfl
  | @unknown key keys os ds events hk _ ih =>
    have hrefusals : refusals p user (key :: keys)
        = Engine.refuse key user (.unknownFlag key) :: refusals p user keys := by
      rw [refusals, List.filter_cons_of_pos (by rw [hk]; rfl)]
      rfl
    have hkey : (Engine.refuse key user (.unknownFlag key)).flagKey = key := rfl
    rw [outcomeDecisions, List.filterMap_cons_none hk, hrefusals, findRev?_cons, findRev?_cons,
      Option.map_or, ← ih, Option.or_assoc, hkey]
    dsimp only
    congr 2
    cases key == k <;> rfl
  | @known key keys os ds events flag o hk _ ih =>
    have hrefusals : refusals p user (key :: keys) = refusals p user keys := by
      rw [refusals, List.filter_cons_of_neg (by simp [hk])]
      rfl
    have hkey : (o.decision p flag user options).1.flagKey = key :=
      (o.flagKey_decision flag).trans (hp key flag hk)
    rw [outcomeDecisions, List.filterMap_cons_some hk, List.zipWith_cons_cons, List.map_cons, hrefusals,
      findRev?_cons, findRev?_cons, Option.map_or, ← ih, hkey]
    by_cases he : key = k
    · subst he
      rw [findRev?_refusals hk]
      simp [outcomeDecisions]
    · simp [he, outcomeDecisions]

theorem Index.getElem?_restrict (index : Index Decision) (enabledOnly : Bool) (key : String) :
    (if enabledOnly then index.filter fun _ d => d.enabled else index)[key]?
      = index[key]?.filter fun d => d.enabled || !enabledOnly := by
  cases enabledOnly with
  | true => simp
  | false =>
    simp only [Bool.false_eq_true, if_false, Bool.not_false, Bool.or_true]
    cases index[key]? <;> rfl

namespace Engine

theorem run_decideIn (keys : List String) :
    let merged := engine.defaults.union options
    let r := (Deliberation.each ((keys.filterMap p.flag?).map
      fun flag => flag.deliberate engine p user merged) (engine.tracker? user.id merged)).run handler reply s
    let decisions := Index.lastBy (·.flagKey)
      (refusals p user keys ++ (outcomeDecisions p user merged keys r.1.1).map (·.1))
    (engine.decideIn p user keys options).run handler reply s
      = ((if merged.contains .enabledFlagsOnly then decisions.filter fun _ d => d.enabled else decisions,
          (outcomeDecisions p user merged keys r.1.1).flatMap (·.2)),
        ((Tracker.saveIfAny r.1.2).run handler reply r.2).2) := by
  intro merged r decisions
  rw [decideIn, Plan.run_bind, Deliberation.settleAll, Plan.run_bind, Plan.run_bind]
  rfl

theorem play_decideIn (keys : List String) :
    let merged := engine.defaults.union options
    let r := (Deliberation.each ((keys.filterMap p.flag?).map
      fun flag => flag.deliberate engine p user merged) (engine.tracker? user.id merged)).play responder w
    let decisions := Index.lastBy (·.flagKey)
      (refusals p user keys ++ (outcomeDecisions p user merged keys r.1.1).map (·.1))
    (engine.decideIn p user keys options).play responder w
      = ((if merged.contains .enabledFlagsOnly then decisions.filter fun _ d => d.enabled else decisions,
          (outcomeDecisions p user merged keys r.1.1).flatMap (·.2)),
        r.2.withProfiles (Tracker.flushAny r.1.2 r.2.services.profiles)) := by
  intro merged r decisions
  have hsave := congrArg Prod.snd (Tracker.play_saveIfAny responder r.1.2 r.2)
  exact (run_decideIn keys).trans (Prod.ext rfl hsave)

/-- **Deciding together is deciding in turn.** In any world and with any bandit, the call that decides
some flags, and calls that decide them one by one, come to the same:

* the call answers for each key what the last call for the key decided, if that decision is enabled or
  others are asked for, too;
* the events are the same, in the same order;
* the fetches are the same, in the same order, and so are the cache and the bandit in the end;
* the profile stores have the same contents in the end. -/
theorem decideEach_eq_decideInTurn (responder : Responder κ) (engine : Engine) (d : Datafile) (user : User)
    (keys : List String) (options : Options) (w : World κ)
    (hp : w.services.project = some (.ofDatafile d)) :
    let a := (engine.decideEach user keys options).play responder w
    let b := (engine.decideInTurn user options keys).play responder w
    (∀ key : String, a.1.1[key]? = (Index.ofLast b.1.1)[key]?.filter fun d =>
      d.enabled || !(engine.defaults.union options).contains .enabledFlagsOnly) ∧
    a.1.2 = b.1.2 ∧
    a.2.Agrees b.2 ∧
    a.2.services.profiles.Same b.2.services.profiles := by
  have ha : (engine.decideEach user keys options).play responder w
      = (engine.decideIn (.ofDatafile d) user keys options).play responder w := by
    refine (Plan.play_query_project _ w).trans ?_
    rw [hp]
  have hkept := kept_tracker? engine user.id (engine.defaults.union options) w
  obtain ⟨htally, hrelated⟩ := tally_decideInTurn responder keys
    ⟨hkept, hkept, rfl, .refl _⟩ hp
  have hlookup := htally.findRev?_eq fun key flag hk => (Project.of_flag? hk).2
  have hsame := hrelated.same
  rw [flushAny_tracker?] at hsame
  intro a b
  have ha' : a = _ := ha.trans (play_decideIn keys)
  rw [ha']
  refine ⟨fun key => ?_, htally.events_eq.symm, hrelated.agrees, hsame⟩
  have hdecisions := hlookup key
  rw [← Index.getElem?_lastBy] at hdecisions
  rw [Index.getElem?_ofLast, ← hdecisions]
  exact Index.getElem?_restrict ..

end Engine

end FlagEngine

/-! ### Flags that share experiments -/

namespace FlagEngine.Tally.Sample

/-- An experiment that users are put into, one with a bandit, and two flags for each of them. -/
def datafile : Datafile :=
  { (default : Datafile) with
    experiments := [
      { (default : Experiment) with
        id := "e"
        key := "e"
        status := .running
        variations := [⟨"a", "on", some true, []⟩]
        traffic := [⟨"a", 10000⟩] },
      { (default : Experiment) with
        id := "x"
        key := "x"
        status := .running
        variations := [⟨"v", "on", some true, []⟩]
        bandit := some ⟨10000, []⟩ }]
    flags := [⟨"1", "f", "", ["e"], []⟩, ⟨"2", "g", "", ["e"], []⟩, ⟨"3", "h", "", ["x"], []⟩,
      ⟨"4", "k", "", ["x"], []⟩] }

def engine : Engine :=
  { (default : Engine) with
    keepsProfiles := true
    hasBandit := true }

def user : User :=
  ⟨"u", ∅, ∅⟩

/-- One known flag is asked for twice, and an unknown one once. -/
def keys : List String :=
  ["f", "h", "unknown", "g", "k", "f"]

/-- Every fetch succeeds after a nanosecond. -/
def responder : Responder Unit :=
  fun _ _ => (.ok "v", 1, ())

def world : World Unit :=
  ⟨{ Services.initial default with project := some (.ofDatafile datafile) }, (), []⟩

end FlagEngine.Tally.Sample

namespace FlagEngine.Engine

open Tally

/-- Only enabled flags are asked for. The user is put into the experiment once, and one decision of the bandit is
fetched and found again. -/
theorem decideEach_eq_decideInTurn_of_shared :
    let options : Options := .ofList [.enabledFlagsOnly]
    let a := (decideEach Sample.engine Sample.user Sample.keys options).play Sample.responder Sample.world
    let b := (decideInTurn Sample.engine Sample.user options Sample.keys).play Sample.responder Sample.world
    Sample.world.services.project = some (.ofDatafile Sample.datafile) ∧
      (∀ key : String, a.1.1[key]? = (Index.ofLast b.1.1)[key]?.filter (·.enabled)) ∧
      a.1.2 = b.1.2 ∧ a.2.Agrees b.2 ∧ a.2.services.profiles.Same b.2.services.profiles ∧
      b.1.1.map (·.2.enabled) = [true, true, false, true, true, true] ∧
      (b.2.services.profiles.profile "u").toList = [("e", "a")] ∧
      b.2.fetched.map (·.ruleId) = ["x"] ∧ b.2.services.cache.size = 1 := by
  intro options a b
  have hp : Sample.world.services.project = some (.ofDatafile Sample.datafile) := rfl
  have hoptions : (Sample.engine.defaults.union options).contains .enabledFlagsOnly = true := by decide
  obtain ⟨hdecisions, hevents, hagrees, hprofiles⟩ :=
    decideEach_eq_decideInTurn Sample.responder Sample.engine Sample.datafile Sample.user Sample.keys options
      Sample.world hp
  simp only [hoptions, Bool.not_true, Bool.or_false] at hdecisions
  -- Otherwise the calls would be run to see that they are the same.
  simp only [a, b]
  exact ⟨hp, hdecisions, hevents, hagrees, hprofiles, by decide +kernel, by decide +kernel, by decide +kernel,
    by decide +kernel⟩

end FlagEngine.Engine
