import FlagEngine.Proofs.Bandit.Invalidation
import FlagEngine.Proofs.Preservation
import FlagEngine.Proofs.World

/-!
# Resets

A call with the option `resetBanditCache` resets the cache each time that it comes to a bandit, its own earlier
decisions included. What the cache has in the end is the decision of the latest fetch and nothing else:
`Engine.reset_keeps_latest`.
-/

namespace FlagEngine

open Deliberation

/-! ## One fetch after a reset -/

namespace Bandit

/-- The key under which the decision is remembered. -/
def Call.key (call : Call) : String :=
  cacheKey call.userId call.ruleId

/-- What is remembered of the decision. -/
def Call.entry (call : Call) (variationId : String) : Entry :=
  ⟨call.attributes.fingerprint, variationId, call.uuid⟩

namespace Cache

variable {c : Cache} {key fingerprint : String} {options : CacheOptions} {t : Ticket}

/-- A cache that has been emptied for a fetch that is on its way. -/
structure Awaits (c : Cache) (key : String) (t : Ticket) : Prop where
  empty : c.entries = []
  current : c.isCurrent key t = true

theorem awaits_prepare (hreset : options.reset = true) :
    (c.prepare key options).Awaits key (c.prepare key options).ticket where
  empty := by
    unfold prepare
    rw [if_pos hreset]
    cases options.invalidate with
    | false => rfl
    | true => exact (entries_remove (c := c.reset)).trans rfl
  current := isCurrent_prepare (.inl hreset)

theorem awaits_begin (hreset : options.reset = true) :
    ∃ t, (c.begin key fingerprint options).1 = .miss t ∧ (c.begin key fingerprint options).2.Awaits key t := by
  have hprepare : (c.prepare key options).Awaits key (c.prepare key options).ticket := awaits_prepare hreset
  rcases begin_cases c key fingerprint options with ⟨s, hs, _, _⟩ | ⟨c', hc, hbegin⟩
  · have hstored := live?_eq_some hs
    rw [stored?, hprepare.empty] at hstored
    cases hstored
  · refine ⟨_, congrArg Prod.fst hbegin, ?_⟩
    rw [hbegin]
    rcases hc with rfl | rfl
    · exact hprepare
    · refine ⟨?_, hprepare.current⟩
      rw [drop, hprepare.empty]
      rfl

/-- The cache has what the fetch has brought and nothing else. -/
def HasOnly (c : Cache) (call : Call) : Reply → Prop
  | .ok v => c.entries = [(call.key, ⟨call.entry v, c.now + c.lifetime.nanos⟩)]
  | .error _ => c.entries = []

theorem hasOnly_complete (call : Call) (variationId : String) (h : c.Awaits call.key t)
    (hcapacity : c.capacity ≠ 0) :
    (c.complete call.key (call.entry variationId) t).2.HasOnly call (.ok variationId) := by
  obtain ⟨n, hn⟩ := Nat.exists_eq_succ_of_ne_zero hcapacity
  unfold complete
  simp [h.current, HasOnly, save, drop, h.empty, hn]

end Cache

end Bandit

/-! ## Fetches of a call -/

/-- A fetch with its reply. -/
def Exchange.fetch? : Exchange → Option (Bandit.Call × Bandit.Reply)
  | .fetched call reply => some (call, reply)
  | .asked _ _ => none

/-- The fetches that have passed with their replies, the latest first. -/
def Transcript.fetches (past : Transcript) : List (Bandit.Call × Bandit.Reply) :=
  past.filterMap Exchange.fetch?

/-- The exchange looks a decision of a bandit up. -/
def Exchange.consults : Exchange → Bool
  | .asked (.beginDecision _ _ _) _ => true
  | _ => false

namespace Bandit

/-- Before the first fetch the cache is as it was. After that it has what the latest fetch has brought and
nothing else. -/
structure HasLatest {κ : Type} (before : Cache) (past : Transcript) (w : World κ) : Prop where
  settings : w.services.cache.settings = before.settings
  untouched : past.fetches = [] → (∀ x ∈ past, x.consults = false) ∧ w.services.cache = before
  latest : ∀ {call reply earlier}, past.fetches = (call, reply) :: earlier →
    w.services.cache.HasOnly call reply

variable {κ : Type} {responder : Responder κ} {before : Cache} {past : Transcript} {w : World κ}

theorem HasLatest.asked {q : Query} (hq : q.IsOrdinary) (h : HasLatest before past w) :
    HasLatest before (.asked q (World.answer q w).1 :: past) (World.answer q w).2 := by
  have hcache : (World.answer q w).2.services.cache = w.services.cache := by
    cases q with
    | beginDecision | completeDecision | uuid => exact hq.elim
    | project | forcedVariation | profile | saveVariation => rfl
  have hconsults : (Exchange.asked q (World.answer q w).1).consults = false := by
    cases q with
    | beginDecision | completeDecision | uuid => exact hq.elim
    | project | forcedVariation | profile | saveVariation => rfl
  refine ⟨hcache ▸ h.settings, fun hnone => ?_, fun hfetches => hcache ▸ h.latest hfetches⟩
  obtain ⟨hpast, heq⟩ := h.untouched hnone
  exact ⟨List.forall_mem_cons.mpr ⟨hconsults, hpast⟩, hcache.trans heq⟩

theorem HasLatest.of_fetched {call : Call} {reply : Reply} {earlier : List (Call × Reply)}
    (hfetches : past.fetches = (call, reply) :: earlier)
    (hsettings : w.services.cache.settings = before.settings)
    (hcache : w.services.cache.HasOnly call reply) : HasLatest before past w := by
  refine ⟨hsettings, fun hnone => ?_, fun hlatest => ?_⟩
  · rw [hfetches] at hnone
    cases hnone
  · rw [hfetches] at hlatest
    cases hlatest
    exact hcache

/-- A fetch is on its way, which has found the cache empty. -/
structure Awaiting (before : Cache) (key : String) (t : Ticket) (w : World κ) : Prop where
  settings : w.services.cache.settings = before.settings
  awaits : w.services.cache.Awaits key t

/-- The bandit is always fetched from, and the cache comes to have what the fetch has brought. -/
theorem preserves_consult_of_reset {options : CacheOptions} (hreset : options.reset = true)
    (hcapacity : before.capacity ≠ 0) (p : Project) (userId : String) (attributes : Attributes) (id : String) :
    (consult p userId attributes id options).Preserves World.answer (World.fetch responder)
      (HasLatest before) := by
  let key := cacheKey userId id
  refine Plan.carries_ask (fun finding _ w => ∃ t, finding = .miss t ∧ Awaiting before key t w)
    (fun past w h => ?_) fun finding => ?_
  · obtain ⟨t, hmiss, hawaits⟩ := Cache.awaits_begin (c := w.services.cache) hreset
    exact ⟨t, hmiss, (Cache.settings_begin ..).trans h.settings, hawaits⟩
  cases finding with
  | hit e =>
    -- There is nothing to find right after a reset.
    refine Plan.carries_done _ fun _ _ h => ?_
    obtain ⟨_, ⟨⟩, _⟩ := h
  | miss t =>
    refine Plan.carries_ask (fun _ _ w => Awaiting before key t w) (fun _ _ h => ?_) fun uuid => ?_
    · obtain ⟨_, ⟨⟩, h⟩ := h
      exact ⟨h.settings, h.awaits⟩
    let call : Call := ⟨id, userId, told p id attributes, uuid⟩
    refine Plan.carries_fetch (fun reply past w =>
      (∃ earlier, past.fetches = (call, reply) :: earlier) ∧ Awaiting before key t w)
      (fun _ _ h => ⟨⟨_, rfl⟩, h.settings, h.awaits.empty, h.awaits.current⟩) fun reply => ?_
    cases reply with
    | error f =>
      refine Plan.carries_done _ fun _ _ h => ?_
      obtain ⟨⟨_, hfetches⟩, hawaiting⟩ := h
      exact .of_fetched hfetches hawaiting.settings hawaiting.awaits.empty
    | ok variationId =>
      refine Plan.carries_ask (fun _ => HasLatest before) (fun _ w h => ?_) fun _ =>
        Plan.preserves_done _
      obtain ⟨⟨_, hfetches⟩, hawaiting⟩ := h
      have hsame : w.services.cache.capacity = before.capacity := congrArg Prod.fst hawaiting.settings
      rw [← hsame] at hcapacity
      have hcache := Cache.hasOnly_complete call variationId hawaiting.awaits hcapacity
      exact .of_fetched hfetches ((Cache.settings_complete ..).trans hawaiting.settings) hcache

end Bandit

namespace Bandit.HasLatest.Sample

def experiment (id : String) : Experiment :=
  { (default : Experiment) with
    id
    key := id
    status := .running
    variations := [⟨"v", "on", some true, []⟩]
    bandit := some ⟨10000, []⟩ }

/-- Two flags, with a bandit for each of them. -/
def datafile : Datafile :=
  { (default : Datafile) with
    experiments := [experiment "x", experiment "y"]
    flags := [⟨"1", "f", "", ["x"], []⟩, ⟨"2", "g", "", ["y"], []⟩] }

def engine : Engine :=
  { (default : Engine) with hasBandit := true }

def errand : Errand :=
  .decideEach ⟨"u", ∅, ∅⟩ ["f", "g"] (.ofList [.resetBanditCache])

/-- Every fetch succeeds at once. -/
def responder : Responder Unit :=
  fun _ _ => (.ok "v", 0, ())

def world : World Unit :=
  ⟨{ Services.initial default with project := some (.ofDatafile datafile) }, (), []⟩

def past : Transcript :=
  (engine.carryOut errand).transcript World.answer (World.fetch responder) world

/-- The cache when the call has ended. -/
def cache : Cache :=
  ((engine.carryOut errand).play responder world).2.services.cache

theorem fetches_past :
    past.fetches.map (fun fetch => (fetch.1.userId, fetch.1.ruleId, fetch.2))
      = [("u", "y", .ok "v"), ("u", "x", .ok "v")] := by
  decide +kernel

end Bandit.HasLatest.Sample

namespace Engine

open Bandit (cacheKey)
open Bandit.HasLatest

/-- **Resets keep the latest fetch.** Take any call by options that reset the cache, and any state of the
services. If the call fetches nothing, it has not consulted the cache at all and leaves it as it was. If it
fetches, it leaves in the cache what the latest fetch has brought, for a whole lifetime from then on, and
nothing else: nothing that was there before the call, and nothing of its own earlier fetches either. -/
theorem reset_keeps_latest {κ : Type} (responder : Responder κ) (engine : Engine) (errand : Errand)
    (w : World κ) (hreset : (errand.options engine).contains .resetBanditCache = true)
    (hcapacity : w.services.cache.capacity ≠ 0) :
    let past := (engine.carryOut errand).transcript World.answer (World.fetch responder) w
    let cache := ((engine.carryOut errand).play responder w).2.services.cache
    (past.fetches = [] → (∀ x ∈ past, x.consults = false) ∧ cache = w.services.cache) ∧
      ∀ call reply earlier, past.fetches = (call, reply) :: earlier → cache.HasOnly call reply := by
  intro past cache
  have hstart : Bandit.HasLatest w.services.cache [.asked .project w.services.project] w :=
    ⟨rfl, fun _ => ⟨by simp [Exchange.consults], rfl⟩, nofun⟩
  have hgiven : ((engine.carryOut errand).given w.services.project).Preserves World.answer
      (World.fetch responder) (Bandit.HasLatest w.services.cache) := by
    cases w.services.project with
    | none => exact Plan.outward_preserves.given_none
    | some p =>
      exact engine.preserves_given (fun q hq _ _ h => h.asked hq) fun _ x _ _ =>
        Bandit.preserves_consult_of_reset hreset hcapacity p _ _ x.id
  have hend : Bandit.HasLatest w.services.cache past ((engine.carryOut errand).play responder w).2 :=
    at_end_of_given hgiven hstart
  exact ⟨hend.untouched, fun _ _ _ => hend.latest⟩

/-- Of two decisions that the call has fetched, the cache has the second one. -/
theorem reset_keeps_latest_of_two :
    Sample.world.services.cache.capacity ≠ 0 ∧ Sample.cache.entries.map (·.1) = [cacheKey "u" "y"] := by
  have hcapacity : Sample.world.services.cache.capacity ≠ 0 := by decide
  obtain ⟨⟨call, reply⟩, earlier, hfetches, hfetch, -⟩ := List.map_eq_cons_iff.mp Sample.fetches_past
  simp only [Prod.mk.injEq] at hfetch
  obtain ⟨huser, hrule, rfl⟩ := hfetch
  have hlatest : Sample.cache.HasOnly call (.ok "v") :=
    (reset_keeps_latest Sample.responder Sample.engine Sample.errand Sample.world (by decide)
      hcapacity).2 call _ earlier hfetches
  refine ⟨hcapacity, ?_⟩
  rw [hlatest, ← huser, ← hrule]
  rfl

/-- Both fetches of the call succeed, and the cache has room for their decisions and keeps them long enough. The
one for the first flag is not there when the call ends. -/
theorem reset_loses_fetched :
    Sample.past.fetches.map (fun fetch => (fetch.1.userId, fetch.1.ruleId, fetch.2))
        = [("u", "y", .ok "v"), ("u", "x", .ok "v")] ∧
      2 ≤ Sample.cache.capacity ∧ Sample.cache.now < Sample.cache.lifetime.nanos ∧
      (Sample.cache.peek? (cacheKey "u" "y")).isSome = true ∧ Sample.cache.peek? (cacheKey "u" "x") = none :=
  ⟨Sample.fetches_past, by decide +kernel⟩

end Engine

end FlagEngine
