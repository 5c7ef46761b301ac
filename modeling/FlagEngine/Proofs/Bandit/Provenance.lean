import FlagEngine.Proofs.Bandit.Key
import FlagEngine.Proofs.Bandit.Views
import FlagEngine.Proofs.Interleaving

/-!
# Where remembered decisions come from

Consultations of bandits in any interleaving, among removals and resets of the remembered decisions. The
main statement is `Consultation.after_provenance`: what is remembered for a user and a rule has come from
one successful fetch for this user and this rule, and that fetch began after the latest reset and after
the latest removal of the pair.

The invariant is `Provenance`. Its key part is that a call whose fetch waits for its reply holds the
ticket of the marks that the log shows for the moment at which the fetch began. So `Marks.isCurrent_iff`
tells what has been cleared in the meantime.
-/

namespace FlagEngine

open Bandit

/-- What an occurrence clears in the cache, the latest first. -/
def Occurrence.clearings {ι α : Type} : Occurrence ι α → List Clearing
  | .asked _ (.beginDecision key _ options) _ => options.clearings key
  | .changed (.removeDecision key) => [.removal key]
  | .changed .resetDecisions => [.reset]
  | _ => []

/-- An occurrence that ends the fetch of a call. -/
def Occurrence.Outcome {ι α : Type} (id : Nat) : Occurrence ι α → Prop
  | .replied id' _ | .abandoned id' => id' = id
  | _ => False

namespace Bandit

/-- One consultation of a bandit. -/
structure Consultation where
  project : Project
  userId : String
  attributes : Attributes
  ruleId : String
  options : CacheOptions

namespace Consultation

def plan (q : Consultation) : Plan (Except Failure Choice) :=
  consult q.project q.userId q.attributes q.ruleId q.options

def key (q : Consultation) : String :=
  cacheKey q.userId q.ruleId

/-- The fingerprint of what the bandit is told. -/
def fingerprint (q : Consultation) : String :=
  (told q.project q.ruleId q.attributes).fingerprint

/-- The fetch of a consultation that finds nothing remembered. -/
def call (q : Consultation) (uuid : String) : Call where
  ruleId := q.ruleId
  userId := q.userId
  attributes := told q.project q.ruleId q.attributes
  uuid

end Consultation

/-- How a consultation goes on after its fetch. -/
def settle (call : Call) (t : Ticket) : Reply → Plan (Except Failure Choice)
  | .error f => .done (.error f)
  | .ok variationId =>
    .ask (.completeDecision (cacheKey call.userId call.ruleId)
      ⟨call.attributes.fingerprint, variationId, call.uuid⟩ t) fun _ =>
        .done (.ok ⟨variationId, call.uuid⟩)

theorem Consultation.plan_eq (q : Consultation) :
    q.plan = .ask (.beginDecision q.key q.fingerprint q.options) fun finding =>
      match finding with
      | .hit e => .done (.ok e.choice)
      | .miss t => .ask .uuid fun uuid => .fetch (q.call uuid) (settle (q.call uuid) t) := by
  refine congrArg (Plan.ask _) (funext fun finding => ?_)
  cases finding with
  | hit e => rfl
  | miss t =>
    refine congrArg (Plan.ask .uuid) (funext fun uuid => congrArg (Plan.fetch _) ?_)
    funext reply
    cases reply <;> rfl

/-! ## Logs -/

/-- The log of an interleaving of consultations. -/
abbrev Log : Type :=
  List (Occurrence Consultation (Except Failure Choice))

def Log.clearings (log : Log) : List Clearing :=
  log.flatMap Occurrence.clearings

/-- The log has a successful fetch for a user and a rule with the decision of an entry. Since the fetch
began, there has been no clearing that concerns the pair. -/
def Fetched (log : Log) (userId ruleId : String) (e : Entry) : Prop :=
  ∃ id call later earlier,
    log = later ++ .fetching id call :: earlier ∧
    call.userId = userId ∧ call.ruleId = ruleId ∧
    call.attributes.fingerprint = e.fingerprint ∧ call.uuid = e.uuid ∧
    .replied id (.ok e.variationId) ∈ later ∧
    (∀ x ∈ log, x.Outcome id → x = .replied id (.ok e.variationId)) ∧
    ∀ x ∈ Log.clearings later, x.Spares (cacheKey userId ruleId)

variable {log more : Log} {userId ruleId : String} {e : Entry}

@[simp] theorem Log.clearings_append : Log.clearings (more ++ log) = more.clearings ++ log.clearings :=
  List.flatMap_append

theorem Fetched.append (h : Fetched log userId ruleId e)
    (hs : ∀ c ∈ more.clearings, c.Spares (cacheKey userId ruleId))
    (ho : ∀ x ∈ more, ∀ id, x.Outcome id → ∀ y ∈ log, ¬ y.Outcome id) :
    Fetched (more ++ log) userId ruleId e := by
  obtain ⟨id, call, later, earlier, hlog, hu, hr, hf, hi, hreply, houtcome, hspares⟩ := h
  have hmem : .replied id (.ok e.variationId) ∈ log := by
    rw [hlog]
    exact List.mem_append_left _ hreply
  refine ⟨id, call, more ++ later, earlier, by rw [hlog, List.append_assoc], hu, hr, hf, hi,
    List.mem_append_right _ hreply, ?_, ?_⟩
  · intro x hx hxo
    rcases List.mem_append.mp hx with hx | hx
    · exact (ho x hx id hxo _ hmem rfl).elim
    · exact houtcome x hx hxo
  · intro c hc
    rw [Log.clearings_append, List.mem_append] at hc
    rcases hc with hc | hc
    · exact hs c hc
    · exact hspares c hc

/-- A call that has ended without a fetch has answered what was remembered for its attributes. -/
def Recalls (log : Log) : Prop :=
  ∀ later earlier id result q, log = later ++ .ended id result :: earlier →
    .began id q ∈ earlier → (∀ call, .fetching id call ∉ earlier) →
    ∃ e, result = .ok e.choice ∧ e.fingerprint = q.fingerprint ∧ Fetched earlier q.userId q.ruleId e

/-- A call that begins with a clearing has a fetch. -/
def Refreshes (log : Log) : Prop :=
  ∀ id q, .began id q ∈ log → q.options.reset = true ∨ q.options.invalidate = true →
    ∃ call, .fetching id call ∈ log ∧ call.userId = q.userId ∧ call.ruleId = q.ruleId

theorem Recalls.cons {x : Occurrence Consultation (Except Failure Choice)} (h : Recalls log)
    (hx : ∀ id result q, x = .ended id result → .began id q ∈ log →
      (∀ call, .fetching id call ∉ log) →
      ∃ e, result = .ok e.choice ∧ e.fingerprint = q.fingerprint ∧
        Fetched log q.userId q.ruleId e) : Recalls (x :: log) := by
  intro later earlier id result q hlog
  cases later with
  | nil =>
    obtain ⟨rfl, rfl⟩ := List.cons.inj hlog
    exact hx id result q rfl
  | cons y later =>
    obtain ⟨rfl, rfl⟩ := List.cons.inj hlog
    exact h later earlier id result q rfl

theorem Refreshes.append (hm : Refreshes more) (h : Refreshes log) : Refreshes (more ++ log) := by
  intro id q hq ho
  rcases List.mem_append.mp hq with hq | hq
  · obtain ⟨call, hc, hu⟩ := hm id q hq ho
    exact ⟨call, List.mem_append_left _ hc, hu⟩
  · obtain ⟨call, hc, hu⟩ := h id q hq ho
    exact ⟨call, List.mem_append_right _ hc, hu⟩

/-! ## Advancing a consultation -/

namespace Consultation

open Interleaving

variable {s : Services} {id : Nat} {q : Consultation}

/-- The cache once a consultation has looked there. -/
def begun (q : Consultation) (c : Cache) : Cache :=
  (c.begin q.key q.fingerprint q.options).2

theorem advance_of_hit (h : (s.cache.begin q.key q.fingerprint q.options).1 = .hit e) :
    q.plan.advance (answer id) (s, log)
      = (.finished (.ok e.choice), { s with cache := q.begun s.cache },
          .asked id (.beginDecision q.key q.fingerprint q.options) (.hit e) :: log) := by
  simp only [plan_eq, Plan.advance, answer, Services.answer, h]
  rfl

theorem advance_of_miss {t : Ticket}
    (h : (s.cache.begin q.key q.fingerprint q.options).1 = .miss t) :
    let uuid := Services.uuidText (s.issued + 1)
    q.plan.advance (answer id) (s, log)
      = (.waiting (q.call uuid) (settle (q.call uuid) t),
          { s with cache := q.begun s.cache, issued := s.issued + 1 },
          .asked id .uuid uuid ::
            .asked id (.beginDecision q.key q.fingerprint q.options) (.miss t) :: log) := by
  simp only [plan_eq, Plan.advance, answer, Services.answer, h]
  rfl

end Consultation

/-! ## The invariant -/

/-- A call waits for the reply to a fetch with the ticket of the moment at which the fetch began. -/
def InFlight (log : Log) (id : Nat) (next : Reply → Plan (Except Failure Choice)) : Prop :=
  ∃ call later earlier,
    log = later ++ .fetching id call :: earlier ∧
    next = settle call (Marks.after (Log.clearings earlier)).ticket

theorem InFlight.append {id : Nat} {next : Reply → Plan (Except Failure Choice)}
    (h : InFlight log id next) : InFlight (more ++ log) id next := by
  obtain ⟨call, later, earlier, rfl, hn⟩ := h
  exact ⟨call, more ++ later, earlier, by rw [List.append_assoc], hn⟩

structure Provenance (s : Interleaving Consultation (Except Failure Choice)) : Prop where
  marks : s.services.cache.marks = .after (Log.clearings s.log)
  began_lt : ∀ {id q}, .began id q ∈ s.log → id < s.begun
  outcome : ∀ {x id}, x ∈ s.log → x.Outcome id → id < s.begun ∧ s.waiting id = none
  inFlight : ∀ {id next}, s.waiting id = some next → id < s.begun ∧ InFlight s.log id next
  stored : ∀ {key x}, s.services.cache.stored? key = some x →
    ∃ userId ruleId, key = cacheKey userId ruleId ∧ Fetched s.log userId ruleId x.entry
  recalls : Recalls s.log
  refreshes : Refreshes s.log

namespace Provenance

open Interleaving

variable {s : Interleaving Consultation (Except Failure Choice)} {c : Cache}

theorem initial {services : Services} (h : services.cache.marks = .initial)
    (he : ∀ key, services.cache.stored? key = none) :
    Provenance (Interleaving.initial services) where
  marks := h
  began_lt h := by cases h
  outcome h := by cases h
  inFlight h := by cases h
  stored h := by
    rw [Interleaving.initial, he] at h
    cases h
  recalls := by
    intro later earlier id result q h
    rw [Interleaving.initial] at h
    cases later <;> cases h
  refreshes := by
    intro id q h
    cases h

theorem marks_of_cleared (h : Provenance s) (hc : Cache.Cleared s.services.cache more.clearings c) :
    c.marks = .after (Log.clearings (more ++ s.log)) := by
  rw [hc.marks, h.marks, Marks.foldr_clear_after, Log.clearings_append]

theorem stored_of_cleared (h : Provenance s) (hc : Cache.Cleared s.services.cache more.clearings c)
    (ho : ∀ x ∈ more, ∀ id, ¬ x.Outcome id) {key : String} {x : Stored}
    (hx : c.stored? key = some x) :
    ∃ userId ruleId, key = cacheKey userId ruleId ∧ Fetched (more ++ s.log) userId ruleId x.entry := by
  obtain ⟨hstored, hspares⟩ := hc.stored hx
  obtain ⟨userId, ruleId, rfl, hf⟩ := h.stored hstored
  exact ⟨userId, ruleId, rfl, hf.append hspares fun x hx id hxo => (ho x hx id hxo).elim⟩

/-- What holds of every call that begins: it clears what its options say, and nothing ends. -/
private theorem of_begin (h : Provenance s) {services : Services}
    {w : Option (Reply → Plan (Except Failure Choice))}
    (hc : Cache.Cleared s.services.cache more.clearings services.cache)
    (ho : ∀ x ∈ more, ∀ id, ¬ x.Outcome id) (hb : ∀ id q, .began id q ∈ more → id = s.begun)
    (hw : ∀ next, w = some next → InFlight (more ++ s.log) s.begun next)
    (hrecalls : Recalls (more ++ s.log)) (hrefreshes : Refreshes (more ++ s.log)) :
    Provenance ⟨services, Function.update s.waiting s.begun w, s.begun + 1, more ++ s.log⟩ := by
  refine ⟨h.marks_of_cleared hc, ?_, ?_, ?_, h.stored_of_cleared hc ho, hrecalls, hrefreshes⟩
  · intro id q hq
    rcases List.mem_append.mp hq with hq | hq
    · exact hb id q hq ▸ Nat.lt_succ_self _
    · exact Nat.lt_succ_of_lt (h.began_lt hq)
  · intro x id hx hxo
    rcases List.mem_append.mp hx with hx | hx
    · exact (ho x hx id hxo).elim
    · obtain ⟨hlt, hn⟩ := h.outcome hx hxo
      exact ⟨Nat.lt_succ_of_lt hlt, (Function.update_of_ne (Nat.ne_of_lt hlt) ..).trans hn⟩
  · intro id next hn
    by_cases hid : id = s.begun
    · subst hid
      simp only [Function.update_self] at hn
      exact ⟨Nat.lt_succ_self _, hw next hn⟩
    · simp only [Function.update_of_ne hid] at hn
      obtain ⟨hlt, hi⟩ := h.inFlight hn
      exact ⟨Nat.lt_succ_of_lt hlt, hi.append⟩

/-- A call that finds its decision remembered ends at once. -/
private theorem begin_of_hit (h : Provenance s) {q : Consultation}
    (hb : (s.services.cache.begin q.key q.fingerprint q.options).1 = .hit e) :
    Provenance (s.step Consultation.plan (.begin q)) := by
  obtain ⟨hreset, hinvalidate, hfingerprint, x, hx, rfl⟩ := Cache.begin_hit hb
  let asked : Log :=
    [.asked s.begun (.beginDecision q.key q.fingerprint q.options) (.hit x.entry), .began s.begun q]
  have hstep : s.step Consultation.plan (.begin q) =
      ⟨{ s.services with cache := q.begun s.services.cache }, Function.update s.waiting s.begun none,
        s.begun + 1, .ended s.begun (.ok x.entry.choice) :: asked ++ s.log⟩ :=
    proceed_of_finished (Consultation.advance_of_hit hb)
  have hasked : asked.clearings = q.options.clearings q.key := by
    simp [asked, Log.clearings, Occurrence.clearings]
  have hbegan : ∀ q', .began s.begun q' ∈ asked ++ s.log → q' = q := by
    intro q' hq
    simp only [asked, List.cons_append, List.nil_append, List.mem_cons, reduceCtorEq, false_or] at hq
    rcases hq with hq | hq
    · cases hq
      rfl
    · exact absurd (h.began_lt hq) (Nat.lt_irrefl _)
  have hfetched : Fetched (asked ++ s.log) q.userId q.ruleId x.entry := by
    obtain ⟨userId, ruleId, hkey, hf⟩ := h.stored hx
    obtain ⟨rfl, rfl⟩ := eq_of_cacheKey_eq hkey
    refine hf.append ?_ ?_
    · simp [hasked, CacheOptions.clearings, hreset, hinvalidate]
    · simp [asked, Occurrence.Outcome]
  have hrecalls : Recalls (asked ++ s.log) :=
    (h.recalls.cons (by simp)).cons (by simp)
  rw [hstep]
  refine h.of_begin ?_ ?_ ?_ ?_ ?_ ?_
  · have hclearings : Log.clearings (.ended s.begun (.ok x.entry.choice) :: asked)
        = q.options.clearings q.key := hasked
    rw [hclearings]
    exact Cache.cleared_begin
  · simp [asked, Occurrence.Outcome]
  · simp [asked]
  · intro next hn
    cases hn
  · refine hrecalls.cons ?_
    rintro id result q' hended hq -
    cases hended
    obtain rfl := hbegan q' hq
    exact ⟨x.entry, rfl, hfingerprint, hfetched⟩
  · refine Refreshes.append (fun id q' hq ho => ?_) h.refreshes
    simp only [asked, List.mem_cons, reduceCtorEq, false_or, List.not_mem_nil, or_false] at hq
    cases hq
    simp [hreset, hinvalidate] at ho

/-- A call that finds nothing remembered waits for a fetch. -/
private theorem begin_of_miss (h : Provenance s) {q : Consultation} {t : Ticket}
    (hb : (s.services.cache.begin q.key q.fingerprint q.options).1 = .miss t) :
    Provenance (s.step Consultation.plan (.begin q)) := by
  let uuid := Services.uuidText (s.services.issued + 1)
  let asked : Log :=
    [.asked s.begun .uuid uuid,
      .asked s.begun (.beginDecision q.key q.fingerprint q.options) (.miss t), .began s.begun q]
  have hstep : s.step Consultation.plan (.begin q) =
      ⟨{ s.services with cache := q.begun s.services.cache, issued := s.services.issued + 1 },
        Function.update s.waiting s.begun (some (settle (q.call uuid) t)), s.begun + 1,
        .fetching s.begun (q.call uuid) :: asked ++ s.log⟩ :=
    proceed_of_waiting (Consultation.advance_of_miss hb)
  have hcleared : Cache.Cleared s.services.cache asked.clearings (q.begun s.services.cache) := by
    have hasked : asked.clearings = q.options.clearings q.key := by
      simp [asked, Log.clearings, Occurrence.clearings]
    rw [hasked]
    exact Cache.cleared_begin
  rw [hstep]
  refine h.of_begin hcleared ?_ ?_ ?_ ?_ ?_
  · simp [asked, Occurrence.Outcome]
  · simp [asked]
  · intro next hn
    cases hn
    refine ⟨q.call uuid, [], asked ++ s.log, rfl, ?_⟩
    rw [Cache.begin_miss hb, ← h.marks_of_cleared hcleared]
    rfl
  · exact (((h.recalls.cons (by simp)).cons (by simp)).cons (by simp)).cons (by simp)
  · refine Refreshes.append (fun id q' hq ho => ?_) h.refreshes
    simp only [asked, List.mem_cons, reduceCtorEq, false_or, List.not_mem_nil, or_false] at hq
    cases hq
    exact ⟨q.call uuid, List.mem_cons_self, rfl, rfl⟩

theorem step_begin (h : Provenance s) (q : Consultation) :
    Provenance (s.step Consultation.plan (.begin q)) := by
  cases hb : (s.services.cache.begin q.key q.fingerprint q.options).1 with
  | hit e => exact h.begin_of_hit hb
  | miss t => exact h.begin_of_miss hb

theorem not_outcome (h : Provenance s) {id : Nat} {next : Reply → Plan (Except Failure Choice)}
    (hw : s.waiting id = some next) : ∀ x ∈ s.log, ¬ x.Outcome id := by
  intro x hx ho
  have hn := (h.outcome hx ho).2
  rw [hw] at hn
  cases hn

private theorem stored_of_outcome (h : Provenance s) {id : Nat}
    {next : Reply → Plan (Except Failure Choice)} (hw : s.waiting id = some next)
    (hc : more.clearings = []) (ho : ∀ x ∈ more, ∀ id', x.Outcome id' → id' = id) {key : String}
    {x : Stored} (hx : s.services.cache.stored? key = some x) :
    ∃ userId ruleId, key = cacheKey userId ruleId ∧ Fetched (more ++ s.log) userId ruleId x.entry := by
  obtain ⟨userId, ruleId, rfl, hf⟩ := h.stored hx
  refine ⟨userId, ruleId, rfl, hf.append (by simp [hc]) fun y hy id' hyo => ?_⟩
  obtain rfl := ho y hy id' hyo
  exact h.not_outcome hw

/-- What holds of every call whose fetch ends: it begins nothing and clears nothing. -/
private theorem of_outcome (h : Provenance s) {id : Nat} {next : Reply → Plan (Except Failure Choice)}
    (hw : s.waiting id = some next) {services : Services} (hc : more.clearings = [])
    (ho : ∀ x ∈ more, ∀ id', x.Outcome id' → id' = id) (hb : ∀ id q, .began id q ∉ more)
    (hmarks : services.cache.marks = s.services.cache.marks)
    (hstored : ∀ {key x}, services.cache.stored? key = some x →
      ∃ userId ruleId, key = cacheKey userId ruleId ∧ Fetched (more ++ s.log) userId ruleId x.entry)
    (hrecalls : Recalls (more ++ s.log)) :
    Provenance ⟨services, Function.update s.waiting id none, s.begun, more ++ s.log⟩ := by
  refine ⟨?_, ?_, ?_, ?_, hstored, hrecalls, ?_⟩
  · simp only [hmarks, h.marks, Log.clearings_append, hc, List.nil_append]
  · intro id' q hq
    rcases List.mem_append.mp hq with hq | hq
    · exact (hb id' q hq).elim
    · exact h.began_lt hq
  · intro x id' hx hxo
    rcases List.mem_append.mp hx with hx | hx
    · obtain rfl := ho x hx id' hxo
      exact ⟨(h.inFlight hw).1, Function.update_self ..⟩
    · obtain ⟨hlt, hn⟩ := h.outcome hx hxo
      refine ⟨hlt, ?_⟩
      by_cases hid : id' = id
      · subst hid
        exact Function.update_self ..
      · exact (Function.update_of_ne hid ..).trans hn
  · intro id' next' hn
    by_cases hid : id' = id
    · subst hid
      simp only [Function.update_self] at hn
      cases hn
    · simp only [Function.update_of_ne hid] at hn
      obtain ⟨hlt, hi⟩ := h.inFlight hn
      exact ⟨hlt, hi.append⟩
  · exact Refreshes.append (fun id q hq => (hb id q hq).elim) h.refreshes

theorem step_abandon (h : Provenance s) (id : Nat) :
    Provenance (s.step Consultation.plan (.abandon id)) := by
  cases hw : s.waiting id with
  | none => simpa only [step, hw] using h
  | some next =>
    let more : Log := [.abandoned id]
    have hstep : s.step Consultation.plan (.abandon id) =
        ⟨s.services, Function.update s.waiting id none, s.begun, more ++ s.log⟩ := by
      simp only [step, hw]
      rfl
    have ho : ∀ x ∈ more, ∀ id', x.Outcome id' → id' = id := by
      simp [more, Occurrence.Outcome]
    rw [hstep]
    refine h.of_outcome hw rfl ho (by simp [more]) rfl ?_ ?_
    · exact h.stored_of_outcome hw rfl ho
    · exact h.recalls.cons (by simp)

/-- A failed fetch leaves the services as they were. -/
private theorem step_reply_error (h : Provenance s) {id : Nat}
    {next : Reply → Plan (Except Failure Choice)} (hw : s.waiting id = some next) (f : Failure) :
    Provenance (s.step Consultation.plan (.reply id (.error f))) := by
  obtain ⟨_, call, later, earlier, hlog, rfl⟩ := h.inFlight hw
  let more : Log := [.ended id (.error f), .replied id (.error f)]
  have hstep : s.step Consultation.plan (.reply id (.error f)) =
      ⟨s.services, Function.update s.waiting id none, s.begun, more ++ s.log⟩ := by
    simp only [step, hw]
    rfl
  have ho : ∀ x ∈ more, ∀ id', x.Outcome id' → id' = id := by
    simp [more, Occurrence.Outcome]
  have hfetching : .fetching id call ∈ s.log := by simp [hlog]
  rw [hstep]
  refine h.of_outcome hw rfl ho (by simp [more]) rfl ?_ ?_
  · exact h.stored_of_outcome hw rfl ho
  · refine (h.recalls.cons (by simp)).cons ?_
    rintro id' result q hended - hn
    cases hended
    exact (hn call (List.mem_cons_of_mem _ hfetching)).elim

/-- A fetched decision is remembered only if the pair has been spared since the fetch began. -/
private theorem step_reply_ok (h : Provenance s) {id : Nat}
    {next : Reply → Plan (Except Failure Choice)} (hw : s.waiting id = some next)
    (hn : (Log.clearings s.log).length < UInt64.size) (variationId : String) :
    Provenance (s.step Consultation.plan (.reply id (.ok variationId))) := by
  obtain ⟨_, call, later, earlier, hlog, rfl⟩ := h.inFlight hw
  let key := cacheKey call.userId call.ruleId
  let e : Entry := ⟨call.attributes.fingerprint, variationId, call.uuid⟩
  let t : Ticket := (Marks.after (Log.clearings earlier)).ticket
  let written := s.services.cache.complete key e t
  let more : Log := [.ended id (.ok e.choice), .asked id (.completeDecision key e t) written.1,
    .replied id (.ok variationId)]
  have hstep : s.step Consultation.plan (.reply id (.ok variationId)) =
      ⟨{ s.services with cache := written.2 }, Function.update s.waiting id none, s.begun,
        more ++ s.log⟩ := by
    simp only [step, hw]
    rfl
  have ho : ∀ x ∈ more, ∀ id', x.Outcome id' → id' = id := by
    simp [more, Occurrence.Outcome]
  have hfetching : .fetching id call ∈ s.log := by simp [hlog]
  -- Neither the fetch itself nor its reply clears anything.
  have hclearings : Log.clearings s.log = Log.clearings later ++ Log.clearings earlier := by
    rw [hlog, Log.clearings_append]
    rfl
  have hspares : s.services.cache.marks.IsCurrent key t → ∀ c ∈ Log.clearings later, c.Spares key := by
    intro hcurrent
    rw [h.marks, hclearings] at hcurrent
    rw [hclearings] at hn
    exact ((Marks.isCurrent_iff hn).mp hcurrent).spares
  have hfetched (hcurrent : s.services.cache.marks.IsCurrent key t) :
      Fetched (more ++ s.log) call.userId call.ruleId e := by
    refine ⟨id, call, more ++ later, earlier, by rw [hlog, List.append_assoc], rfl, rfl, rfl, rfl,
      by simp [more, e], fun x hx hxo => ?_, hspares hcurrent⟩
    rcases List.mem_append.mp hx with hx | hx
    · simp only [more, List.mem_cons, List.not_mem_nil, or_false] at hx
      rcases hx with rfl | rfl | rfl
      · cases hxo
      · cases hxo
      · rfl
    · exact (h.not_outcome hw x hx hxo).elim
  rw [hstep]
  refine h.of_outcome hw rfl ho (by simp [more]) Cache.marks_complete ?_ ?_
  · intro key' x hx
    rcases Cache.stored?_complete hx with ⟨rfl, hentry, hcurrent⟩ | hx
    · exact ⟨call.userId, call.ruleId, rfl, hentry ▸ hfetched hcurrent⟩
    · exact h.stored_of_outcome hw rfl ho hx
  · refine ((h.recalls.cons (by simp)).cons (by simp)).cons ?_
    rintro id' result q hended - hnone
    cases hended
    exact (hnone call (List.mem_cons_of_mem _ (List.mem_cons_of_mem _ hfetching))).elim

theorem step_reply (h : Provenance s) (hn : (Log.clearings s.log).length < UInt64.size) (id : Nat)
    (reply : Reply) : Provenance (s.step Consultation.plan (.reply id reply)) := by
  cases hw : s.waiting id with
  | none => simpa only [step, hw] using h
  | some next =>
    cases reply with
    | error f => exact h.step_reply_error hw f
    | ok variationId => exact h.step_reply_ok hw hn variationId

/-- What a change from outside does to the cache is noted in the log. -/
private theorem cleared_change (services : Services) (change : Services.Change) :
    Cache.Cleared services.cache
      (Log.clearings [(.changed change : Occurrence Consultation (Except Failure Choice))])
      (services.change change).cache := by
  cases change with
  | publish d => exact .refl _
  | forceVariation experimentKey userId variationKey =>
    obtain ⟨forced, hforced⟩ := services.change_forceVariation experimentKey userId variationKey
    rw [hforced]
    exact .refl _
  | removeDecision key => exact Cache.cleared_remove
  | resetDecisions => exact Cache.cleared_reset
  | elapse nanos => exact Cache.cleared_elapse nanos

theorem step_change (h : Provenance s) (change : Services.Change) :
    Provenance (s.step Consultation.plan (.change change)) := by
  let more : Log := [.changed change]
  have hstep : s.step Consultation.plan (.change change) =
      ⟨s.services.change change, s.waiting, s.begun, more ++ s.log⟩ := rfl
  have hcleared : Cache.Cleared s.services.cache more.clearings (s.services.change change).cache :=
    cleared_change s.services change
  have ho : ∀ x ∈ more, ∀ id, ¬ x.Outcome id := by simp [more, Occurrence.Outcome]
  have hb : ∀ id q, .began id q ∉ more := by simp [more]
  rw [hstep]
  refine ⟨h.marks_of_cleared hcleared, fun hq => ?_, fun hx hxo => ?_, fun hw => ?_,
    h.stored_of_cleared hcleared ho, ?_, ?_⟩
  · rcases List.mem_append.mp hq with hq | hq
    · exact (hb _ _ hq).elim
    · exact h.began_lt hq
  · rcases List.mem_append.mp hx with hx | hx
    · exact (ho _ hx _ hxo).elim
    · exact h.outcome hx hxo
  · obtain ⟨hlt, hi⟩ := h.inFlight hw
    exact ⟨hlt, hi.append⟩
  · exact h.recalls.cons (by simp)
  · exact Refreshes.append (fun id q hq => (hb id q hq).elim) h.refreshes

theorem step (h : Provenance s) (hn : (Log.clearings s.log).length < UInt64.size)
    (x : Step Consultation) : Provenance (s.step Consultation.plan x) := by
  cases x with
  | begin q => exact h.step_begin q
  | reply id reply => exact h.step_reply hn id reply
  | abandon id => exact h.step_abandon id
  | change change => exact h.step_change change

theorem after {services : Services} {steps : List (Step Consultation)}
    (h : Provenance (Interleaving.initial services))
    (hn : (Log.clearings (Interleaving.after Consultation.plan services steps).log).length
      < UInt64.size) :
    Provenance (Interleaving.after Consultation.plan services steps) := by
  induction steps with
  | nil => exact h
  | cons x earlier ih =>
    have hle : (Log.clearings (Interleaving.after Consultation.plan services earlier).log).length
        ≤ (Log.clearings (Interleaving.after Consultation.plan services (x :: earlier)).log).length := by
      obtain ⟨more, hlog⟩ :=
        suffix_step Consultation.plan (Interleaving.after Consultation.plan services earlier) x
      rw [Interleaving.after, ← hlog, Log.clearings_append, List.length_append]
      exact Nat.le_add_left ..
    have hlt := Nat.lt_of_le_of_lt hle hn
    exact (ih hlt).step hlt x

/-- Fetches that come to nothing leave everything as it was. -/
theorem services_of_no_decision (h : Provenance s) (id : Nat) :
    (∀ f, (s.step Consultation.plan (.reply id (.error f))).services = s.services) ∧
    (s.step Consultation.plan (.abandon id)).services = s.services := by
  cases hw : s.waiting id with
  | none => simp only [Interleaving.step, hw, implies_true, and_self]
  | some next =>
    obtain ⟨_, call, later, earlier, _, rfl⟩ := h.inFlight hw
    simp only [Interleaving.step, hw, and_true]
    exact fun f => rfl

end Provenance

namespace Consultation

open Interleaving

/-- **Where remembered decisions come from.** The cache is empty at first, and consultations, replies,
failures, removals and resets come in any order. Then in every state:

* what is stored under the key of a user and a rule is the decision of one successful fetch for this user
  and this rule, and since this fetch began nothing has cleared the pair;
* a call that has ended without a fetch has answered such a decision, made for the attributes of the call;
* a fetch that fails or is abandoned leaves the services as they were;
* a call that clears the cache or the pair has a fetch for its own user and rule. -/
theorem after_provenance {services : Services} {capacity : Nat} {lifetime : Lifetime}
    (steps : List (Step Consultation)) (hc : services.cache = .empty capacity lifetime)
    (hn : (Log.clearings (after plan services steps).log).length < UInt64.size) :
    let s := after plan services steps
    (∀ key x, s.services.cache.stored? key = some x →
      ∃ userId ruleId, key = cacheKey userId ruleId) ∧
    (∀ userId ruleId x, s.services.cache.stored? (cacheKey userId ruleId) = some x →
      Fetched s.log userId ruleId x.entry) ∧
    Recalls s.log ∧
    (∀ id, (∀ f, (s.step plan (.reply id (.error f))).services = s.services) ∧
      (s.step plan (.abandon id)).services = s.services) ∧
    Refreshes s.log := by
  intro s
  have h : Provenance s := Provenance.after (.initial (by rw [hc]; rfl) fun _ => by rw [hc]; rfl) hn
  refine ⟨fun key x hx => ?_, fun userId ruleId x hx => ?_, h.recalls, h.services_of_no_decision,
    h.refreshes⟩
  · obtain ⟨userId, ruleId, hkey, _⟩ := h.stored hx
    exact ⟨userId, ruleId, hkey⟩
  · obtain ⟨userId', ruleId', hkey, hf⟩ := h.stored hx
    obtain ⟨rfl, rfl⟩ := eq_of_cacheKey_eq hkey
    exact hf

/-- One call fetches a decision, and another one finds it. -/
theorem after_provenance_of_hit :
    let services := Services.initial (.empty 1 (.ofMillis 1))
    let q : Consultation := ⟨default, "u", ∅, "r", ⟨false, false, true⟩⟩
    let steps := [.begin { q with options := default }, .reply 0 (.ok "v"), .begin q]
    services.cache = .empty 1 (.ofMillis 1) ∧
      (Log.clearings (after plan services steps).log).length < UInt64.size ∧
      ∃ x, (after plan services steps).services.cache.stored? (cacheKey "u" "r") = some x ∧
        x.entry.variationId = "v" ∧ Fetched (after plan services steps).log "u" "r" x.entry := by
  intro services q steps
  have hc : services.cache = .empty 1 (.ofMillis 1) := rfl
  have hn : (Log.clearings (after plan services steps).log).length < UInt64.size := by
    decide +kernel
  have hv : ((after plan services steps).services.cache.stored? (cacheKey "u" "r")).map
      (·.entry.variationId) = some "v" := by
    decide +kernel
  obtain ⟨x, hx, hxv⟩ := Option.map_eq_some_iff.mp hv
  exact ⟨hc, hn, x, hx, hxv, (after_provenance steps hc hn).2.1 "u" "r" x hx⟩

end Consultation

end Bandit

end FlagEngine
