import FlagEngine.Proofs.Bandit.Lifetimes
import FlagEngine.Proofs.Bandit.Resets
import FlagEngine.Proofs.Bandit.Stage
import FlagEngine.Proofs.Consulted
import FlagEngine.Proofs.Interleaving

/-!
# Memoization

A decision of a bandit is remembered for the attributes that the bandit is told. Once a call has succeeded, the
next one for the same user and rule is answered from the cache, as long as its attributes agree on those:
`memoizes_told`.
-/

namespace FlagEngine.Bandit

namespace Cache

variable {capacity : Nat} {lifetime : Lifetime} {c : Cache} {key fingerprint : String} {options : CacheOptions}
  {e : Entry} {t : Ticket} {operations : List Operation}

/-- A ticket is current as it is given. -/
theorem isCurrent_of_begin_miss (hn : (clearings operations).length < UInt64.size)
    (h : ((after capacity lifetime operations).begin key fingerprint options).1 = .miss t) :
    ((after capacity lifetime operations).begin key fingerprint options).2.marks.IsCurrent key t := by
  have hcurrent := (Marks.bounded_after hn).isCurrent_ticket key
  rw [← marks_after] at hcurrent
  rw [begin_miss h, marks_begin, ← ticket_eq, ← isCurrent_iff_marks]
  exact isCurrent_prepare (.inr hcurrent)

/-! ## What is remembered -/

/-- The entry is stored under the key. -/
def Remembers (c : Cache) (key : String) (e : Entry) : Prop :=
  ∃ s, c.stored? key = some s ∧ s.entry = e

theorem remembers_of_begin_hit (h : (c.begin key fingerprint options).1 = .hit e) :
    (c.begin key fingerprint options).2.Remembers key e ∧ e.fingerprint = fingerprint := by
  rcases begin_cases c key fingerprint options with ⟨s, hs, hf, hb⟩ | ⟨_, _, hb⟩
  · rw [hb] at h ⊢
    cases h
    exact ⟨⟨s, by rw [stored?_lookup, if_pos rfl, hs], rfl⟩, hf⟩
  · rw [hb] at h
    cases h

theorem remembers_complete (hcapacity : c.capacity ≠ 0) (h : c.marks.IsCurrent key t) :
    (c.complete key e t).2.Remembers key e := by
  have hwrites : (c.isCurrent key t && c.capacity != 0) = true := by
    rw [isCurrent_iff_marks.mpr h]
    simpa using hcapacity
  rw [complete, if_pos hwrites]
  exact ⟨_, stored?_save_self c key e hcapacity, rfl⟩

theorem Remembers.elapse (h : c.Remembers key e) (nanos : Nat) : (c.elapse nanos).Remembers key e :=
  h

/-- A call without options is answered from a cache in which nothing has expired. -/
theorem Remembers.begin_default (h : c.Remembers key e) (hu : c.Unexpired) :
    (c.begin key e.fingerprint default).1 = .hit e := by
  obtain ⟨s, hs, rfl⟩ := h
  have hprepare : c.prepare key default = c := rfl
  have hlive : (c.prepare key default).live? key = some s := (hu key).trans hs
  rw [begin_of_live rfl hlive rfl]

end Cache

/-! ## Two calls -/

/-- A bandit that takes its time to reply. Nothing else happens meanwhile. -/
def quiet (answer : Message → Reply) (nanos : Nat) (call : Call) (s : Services) : Reply × Services :=
  (answer call.message, s.change (.elapse nanos))

section

variable {p : Project} {userId ruleId : String} {attributes : Attributes} {options : CacheOptions}
  {s s' : Services} {capacity : Nat} {lifetime : Lifetime} {operations : List Operation}
  {answer : Message → Reply} {nanos : Nat} {choice : Choice}
  {result : Except Failure Choice}

/-- A call that succeeds leaves its decision behind. -/
theorem Consults.remembers (hs : s.cache = Cache.after capacity lifetime operations) (hcapacity : capacity ≠ 0)
    (hn : (clearings operations).length < UInt64.size)
    (h : Consults Services.answer (quiet answer nanos) p userId attributes ruleId options s result s')
    (hok : result = .ok choice) :
    ∃ operations' e, s'.cache = Cache.after capacity lifetime operations' ∧
      s'.cache.Remembers (cacheKey userId ruleId) e ∧
      e.fingerprint = (told p ruleId attributes).fingerprint ∧ e.choice = choice := by
  let began : List Operation :=
    .begin (cacheKey userId ruleId) (told p ruleId attributes).fingerprint options :: operations
  have hbegan : (s.cache.begin (cacheKey userId ruleId) (told p ruleId attributes).fingerprint options).2
      = Cache.after capacity lifetime began := by
    rw [hs]
    rfl
  cases h with
  | failed => cases hok
  | @remembered e s' hbegin =>
    cases hok
    have hfinding : (s.cache.begin _ _ options).1 = .hit e := congrArg Prod.fst hbegin
    have hcache : s'.cache = (s.cache.begin _ _ options).2 := congrArg (·.2.cache) hbegin.symm
    obtain ⟨hremembers, hfingerprint⟩ := Cache.remembers_of_begin_hit hfinding
    exact ⟨began, e, hcache.trans hbegan, hcache ▸ hremembers, hfingerprint, rfl⟩
  | @fetched t uuid variationId written s₁ s₂ s₃ s' hbegin huuid hreply hcomplete =>
    cases hok
    have hfinding : (s.cache.begin _ _ options).1 = .miss t := congrArg Prod.fst hbegin
    have hcache₁ : s₁.cache = Cache.after capacity lifetime began :=
      (congrArg (·.2.cache) hbegin.symm).trans hbegan
    have hcache₂ : s₂.cache = s₁.cache := congrArg (·.2.cache) huuid.symm
    -- While the fetch is on its way only time passes.
    have hcache₃ : s₃.cache = Cache.after capacity lifetime (.elapse nanos :: began) := by
      have helapse : s₃.cache = s₂.cache.elapse nanos := congrArg (·.2.cache) hreply.symm
      rw [helapse, hcache₂, hcache₁]
      rfl
    have hcurrent : s₃.cache.marks.IsCurrent (cacheKey userId ruleId) t := by
      rw [hs] at hfinding
      rw [hcache₃]
      exact Cache.isCurrent_of_begin_miss hn hfinding
    have hroom : s₃.cache.capacity ≠ 0 := by rwa [hcache₃, Cache.capacity_after]
    let written : Entry := ⟨(told p ruleId attributes).fingerprint, variationId, uuid⟩
    have hcache : s'.cache = (s₃.cache.complete (cacheKey userId ruleId) written t).2 :=
      congrArg (·.2.cache) hcomplete.symm
    refine ⟨.complete (cacheKey userId ruleId) written t :: .elapse nanos :: began, written, ?_,
      hcache ▸ Cache.remembers_complete hroom hcurrent, rfl, rfl⟩
    rw [hcache, hcache₃]
    rfl

/-- A call for attributes with the same fingerprint is answered with what is remembered. -/
theorem consult_of_remembers {e : Entry} (h : s.cache.Remembers (cacheKey userId ruleId) e)
    (hu : s.cache.Unexpired) (hf : e.fingerprint = (told p ruleId attributes).fingerprint)
    (reply : Call → Services → Reply × Services) :
    ((consult p userId attributes ruleId default).run Services.answer reply s).1 = .ok e.choice ∧
      ((consult p userId attributes ruleId default).transcript Services.answer reply s).fetches = [] := by
  have hbegin : (Services.answer
      (.beginDecision (cacheKey userId ruleId) (told p ruleId attributes).fingerprint default) s).1
        = Finding.hit e := hf ▸ h.begin_default hu
  constructor
  · have hconsults : Consults Services.answer reply p userId attributes ruleId default s (.ok e.choice) _ :=
      .remembered (Prod.ext hbegin rfl)
    rw [hconsults.run_eq]
  · have htranscript : (consult p userId attributes ruleId default).transcript Services.answer reply s = _ :=
      Plan.transcript_ask ..
    rw [htranscript, hbegin]
    rfl

/-- The next call after one that has succeeded is answered with the same decision. -/
theorem consult_again {attributes' : Attributes} {pause : Nat}
    (hagree : ∀ name, Tells p ruleId name → attributes[name]? = attributes'[name]?)
    (hs : s.cache = Cache.after capacity lifetime operations) (hcapacity : capacity ≠ 0)
    (hn : (clearings operations).length < UInt64.size)
    (h : Consults Services.answer (quiet answer nanos) p userId attributes ruleId options s (.ok choice) s')
    (hnow : (s'.change (.elapse pause)).cache.now < lifetime.nanos)
    (reply : Call → Services → Reply × Services) :
    ((consult p userId attributes' ruleId default).run Services.answer reply (s'.change (.elapse pause))).1
        = .ok choice ∧
      ((consult p userId attributes' ruleId default).transcript Services.answer reply
        (s'.change (.elapse pause))).fetches = [] := by
  obtain ⟨operations', e, hcache, hremembers, hfingerprint, rfl⟩ := h.remembers hs hcapacity hn rfl
  have hafter : (s'.change (.elapse pause)).cache = Cache.after capacity lifetime (.elapse pause :: operations') :=
    congrArg (Cache.elapse · pause) hcache
  have hunexpired : (s'.change (.elapse pause)).cache.Unexpired := by
    rw [hafter] at hnow ⊢
    exact Cache.unexpired_after hnow
  have hstill : (s'.change (.elapse pause)).cache.Remembers (cacheKey userId ruleId) e := hremembers.elapse pause
  refine consult_of_remembers hstill hunexpired ?_ reply
  rw [hfingerprint]
  exact Attributes.fingerprint_congr (toList_told_congr hagree)

/-- A fetch is for the rule and the user of the call, with the attributes that the bandit is told. -/
theorem eq_of_mem_fetches {σ : Type} {handler : Plan.Handler σ} {reply : Call → σ → Reply × σ} {s : σ}
    {call : Call} {answer : Reply} (h : (call, answer) ∈
      ((consult p userId attributes ruleId options).transcript handler reply s).fetches) :
    ∃ uuid, call = ⟨ruleId, userId, told p ruleId attributes, uuid⟩ := by
  have hleads : (consult p userId attributes ruleId options).Leads
      (fun past _ => ∀ x ∈ Transcript.fetches past,
        ∃ uuid, x.1 = ⟨ruleId, userId, told p ruleId attributes, uuid⟩) [] := by
    intro finding
    cases finding with
    | hit e => exact List.forall_mem_nil _
    | miss t =>
      intro uuid reply
      cases reply with
      | error f => exact List.forall_mem_singleton.mpr ⟨uuid, rfl⟩
      | ok variationId => exact fun _ => List.forall_mem_singleton.mpr ⟨uuid, rfl⟩
  have hrun := hleads.run handler reply s
  rw [List.append_nil] at hrun
  exact hrun _ h

theorem getElem?_told (name : String) :
    (Tells p ruleId name → (told p ruleId attributes)[name]? = attributes[name]?) ∧
      (¬ Tells p ruleId name → (told p ruleId attributes)[name]? = none) := by
  rw [told, Attributes.getElem?_restrict, ← mem_attributeNames]
  exact ⟨fun h => if_pos h, fun h => if_neg h⟩

end

/-- **Memoization.** Let two sets of attributes agree on what the bandit of a rule is told:

* if the cache has room, a call with the first ones succeeds and nothing else happens during it, then as long as no
  entry can have expired the next call with the others and without options comes to the same decision, without a
  fetch;
* from the same state and with the same client, the calls with either ones pass the same messages, come to the
  same and leave the same services behind;
* a fetch is told those attributes of the user whose names are the ones of ids that the bandit names, and nothing
  else. An id that the project does not know tells nothing. -/
theorem memoizes_told (p : Project) (userId ruleId : String) (options : CacheOptions) (a a' : Attributes)
    (hagree : ∀ name, Tells p ruleId name → a[name]? = a'[name]?) (s : Services) :
    (∀ capacity lifetime operations answer nanos pause choice,
      let first := (consult p userId a ruleId options).run Services.answer (quiet answer nanos) s
      let between := first.2.change (.elapse pause)
      s.cache = Cache.after capacity lifetime operations → capacity ≠ 0 →
      (clearings operations).length < UInt64.size →
      first.1 = .ok choice → between.cache.now < lifetime.nanos → ∀ reply,
        ((consult p userId a' ruleId default).run Services.answer reply between).1 = .ok choice ∧
        ((consult p userId a' ruleId default).transcript Services.answer reply between).fetches = []) ∧
    (∀ client : Message → Services → Reply × Services,
      let reply (call : Call) := client call.message
      (consult p userId a ruleId options).run Services.answer reply s
        = (consult p userId a' ruleId options).run Services.answer reply s ∧
      List.Forall₂ (Exchange.Resembles fun call call' => call.message = call'.message)
        ((consult p userId a ruleId options).transcript Services.answer reply s)
        ((consult p userId a' ruleId options).transcript Services.answer reply s)) ∧
    (∀ reply call answer,
      (call, answer) ∈ ((consult p userId a ruleId options).transcript Services.answer reply s).fetches →
      call.ruleId = ruleId ∧ call.userId = userId ∧
      ∀ name, (Tells p ruleId name → call.attributes[name]? = a[name]?) ∧
        (¬ Tells p ruleId name → call.attributes[name]? = none)) := by
  refine ⟨?_, ?_, ?_⟩
  · intro capacity lifetime operations answer nanos pause choice first between hs hcapacity hn hfirst hnow reply
    have hrun : (consult p userId a ruleId options).run Services.answer (quiet answer nanos) s
        = (.ok choice, first.2) := Prod.ext hfirst rfl
    exact consult_again hagree hs hcapacity hn (run_consult_eq_iff.mp hrun) hnow reply
  · intro client reply
    obtain ⟨hresult, hservices, htranscript⟩ := (resembles_consult hagree userId options).run Services.answer
      (fun _ _ h => congrArg client h) s
    exact ⟨Prod.ext hresult hservices, htranscript⟩
  · intro reply call answer hcall
    obtain ⟨uuid, rfl⟩ := eq_of_mem_fetches hcall
    exact ⟨rfl, rfl, getElem?_told⟩

open Project.Consults.Sample (datafile french coloured eq_country) in
/-- The bandit is told the country. A call is answered from the cache after one without a colour, though the bandit
has nothing to say any more. -/
theorem memoizes_told_of_colour :
    let p : Project := .ofDatafile datafile
    let s : Services := .initial (.empty 1 (.ofMillis 1))
    let first := (consult p "u" french "x" default).run Services.answer (quiet (fun _ => .ok "v") 5) s
    let again := (consult p "u" coloured "x" default).run Services.answer
      (quiet (fun _ => .error .invalidResponse) 0) (first.2.change (.elapse 7))
    first.1 = .ok ⟨"v", Services.uuidText 1⟩ ∧ again.1 = first.1 := by
  intro p s first again
  have hcolour : ¬ p.Consults "colour" := fun h => absurd (eq_country h) (by decide)
  have hagree : ∀ name, Tells p "x" name → french[name]? = coloured[name]? := fun name h =>
    (Attributes.agreeIn_insert hcolour french _ name h.consults).symm
  have hfirst : first.1 = .ok ⟨"v", Services.uuidText 1⟩ := rfl
  have hnow : (first.2.change (.elapse 7)).cache.now < (Lifetime.ofMillis 1).nanos := by decide
  obtain ⟨hagain, -, -⟩ := memoizes_told p "u" "x" default french coloured hagree s
  have hsame := hagain 1 (.ofMillis 1) [] (fun _ => .ok "v") 5 7 _ rfl (by decide) (by decide) hfirst hnow
    (quiet (fun _ => .error .invalidResponse) 0)
  exact ⟨hfirst, hsame.1.trans hfirst.symm⟩

end FlagEngine.Bandit
