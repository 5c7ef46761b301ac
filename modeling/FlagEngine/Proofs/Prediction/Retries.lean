import FlagEngine.Prediction.Exchange
import Mathlib.Data.Nat.Find

/-!
# Attempts and pauses

Attempts are made until one is no passing failure, or until there have been as many retries as are allowed. The retries
are counted in 32 bits here, and a pause may change what later attempts come to: `RetryPolicy.loop?`. The count never
overflows, and `fetch` is this loop where pauses change nothing: `fetch_retries`.
-/

namespace FlagEngine.Prediction

/-- The attempt failed, but another one need not. -/
def Attempt.IsPassing : Attempt → Prop
  | .failed _ => True
  | .answered _ | .invalid => False

instance : DecidablePred Attempt.IsPassing
  | .failed _ => .isTrue trivial
  | .answered _ | .invalid => .isFalse id

theorem Attempt.IsPassing.exists_failed {a : Attempt} (h : a.IsPassing) : ∃ text, a = .failed text := by
  match a, h with
  | .failed text, _ => exact ⟨text, rfl⟩

namespace RetryPolicy

variable {σ : Type} (p : RetryPolicy) (attempt : σ → Attempt × σ) (pause : Nanoseconds → σ → σ) (s : σ)

/-- The result of attempts of which this is the last one. -/
def verdict : Attempt → Except Bandit.Failure String
  | .answered variationId => .ok variationId
  | .invalid => .error .invalidResponse
  | .failed text => .error
    (.fetchFailed (if 1 ≤ p.maxRetries then "Exhausted all retries for bandit request: " ++ text else text))

theorem verdict_failed (text : String) : p.verdict (.failed text) = .error (p.exhausted text) := by
  rw [verdict, exhausted]
  by_cases h : p.maxRetries = 0
  · rw [if_pos h, if_neg (by omega)]
  · rw [if_neg h, if_pos (by omega)]

/-- Makes attempts after `count` retries, counted in 32 bits. There is no result if the count overflows. -/
def loop? (count : UInt32) (s : σ) : Option (Except Bandit.Failure String × σ) :=
  match attempt s with
  | (.answered variationId, s) => some (.ok variationId, s)
  | (.invalid, s) => some (.error .invalidResponse, s)
  | (.failed text, s) =>
    if count < .ofNat p.maxRetries then
      if h : count.toNat + 1 < UInt32.size then
        loop? (count + 1) (pause (p.delay (count + 1).toNat) s)
      else none
    else some (.error (p.exhausted text), s)
termination_by UInt32.size - count.toNat
decreasing_by
  have hadd : (count + 1).toNat = count.toNat + 1 := by
    rw [UInt32.toNat_add]
    exact Nat.mod_eq_of_lt h
  omega

/-- The state in which an attempt is made. Attempts are numbered from zero. -/
def stateAt : Nat → σ
  | 0 => s
  | k + 1 => pause (p.delay (k + 1)) (attempt (stateAt k)).2

/-- What an attempt comes to. -/
def outcome (k : Nat) : Attempt :=
  (attempt (p.stateAt attempt pause s k)).1

/-- The last attempt: all before it were passing failures, and it is one itself only if no retry is left. -/
structure IsLast (n : Nat) : Prop where
  le : n ≤ p.maxRetries
  passing : ∀ k < n, (p.outcome attempt pause s k).IsPassing
  stops : n < p.maxRetries → ¬ (p.outcome attempt pause s n).IsPassing

variable {p attempt pause s} {k n : Nat}

theorem IsLast.unique (h : p.IsLast attempt pause s k) (h' : p.IsLast attempt pause s n) : k = n := by
  rcases Nat.lt_trichotomy k n with hlt | heq | hlt
  · exact (h.stops (Nat.lt_of_lt_of_le hlt h'.le) (h'.passing k hlt)).elim
  · exact heq
  · exact (h'.stops (Nat.lt_of_lt_of_le hlt h.le) (h.passing n hlt)).elim

variable (p attempt pause s) in
theorem exists_isLast : ∃ n, p.IsLast attempt pause s n := by
  have hsome : ∃ n, p.maxRetries ≤ n ∨ ¬ (p.outcome attempt pause s n).IsPassing := ⟨p.maxRetries, .inl le_rfl⟩
  refine ⟨Nat.find hsome, Nat.find_min' hsome (.inl le_rfl), fun k hk => ?_, fun hlt => ?_⟩
  · have hnot := Nat.find_min hsome hk
    exact not_not.mp fun h => hnot (.inr h)
  · exact (Nat.find_spec hsome).resolve_left (Nat.not_le.mpr hlt)

theorem IsLast.eq_of_passing (h : p.IsLast attempt pause s n) (hpassing : (p.outcome attempt pause s n).IsPassing) :
    n = p.maxRetries :=
  le_antisymm h.le (Nat.not_lt.mp fun hlt => h.stops hlt hpassing)

/-! ## Rounds of the loop -/

theorem loop?_failed {count : UInt32} {text : String} {s' : σ} (h : attempt s = (.failed text, s'))
    (hcount : count < .ofNat p.maxRetries) (hsize : count.toNat + 1 < UInt32.size) :
    p.loop? attempt pause count s = p.loop? attempt pause (count + 1) (pause (p.delay (count + 1).toNat) s') := by
  rw [loop?, h]
  dsimp only
  rw [if_pos hcount, dif_pos hsize]

/-- After passing failures, one retry has been counted and one pause made for each. -/
theorem loop?_stateAt (hmax : p.maxRetries < UInt32.size) (hk : k ≤ p.maxRetries)
    (h : ∀ j < k, (p.outcome attempt pause s j).IsPassing) :
    p.loop? attempt pause 0 s = p.loop? attempt pause (.ofNat k) (p.stateAt attempt pause s k) := by
  induction k with
  | zero => rfl
  | succ k ih =>
    obtain ⟨text, htext⟩ := (h k (Nat.lt_succ_self k)).exists_failed
    have hattempt : attempt (p.stateAt attempt pause s k) = (.failed text, _) := Prod.ext htext rfl
    have hcount : (UInt32.ofNat k).toNat = k := UInt32.toNat_ofNat_of_lt' (by omega)
    have hlt : UInt32.ofNat k < .ofNat p.maxRetries := by
      rw [UInt32.lt_iff_toNat_lt, hcount, UInt32.toNat_ofNat_of_lt' hmax]
      omega
    have hadd : UInt32.ofNat k + 1 = .ofNat (k + 1) := (UInt32.ofNat_add k 1).symm
    rw [ih (by omega) fun j hj => h j (by omega), loop?_failed hattempt hlt (by omega), hadd,
      UInt32.toNat_ofNat_of_lt' (by omega)]
    rfl

theorem loop?_of_isLast (hmax : p.maxRetries < UInt32.size) (h : p.IsLast attempt pause s n) :
    p.loop? attempt pause 0 s
      = some (p.verdict (p.outcome attempt pause s n), (attempt (p.stateAt attempt pause s n)).2) := by
  rw [loop?_stateAt hmax h.le h.passing, loop?]
  have hattempt : attempt (p.stateAt attempt pause s n) = (p.outcome attempt pause s n, _) := rfl
  cases houtcome : p.outcome attempt pause s n with
  | answered variationId =>
    rw [hattempt, houtcome]
    rfl
  | invalid =>
    rw [hattempt, houtcome]
    rfl
  | failed text =>
    have hn : n = p.maxRetries := h.eq_of_passing (by rw [houtcome]; trivial)
    rw [hattempt, houtcome]
    dsimp only
    rw [hn, if_neg (UInt32.lt_irrefl _), verdict_failed]

/-! ## Runs -/

/-- A pause that changes nothing. -/
def still (_ : Nanoseconds) (s : σ) : σ := s

theorem runFrom_failed {left : Nat} {text : String} {s' s'' : σ} {t : Transcript} (h : attempt s = (.failed text, s'))
    (hrest : p.runFrom attempt left s' = (t, s'')) :
    p.runFrom attempt (left + 1) s = (⟨t.result, p.delay (p.maxRetries - left) :: t.delays⟩, s'') := by
  rw [runFrom, h]
  dsimp only
  rw [hrest]

/-- After passing failures, one delay has been written down for each. -/
theorem run_stateAt {t : Transcript} {s' : σ} (hk : k ≤ p.maxRetries)
    (h : ∀ j < k, (p.outcome attempt still s j).IsPassing)
    (hrest : p.runFrom attempt (p.maxRetries - k) (p.stateAt attempt still s k) = (t, s')) :
    p.run attempt s = (⟨t.result, (List.range k).map (fun j => p.delay (j + 1)) ++ t.delays⟩, s') := by
  induction k generalizing t with
  | zero => exact hrest
  | succ k ih =>
    obtain ⟨text, htext⟩ := (h k (Nat.lt_succ_self k)).exists_failed
    have hattempt : attempt (p.stateAt attempt still s k) = (.failed text, p.stateAt attempt still s (k + 1)) :=
      Prod.ext htext rfl
    have hleft : p.maxRetries - k = p.maxRetries - (k + 1) + 1 := by omega
    have hretry : p.maxRetries - (p.maxRetries - (k + 1)) = k + 1 := by omega
    rw [ih (by omega) (fun j hj => h j (by omega)) (hleft ▸ runFrom_failed hattempt hrest), hretry]
    simp only [List.range_succ, List.map_append, List.append_assoc, List.map_cons, List.map_nil, List.singleton_append]

theorem run_of_isLast (h : p.IsLast attempt still s n) :
    p.run attempt s
      = (⟨p.verdict (p.outcome attempt still s n), (List.range n).map fun k => p.delay (k + 1)⟩,
        (attempt (p.stateAt attempt still s n)).2) := by
  have hattempt : attempt (p.stateAt attempt still s n) = (p.outcome attempt still s n, _) := rfl
  suffices hrest : p.runFrom attempt (p.maxRetries - n) (p.stateAt attempt still s n)
      = (⟨p.verdict (p.outcome attempt still s n), []⟩, (attempt (p.stateAt attempt still s n)).2) by
    rw [run_stateAt h.le h.passing hrest, List.append_nil]
  rw [runFrom]
  cases houtcome : p.outcome attempt still s n with
  | answered variationId =>
    rw [hattempt, houtcome]
    rfl
  | invalid =>
    rw [hattempt, houtcome]
    rfl
  | failed text =>
    have hn : n = p.maxRetries := h.eq_of_passing (by rw [houtcome]; trivial)
    have hleft : p.maxRetries - n = 0 := by omega
    rw [hattempt, houtcome, hleft, verdict_failed]

end RetryPolicy

/-! ## Requests -/

variable {σ : Type}

theorem fetch_eq_run {endpoint : String} {policy : RetryPolicy} {send : Request → σ → Delivery × σ}
    {call : Bandit.Call} {s : σ} {url : Url} (h : url? endpoint call.ruleId = .ok url) :
    fetch endpoint policy send call s = policy.run (attempt url call send) s := by
  rw [fetch, h]

/-- Whatever attempts come to, the loop ends with the last attempt, without an overflow, after one pause before every
attempt but the first. So does `fetch`, which tells how long the pauses are. -/
theorem fetch_retries (policy : RetryPolicy) (hmax : policy.maxRetries < UInt32.size) :
    (∀ (attempt : σ → Attempt × σ) (pause : Nanoseconds → σ → σ) (s : σ),
      ∃ n, policy.IsLast attempt pause s n ∧
        policy.loop? attempt pause 0 s
          = some (policy.verdict (policy.outcome attempt pause s n),
              (attempt (policy.stateAt attempt pause s n)).2)) ∧
    ∀ (endpoint : String) (send : Request → σ → Delivery × σ) (call : Bandit.Call) (s : σ) (url : Url),
      url? endpoint call.ruleId = .ok url →
      ∃ n, policy.IsLast (attempt url call send) RetryPolicy.still s n ∧
        fetch endpoint policy send call s
          = (⟨policy.verdict (policy.outcome (attempt url call send) RetryPolicy.still s n),
              (List.range n).map fun k => policy.delay (k + 1)⟩,
            (attempt url call send (policy.stateAt (attempt url call send) RetryPolicy.still s n)).2) ∧
        policy.loop? (attempt url call send) RetryPolicy.still 0 s
          = some ((fetch endpoint policy send call s).1.result, (fetch endpoint policy send call s).2) := by
  constructor
  · intro attempt pause s
    obtain ⟨n, hn⟩ := policy.exists_isLast attempt pause s
    exact ⟨n, hn, policy.loop?_of_isLast hmax hn⟩
  · intro endpoint send call s url hurl
    obtain ⟨n, hn⟩ := policy.exists_isLast (attempt url call send) RetryPolicy.still s
    refine ⟨n, hn, ?_, ?_⟩
    · rw [fetch_eq_run hurl, policy.run_of_isLast hn]
    · rw [fetch_eq_run hurl, policy.run_of_isLast hn, policy.loop?_of_isLast hmax hn]

/-- The first request to the standard endpoint is lost. The second one is answered, but without a prediction. -/
theorem fetch_retries_once :
    let policy : RetryPolicy := { RetryPolicy.standard with maxRetries := 0xffffffff }
    let send (_ : Request) (n : Nat) : Delivery × Nat := (if n = 0 then .lost else .answer 200 (some ""), n + 1)
    let call : Bandit.Call := ⟨"r", "u", ∅, ""⟩
    let host := "prediction.cmab.optimizely.com".toList
    let url : Url := ⟨"https".toList, some (.domain host), none, .rooted ["predict".toList, ['r']], none, none⟩
    policy.maxRetries < UInt32.size ∧ url? standardEndpoint call.ruleId = .ok url ∧
      fetch standardEndpoint policy send call 0 = (⟨.error .invalidResponse, [policy.delay 1]⟩, 2) := by
  intro policy send call host url
  have hmax : policy.maxRetries < UInt32.size := by decide
  have hurl : url? standardEndpoint call.ruleId = .ok url := by decide +kernel
  obtain ⟨n, hn, hfetch, -⟩ := (fetch_retries policy hmax).2 standardEndpoint send call 0 url hurl
  have hlast : policy.IsLast (attempt url call send) RetryPolicy.still 0 1 :=
    ⟨by decide, by decide +kernel, fun _ => by decide +kernel⟩
  obtain rfl : n = 1 := hn.unique hlast
  refine ⟨hmax, hurl, ?_⟩
  rw [hfetch]
  rfl

end FlagEngine.Prediction
