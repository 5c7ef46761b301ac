import FlagEngine.Bandit.Basic
import FlagEngine.Number.Magnitude

/-!
# Retrying

A request that fails for a passing reason is tried again, after a delay that grows from retry to retry.
-/

namespace FlagEngine.Prediction

/-- A span of time in nanoseconds. -/
abbrev Nanoseconds := Nat

def nanosPerSecond : Nanoseconds := 1000000000

/-- The longest span of time: its seconds just fit 64 bits. -/
def longest : Nanoseconds := 0x10000000000000000 * nanosPerSecond - 1

structure RetryPolicy where
  /-- The number of retries after the first attempt. -/
  maxRetries : Nat
  initialDelay : Nanoseconds
  maxDelay : Nanoseconds
  /-- The factor between one delay and the next. A negative one, or not-a-number, counts as zero. -/
  multiplier : Binary64
deriving Inhabited

namespace RetryPolicy

def standard : RetryPolicy where
  maxRetries := 1
  initialDelay := nanosPerSecond / 10
  maxDelay := 10 * nanosPerSecond
  multiplier := .ofInt 2

/-- The multiplier as a magnitude, `Binary64.limit` for infinity. -/
def growth : Binary64 → Nat
  | .finite x => if x.negative then 0 else x.units
  | .infinite negative => if negative then 0 else Binary64.limit
  | .nan => 0

/-- A power by repeated squaring, every product rounded. -/
def power (base : Nat) (exponent : Nat) (result : Nat) : Nat :=
  let result := if exponent % 2 = 1 then Magnitude.mulSaturating result base else result
  if h : exponent / 2 = 0 then result
  else power (Magnitude.mulSaturating base base) (exponent / 2) result
termination_by exponent
decreasing_by omega

/-- The largest factor of a delay. -/
def maxFactor : Nat :=
  Magnitude.ofNat 0xffffffff

/-- The factor of the delay before a retry. Retries are counted from one. -/
def factor (p : RetryPolicy) (retry : Nat) : Nat :=
  min (power (growth p.multiplier) (min (retry - 1) 0x7fffffff) Binary64.one) maxFactor

/-- A span of time in seconds: the sum of its whole seconds and of the fraction. -/
def seconds (t : Nanoseconds) : Nat :=
  Magnitude.add (Magnitude.ofNat (t / nanosPerSecond))
    (Magnitude.div (Magnitude.ofNat (t % nanosPerSecond)) (Magnitude.ofNat nanosPerSecond))

/-- The nearest span of time, if there is one that long. -/
def ofSeconds? (s : Nat) : Option Nanoseconds :=
  if s < 0x10000000000000000 * Binary64.one then some (roundDiv (s * nanosPerSecond) Binary64.one) else none

/-- The delay before a retry. -/
def delay (p : RetryPolicy) (retry : Nat) : Nanoseconds :=
  match ofSeconds? (Magnitude.mul (seconds p.initialDelay) (p.factor retry)) with
  | some t => min t p.maxDelay
  | none => p.maxDelay

end RetryPolicy

/-- What comes of one attempt. -/
inductive Attempt where
  /-- The id of a variation. -/
  | answered (variationId : String)
  /-- A failure that may pass. -/
  | failed (text : String)
  /-- An answer without a prediction, which does not get better. -/
  | invalid
deriving DecidableEq, Repr, Inhabited

/-- What comes of all attempts, and the delays between them. -/
structure Transcript where
  result : Except Bandit.Failure String
  delays : List Nanoseconds

namespace RetryPolicy

variable {σ : Type}

/-- The failure when no retry is left. -/
def exhausted (p : RetryPolicy) (text : String) : Bandit.Failure :=
  .fetchFailed
    (if p.maxRetries = 0 then text else "Exhausted all retries for bandit request: " ++ text)

/-- Makes attempts with `left` retries left. -/
def runFrom (p : RetryPolicy) (attempt : σ → Attempt × σ) : Nat → σ → Transcript × σ
  | left, s =>
    match attempt s with
    | (.answered variationId, s) => (⟨.ok variationId, []⟩, s)
    | (.invalid, s) => (⟨.error .invalidResponse, []⟩, s)
    | (.failed text, s) =>
      match left with
      | 0 => (⟨.error (p.exhausted text), []⟩, s)
      | left + 1 =>
        let (t, s) := p.runFrom attempt left s
        (⟨t.result, p.delay (p.maxRetries - left) :: t.delays⟩, s)

/-- Makes attempts until one is no passing failure or no retry is left. -/
def run (p : RetryPolicy) (attempt : σ → Attempt × σ) (s : σ) : Transcript × σ :=
  p.runFrom attempt p.maxRetries s

end RetryPolicy

end FlagEngine.Prediction
