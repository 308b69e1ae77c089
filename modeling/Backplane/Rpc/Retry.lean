/-
This file repeats failed calls after growing pauses.
-/

import Backplane.Bits
import Backplane.Log.Event
import Backplane.Rpc.Status

namespace Backplane.Rpc

/-- How often a call is tried and how the pauses between the tries grow. -/
structure Retry where
  maxAttempts : UInt32 := 3
  initialBackoff : UInt64 := 100
  maxBackoff : UInt64 := 30000
  multiplier : Float := 2.0

namespace Retry

/-- The codes after which a call is worth another try. -/
def retryable (code : Code) : Bool :=
  code = .unavailable || code = .deadlineExceeded || code = .resourceExhausted

/-- A power by repeated squaring: `result * base ^ exponent`. -/
def power (result base : Float) (exponent : Nat) : Float :=
  let grown := if exponent % 2 = 1 then result * base else result
  if exponent / 2 = 0 then grown else power grown (base * base) (exponent / 2)
termination_by exponent

/-- The smaller number; one that is no number gives way. -/
def smaller (left right : Float) : Float :=
  if left.isNaN then right else if right.isNaN then left else if right < left then right else left

/-- The larger number; one that is no number gives way. -/
def larger (left right : Float) : Float :=
  if left.isNaN then right else if right.isNaN then left else if left < right then right else left

/-- The largest power that is computed. -/
def largestExponent : Nat := Bits.most 31

/-- The pause in milliseconds after the given number of repeated calls. -/
def backoff (retry : Retry) (attempt : UInt32) : UInt64 :=
  let exponent := min attempt.toNat largestExponent
  let delay := retry.initialBackoff.toFloat * power 1.0 retry.multiplier exponent
  (larger (smaller delay retry.maxBackoff.toFloat) 0.0).toUInt64

/-- The number of calls that may be made; it is never zero. -/
def attempts (retry : Retry) : Nat := max retry.maxAttempts.toNat 1

/-- The report of a call that is repeated after a pause. -/
def report (retry : Retry) (attempt : Nat) (status : Status) (delay : UInt64) : Log.Event :=
  { level := .warn
    fields :=
      [("message", .text "gRPC call failed, retrying"),
        ("attempt", .number (attempt + 1)),
        ("max_attempts", .number retry.attempts),
        ("code", .text status.code.name),
        ("delay_ms", .number delay.toNat)] }

/-- What a series of calls did: when each call was made, in milliseconds, and the last outcome. -/
structure Run (α : Type) where
  calledAt : List Nat
  outcome : Except Status α
  events : List Log.Event

/-- Calls until an outcome is final; `remaining` more calls may follow this one. A pause of as many
milliseconds as are asked for lasts `sleep asked`. -/
def runFrom (retry : Retry) (sleep : UInt64 → Nat) (outcomes : Nat → Except Status α) :
    (remaining attempt clock : Nat) → Run α
  | 0, attempt, clock => ⟨[clock], outcomes attempt, []⟩
  | remaining + 1, attempt, clock =>
      match outcomes attempt with
      | .ok value => ⟨[clock], .ok value, []⟩
      | .error status =>
          if retryable status.code then
            let delay := retry.backoff attempt.toUInt32
            let rest := runFrom retry sleep outcomes remaining (attempt + 1) (clock + sleep delay)
            ⟨clock :: rest.calledAt, rest.outcome,
              retry.report attempt status delay :: rest.events⟩
          else ⟨[clock], .error status, []⟩

/-- Calls an operation whose `n`-th call has the `n`-th outcome and takes no time. -/
def run (retry : Retry) (sleep : UInt64 → Nat) (outcomes : Nat → Except Status α) : Run α :=
  retry.runFrom sleep outcomes (retry.attempts - 1) 0 0

end Retry

end Backplane.Rpc
