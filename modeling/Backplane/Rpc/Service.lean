/-
This file defines what answers calls. A service works in surroundings that it shares with others:
a clock, a limiter, measurements, a log, and the record of what was shown to interceptors and of
the calls that reached a handler.
-/

import Backplane.Log.Event
import Backplane.Metrics.Registry
import Backplane.RateLimit.Sliding
import Backplane.Rpc.Call

namespace Backplane.Rpc

/-- The interceptors of a server: the one for languages, and those of the application by their
numbers. -/
inductive Interceptor.Place
  | language
  | custom (number : Nat)
deriving DecidableEq, Repr

/-- What services share; `σ` is the state of the limiter. The clock counts nanoseconds. -/
structure Surroundings (σ : Type) where
  clock : Nat := 0
  limiter : σ
  collector : Metrics.Collector := .discarding
  scope : Option Log.Scope := none
  events : List Log.Event := []
  /-- The interceptors that were run, each with the metadata that it was shown. -/
  intercepted : List (Interceptor.Place × Metadata) := []
  /-- The calls that reached a handler, each with the time at which it did. -/
  handled : List (Nat × Call) := []

namespace Surroundings

variable {σ : Type}

/-- Writes to the log, within the present scope. -/
def report (around : Surroundings σ) (level : Log.Level) (message : String)
    (fields : List (String × Log.Value) := []) : Surroundings σ :=
  { around with
    events := around.events ++
      [{ level, fields := ("message", .text message) :: fields, scope := around.scope }] }

def measure (around : Surroundings σ) (measurement : Metrics.Measurement) : Surroundings σ :=
  { around with collector := around.collector.record measurement }

/-- Lets time pass. -/
def wait (around : Surroundings σ) (span : Span) : Surroundings σ :=
  { around with clock := around.clock + span.nanoseconds }

end Surroundings

abbrev Service (σ : Type) := Call → Surroundings σ → Outcome × Surroundings σ

/-- What a handler makes of a call, and how long it takes. -/
structure Handling where
  outcome : Outcome
  took : Span := ⟨0⟩
deriving DecidableEq, Repr

abbrev Handler := Call → Handling

/-- The service that hands every call to a handler. -/
def Service.ofHandler {σ : Type} (handler : Handler) : Service σ := fun call around =>
  let handling := handler call
  (handling.outcome,
    { around with handled := around.handled ++ [(around.clock, call)] }.wait handling.took)

end Backplane.Rpc
