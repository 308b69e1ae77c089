/-
This file defines the layers around a service. A layer may look at a call before the service
inside it does, keep it back, and look at the outcome.
-/

import Backplane.Fault
import Backplane.Rpc.Bucket
import Backplane.Rpc.Negotiation
import Backplane.Rpc.Service

namespace Backplane.Rpc

abbrev Layer (σ : Type) := Service σ → Service σ

variable {σ : Type}

/-- What a caller learns of a breakdown. -/
def Status.broken : Status := ⟨.internal, "internal server error"⟩

/-- Turns a breakdown of the inner service into a reply, and lets go what it left behind. Should
that break down in turn, nothing holds the second breakdown up. -/
def recovering (destructor : Option Panic) : Layer σ := fun inner call around =>
  match inner call around with
  | (.panicked panic, after) =>
      let reported := after.report .error "Recovered from panic in gRPC handler"
        [("method", .text call.method), ("panic", .text panic.message)]
      match panic.dropped destructor with
      | some second => (.panicked second, reported)
      | none => (.replied (.ofStatus .broken), reported)
  | answered => answered

/-- Reports how a call ended. Nothing is reported of a breakdown. -/
def Surroundings.reportOutcome (around : Surroundings σ) : Outcome → Surroundings σ
  | .replied reply =>
      if reply.code = .ok then around.report .info "gRPC request completed"
      else
        around.report .error "gRPC request failed"
          [("code", .text reply.code.name), ("message", .text (reply.message?.getD ""))]
  | .lost reason => around.report .error "gRPC transport error" [("error", .text reason)]
  | .panicked _ => around

/-- The scope of the reports about a call. -/
def Call.scope (call : Call) (name : String) : Log.Scope :=
  { name
    fields :=
      [("method", .text call.method),
        ("request_id", .text ((call.headers.text? Headers.requestName).getD "unknown"))] }

/-- Reports the start and the end of every call, in a scope of the given name. -/
def loggingAs (name : String) : Layer σ := fun inner call around =>
  let entered := { around with scope := some (call.scope name) }
  let (outcome, after) := inner call (entered.report .info "gRPC request started")
  (outcome, { after.reportOutcome outcome with scope := around.scope })

/-- Reports calls that come in. -/
def logging : Layer σ := loggingAs "grpc_server"

/-- Gives a call a number unless it has one. -/
def Call.number (call : Call) (number : String) : Call :=
  if call.headers.has Headers.requestName then call
  else
    { call with
      metadata :=
        { call.metadata with
          headers := call.headers.append Headers.requestName (Headers.bytes number) } }

/-- Numbers calls that go out, and reports them. -/
def loggingCalls (number : String) : Layer σ := fun inner call =>
  loggingAs "grpc_client" inner (call.number number)

/-- Measures how long a call takes, and counts it by how it ends. A breakdown goes uncounted. -/
def measuring : Layer σ := fun inner call around =>
  match inner call around with
  | (.panicked panic, after) => (.panicked panic, after)
  | (outcome, after) =>
      let success := outcome.code = .ok
      let timed := after.measure (.duration call.method ⟨after.clock - around.clock⟩)
      let counted := timed.measure (.request call.method success)
      (outcome, if success then counted else counted.measure (.error "grpc" outcome.code.name))

/-- A limiter in front of a service. Choosing a bucket, and choosing whether to count a call at
all, may break down; the limiter itself may fail. -/
structure Limiting (σ : Type) where
  allow : String → Nat → σ → Except Fault Bool × σ
  bucket : Call → Except Panic String := fun call => .ok (Bucket.ofPeer call)
  exempts : Call → Except Panic Bool := fun call => .ok (Bucket.countsAll call)

/-- The limiter that counts in memory. It is asked for one event at a time, so that memory is full
long before a queue is too long for it. -/
def Limiting.counting (bucket : Call → Except Panic String)
    (exempts : Call → Except Panic Bool) : Limiting RateLimit.Sliding where
  allow key now limiter :=
    let (yes, next) := limiter.grant key 1 now
    (.ok yes, next)
  bucket
  exempts

/-- What a caller learns of a full bucket. -/
def Status.limited (key : String) : Status :=
  ⟨.resourceExhausted, "rate limit exceeded for key: " ++ key⟩

/-- Keeps back a call if its bucket is full. The call passes if the limiter fails. -/
def Limiting.asking (limit : Limiting σ) (key : String) : Layer σ := fun inner call around =>
  let (answer, state) := limit.allow key around.clock around.limiter
  let asked := { around with limiter := state }
  match answer with
  | .ok true => inner call asked
  | .ok false =>
      (.replied (.ofStatus (.limited key)),
        asked.report .warn "Rate limit exceeded"
          [("key", .text key), ("method", .text call.method)])
  | .error fault =>
      inner call (asked.report .error "Rate limiter error, allowing request"
        [("key", .text key), ("error", .text fault.message)])

/-- Asks a limiter about every call that is to count. -/
def limiting (limit : Limiting σ) : Layer σ := fun inner call around =>
  match limit.exempts call with
  | .error panic => (.panicked panic, around)
  | .ok true => inner call around
  | .ok false =>
      match limit.bucket call with
      | .error panic => (.panicked panic, around)
      | .ok key => limit.asking key inner call around

/-- What an interceptor makes of the metadata of a call. -/
inductive Verdict
  | passes (metadata : Metadata)
  | rejects (conclusion : Conclusion)
  | panics (panic : Panic)
deriving DecidableEq, Repr

abbrev Interceptor := Metadata → Verdict

namespace Interceptor

/-- Runs an interceptor, and notes what it was shown. -/
def run (interceptor : Interceptor) (place : Place) (metadata : Metadata)
    (around : Surroundings σ) : Verdict × Surroundings σ :=
  (interceptor metadata,
    { around with intercepted := around.intercepted ++ [(place, metadata)] })

/-- Runs interceptors in turn, each on what the one before left, until one does not pass. They are
numbered from the given number on. -/
def chain (number : Nat) :
    List Interceptor → Metadata → Surroundings σ → Verdict × Surroundings σ
  | [], metadata, around => (.passes metadata, around)
  | first :: rest, metadata, around =>
      match first.run (.custom number) metadata around with
      | (.passes next, after) => chain (number + 1) rest next after
      | stopped => stopped

end Interceptor

/-- Lets interceptors decide on every call. -/
def intercepting (decide : Metadata → Surroundings σ → Verdict × Surroundings σ) : Layer σ :=
  fun inner call around =>
    match decide call.metadata around with
    | (.passes metadata, after) => inner { call with metadata } after
    | (.rejects conclusion, after) => (.replied (.ofConclusion conclusion), after)
    | (.panics panic, after) => (.panicked panic, after)

/-- The interceptor that notes the language of a call. -/
def Negotiation.interceptor (negotiation : Negotiation) : Interceptor := fun metadata =>
  .passes (negotiation.apply metadata)

end Backplane.Rpc
