/-
This file says how a call comes through the layers of a server, apart from the layers themselves:
whether the limiter lets it on, which interceptors are run on what, which call a handler gets, and
what the caller, the log and the metrics learn of it.
-/

import Backplane.Rpc.Stack

namespace Backplane.Rpc

/-- A status and what travels with it can be read from a reply: code and message, the details
behind their letters, and the metadata, but for the names that are kept for the status. -/
structure Reply.Carries (reply : Reply) (conclusion : Conclusion) : Prop where
  code : reply.code = conclusion.code
  message : reply.message? =
    if conclusion.message.isEmpty then none else some conclusion.message
  details : conclusion.details ≠ [] → ∃ letters,
    reply.headers.values detailsName = [letters] ∧
      Text.base64Decode? letters = some conclusion.details
  metadata : ∀ name ∉ reserved, (name = detailsName → conclusion.details = []) →
    reply.headers.values name = conclusion.metadata.values name
  body : reply.body = []

/-- Interceptors run in their order, each on what the one before left, up to the first that does
not pass. `seen` is what those that run are shown. -/
inductive Interceptor.Runs : List Interceptor → Metadata → (seen : List Metadata) → Verdict → Prop
  | done {metadata : Metadata} : Runs [] metadata [] (.passes metadata)
  | passed {first : Interceptor} {rest : List Interceptor} {metadata next : Metadata}
      {seen : List Metadata} {verdict : Verdict} (passes : first metadata = .passes next)
      (onward : Runs rest next seen verdict) :
      Runs (first :: rest) metadata (metadata :: seen) verdict
  | rejected {first : Interceptor} {rest : List Interceptor} {metadata : Metadata}
      {conclusion : Conclusion} (rejects : first metadata = .rejects conclusion) :
      Runs (first :: rest) metadata [metadata] (.rejects conclusion)
  | broken {first : Interceptor} {rest : List Interceptor} {metadata : Metadata} {panic : Panic}
      (panics : first metadata = .panics panic) :
      Runs (first :: rest) metadata [metadata] (.panics panic)

/-- A limiter counts a call against a bucket. -/
structure Limiting.Counts {σ : Type} (limit : Limiting σ) (call : Call) (key : String) : Prop where
  counts : limit.exempts call = .ok false
  chosen : limit.bucket call = .ok key

/-- How far a call comes: the limiter turns it away, a function of the limiter breaks down, or
interceptors decide on it. -/
inductive Course
  | refused (key : String)
  | broken (panic : Panic)
  | intercepted (seen : List Metadata) (verdict : Verdict)

namespace Course

/-- The call that a handler gets: the one that came in, with the metadata that interceptors left. -/
def reached? (course : Course) (call : Call) : Option Call :=
  match course with
  | .intercepted _ (.passes metadata) => some { call with metadata }
  | _ => none

/-- What comes of a call before anything is recovered. -/
def outcome (course : Course) (handler : Handler) (call : Call) : Outcome :=
  match course with
  | .refused key => .replied (.ofStatus (.limited key))
  | .broken panic => .panicked panic
  | .intercepted _ (.passes metadata) => (handler { call with metadata }).outcome
  | .intercepted _ (.rejects conclusion) => .replied (.ofConclusion conclusion)
  | .intercepted _ (.panics panic) => .panicked panic

/-- How long a call takes: only handlers need time. -/
def took (course : Course) (handler : Handler) (call : Call) : Span :=
  match course.reached? call with
  | some reached => (handler reached).took
  | none => ⟨0⟩

end Course

namespace Outcome

/-- What metrics learn of an outcome. -/
def measurements (outcome : Outcome) (method : String) (span : Span) : List Metrics.Measurement :=
  match outcome with
  | .panicked _ => []
  | answered =>
      if answered.code = .ok then [.duration method span, .request method true]
      else [.duration method span, .request method false, .error "grpc" answered.code.name]

/-- What the log learns of an outcome. -/
def reports (outcome : Outcome) (scope : Log.Scope) : List Log.Event :=
  match outcome with
  | .replied reply =>
      if reply.code = .ok then
        [{ level := .info, fields := [("message", .text "gRPC request completed")],
           scope := some scope }]
      else
        [{ level := .error
           fields :=
            [("message", .text "gRPC request failed"), ("code", .text reply.code.name),
              ("message", .text (reply.message?.getD ""))]
           scope := some scope }]
  | .lost reason =>
      [{ level := .error
         fields := [("message", .text "gRPC transport error"), ("error", .text reason)]
         scope := some scope }]
  | .panicked _ => []

end Outcome

namespace Stack

variable {σ : Type} (stack : Stack σ) (call : Call) (now : Nat) (state : σ)

/-- The limiter lets a call on: there is none, it is not to count the call, it has room, or it
fails. -/
inductive Admits : Prop
  | unlimited (absent : stack.limit = none)
  | exempt {limit : Limiting σ} (present : stack.limit = some limit)
      (exempts : limit.exempts call = .ok true)
  | allowed {limit : Limiting σ} {key : String} (present : stack.limit = some limit)
      (counted : limit.Counts call key) (answer : (limit.allow key now state).1 = .ok true)
  | failed {limit : Limiting σ} {key : String} {fault : Fault}
      (present : stack.limit = some limit) (counted : limit.Counts call key)
      (answer : (limit.allow key now state).1 = .error fault)

/-- The limiter turns a call away, because its bucket is full. -/
inductive Refuses (key : String) : Prop
  | full {limit : Limiting σ} (present : stack.limit = some limit)
      (counted : limit.Counts call key) (answer : (limit.allow key now state).1 = .ok false)

/-- A function that tells the limiter about a call breaks down. -/
inductive Breaks (panic : Panic) : Prop
  | exempting {limit : Limiting σ} (present : stack.limit = some limit)
      (broken : limit.exempts call = .error panic)
  | choosing {limit : Limiting σ} (present : stack.limit = some limit)
      (counts : limit.exempts call = .ok false) (broken : limit.bucket call = .error panic)

/-- What the interceptors of the application find: the language is resolved already, if it is to
be. -/
def greeted (metadata : Metadata) : Metadata :=
  match stack.language with
  | some negotiation =>
      { metadata with language := some (negotiation.resolve metadata.headers) }
  | none => metadata

/-- The course that a call takes at a time, with the limiter in a state. -/
inductive Takes : Course → Prop
  | refused {key : String} (refuses : stack.Refuses call now state key) : Takes (.refused key)
  | broken {panic : Panic} (breaks : stack.Breaks call panic) : Takes (.broken panic)
  | intercepted {seen : List Metadata} {verdict : Verdict} (admits : stack.Admits call now state)
      (runs : Interceptor.Runs stack.custom (stack.greeted call.metadata) seen verdict) :
      Takes (.intercepted seen verdict)

/-- What interceptors are shown on a course: the one for languages first, then those of the
application by their numbers. -/
def shown : Course → List (Interceptor.Place × Metadata)
  | .intercepted seen _ =>
      (if stack.language.isSome then [(.language, call.metadata)] else []) ++
        seen.zipIdx.map fun (metadata, number) => (.custom number, metadata)
  | _ => []

/-- What a caller gets: with recovery, nothing of a breakdown but that there was one, if what it
left behind can be let go. -/
def answer : Outcome → Outcome
  | .panicked panic =>
      if stack.recovery then
        match panic.dropped stack.destructor with
        | some second => .panicked second
        | none => .replied (.ofStatus .broken)
      else .panicked panic
  | answered => answered

/-- What the log learns of a breakdown. -/
def recoveries (scope : Option Log.Scope) : Outcome → List Log.Event
  | .panicked panic =>
      if stack.recovery then
        [{ level := .error
           fields :=
            [("message", .text "Recovered from panic in gRPC handler"),
              ("method", .text call.method), ("panic", .text panic.message)]
           scope }]
      else []
  | _ => []

/-- What is to be seen of a visit after a course of its call. -/
structure Follows (visit : Visit) (around : Surroundings σ) (course : Course) : Prop where
  outcome : (stack.serve visit around).1 =
    stack.answer (course.outcome visit.handler visit.call)
  /-- A call that is turned away is told so, and for which bucket. -/
  refused : ∀ key, course = .refused key → ∃ reply,
    (stack.serve visit around).1 = .replied reply ∧ reply.code = .resourceExhausted ∧
      reply.message? = some ("rate limit exceeded for key: " ++ key)
  /-- A call that an interceptor rejects gets the status of the interceptor with all that goes
  with it. -/
  rejected : ∀ seen conclusion, course = .intercepted seen (.rejects conclusion) → ∃ reply,
    (stack.serve visit around).1 = .replied reply ∧ reply.Carries conclusion
  /-- Interceptors are shown what the course says, in that order, and nothing else. -/
  intercepted : (stack.serve visit around).2.intercepted =
    around.intercepted ++ stack.shown visit.call course
  /-- A handler gets the call that the course says, once, or none. -/
  handled : (stack.serve visit around).2.handled =
    around.handled ++ (course.reached? visit.call).toList.map fun reached =>
      ((around.wait visit.pause).clock, reached)
  /-- The log has the start and the outcome, however far the call came. -/
  logged : stack.logging = true →
    let scope := visit.call.scope "grpc_server"
    let outcome := course.outcome visit.handler visit.call
    ∃ between, (stack.serve visit around).2.events =
      around.events ++
        { level := .info, fields := [("message", .text "gRPC request started")],
          scope := some scope } :: between ++
        outcome.reports scope ++ stack.recoveries visit.call around.scope outcome
  /-- So have the metrics the duration and the outcome. -/
  measured : (stack.serve visit around).2.collector =
    if stack.metrics then
      ((course.outcome visit.handler visit.call).measurements visit.call.method
        (course.took visit.handler visit.call)).foldl .record around.collector
    else around.collector

end Stack

end Backplane.Rpc
