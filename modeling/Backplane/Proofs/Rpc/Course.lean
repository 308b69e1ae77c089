import Backplane.Proofs.Rpc.Admission
import Backplane.Rpc.Course

namespace Backplane.Rpc

variable {σ : Type}

namespace Interceptor

variable {interceptors : List Interceptor} {metadata : Metadata} {seen : List Metadata}
variable {verdict : Verdict}

/-- Interceptors come to some verdict. -/
theorem exists_runs (interceptors : List Interceptor) (metadata : Metadata) :
    ∃ seen verdict, Runs interceptors metadata seen verdict := by
  induction interceptors generalizing metadata with
  | nil => exact ⟨[], .passes metadata, .done⟩
  | cons first rest ih =>
      cases judged : first metadata with
      | passes next =>
          obtain ⟨seen, verdict, onward⟩ := ih next
          exact ⟨metadata :: seen, verdict, .passed judged onward⟩
      | rejects status => exact ⟨[metadata], .rejects status, .rejected judged⟩
      | panics panic => exact ⟨[metadata], .panics panic, .broken judged⟩

/-- Interceptors come to one verdict only. -/
theorem Runs.unique (runs : Runs interceptors metadata seen verdict) {others : List Metadata}
    {other : Verdict} (beside : Runs interceptors metadata others other) :
    others = seen ∧ other = verdict := by
  -- The first interceptor gives one verdict, so both derivations begin with the same rule.
  induction runs generalizing others other with
  | done =>
      cases beside
      exact ⟨rfl, rfl⟩
  | passed passes onward ih =>
      cases beside with
      | passed same onward =>
          rw [passes, Verdict.passes.injEq] at same
          subst same
          obtain ⟨rfl, rfl⟩ := ih onward
          exact ⟨rfl, rfl⟩
      | rejected rejects => rw [passes] at rejects; cases rejects
      | broken panics => rw [passes] at panics; cases panics
  | rejected rejects =>
      cases beside with
      | passed passes onward => rw [rejects] at passes; cases passes
      | rejected same =>
          rw [rejects, Verdict.rejects.injEq] at same
          exact ⟨rfl, congrArg _ same.symm⟩
      | broken panics => rw [rejects] at panics; cases panics
  | broken panics =>
      cases beside with
      | passed passes onward => rw [panics] at passes; cases passes
      | rejected rejects => rw [panics] at rejects; cases rejects
      | broken same =>
          rw [panics, Verdict.panics.injEq] at same
          exact ⟨rfl, congrArg _ same.symm⟩

/-- A chain notes what its interceptors are shown, under their numbers. -/
theorem chain_eq (runs : Runs interceptors metadata seen verdict) (number : Nat)
    (around : Surroundings σ) :
    chain number interceptors metadata around =
      (verdict,
        { around with
          intercepted := around.intercepted ++
            (seen.zipIdx number).map fun (metadata, number) => (.custom number, metadata) }) := by
  induction runs generalizing number around with
  | done => simp [chain]
  | passed passes onward ih => simp [chain, run, passes, ih]
  | rejected rejects => simp [chain, run, rejects]
  | broken panics => simp [chain, run, panics]

end Interceptor

namespace Limiting

variable {limit : Limiting σ} {call : Call} {key : String}

/-- A call that counts has a bucket. -/
theorem Counts.key? (counted : limit.Counts call key) : limit.key? call = some key :=
  key?_eq_some_iff.mpr ⟨counted.counts, counted.chosen⟩

end Limiting

namespace Stack

variable {stack : Stack σ} {call : Call} {now : Nat} {state : σ} {course : Course}

/-- Every call takes a course. -/
theorem exists_takes (stack : Stack σ) (call : Call) (now : Nat) (state : σ) :
    ∃ course, stack.Takes call now state course := by
  obtain ⟨seen, verdict, runs⟩ :=
    Interceptor.exists_runs stack.custom (stack.greeted call.metadata)
  cases present : stack.limit with
  | none => exact ⟨_, .intercepted (.unlimited present) runs⟩
  | some limit =>
      cases exempts : limit.exempts call with
      | error panic => exact ⟨_, .broken (.exempting present exempts)⟩
      | ok skips =>
          cases skips with
          | true => exact ⟨_, .intercepted (.exempt present exempts) runs⟩
          | false =>
              cases chosen : limit.bucket call with
              | error panic => exact ⟨_, .broken (.choosing present exempts chosen)⟩
              | ok key =>
                  have counted : limit.Counts call key := ⟨exempts, chosen⟩
                  rcases answer : (limit.allow key now state).1 with fault | (_ | _)
                  · exact ⟨_, .intercepted (.failed present counted answer) runs⟩
                  · exact ⟨_, .refused (.full present counted answer)⟩
                  · exact ⟨_, .intercepted (.allowed present counted answer) runs⟩

/-- The course of a call that does not come past the limiter. -/
def halted? (stack : Stack σ) (call : Call) (now : Nat) (state : σ) : Option Course :=
  match stack.limit with
  | none => none
  | some limit =>
      match limit.exempts call, limit.bucket call with
      | .error panic, _ => some (.broken panic)
      | .ok true, _ => none
      | .ok false, .error panic => some (.broken panic)
      | .ok false, .ok key =>
          match (limit.allow key now state).1 with
          | .ok false => some (.refused key)
          | _ => none

/-- A call that is let on is not halted. -/
theorem Admits.halted? (admits : stack.Admits call now state) :
    stack.halted? call now state = none := by
  rcases admits with absent | ⟨present, exempts⟩ | ⟨present, ⟨counts, chosen⟩, answer⟩ |
    ⟨present, ⟨counts, chosen⟩, answer⟩
  · simp only [Stack.halted?, absent]
  · simp only [Stack.halted?, present, exempts]
  · simp only [Stack.halted?, present, counts, chosen, answer]
  · simp only [Stack.halted?, present, counts, chosen, answer]

/-- A call that is turned away is halted. -/
theorem Refuses.halted? {key : String} (refuses : stack.Refuses call now state key) :
    stack.halted? call now state = some (.refused key) := by
  obtain ⟨present, ⟨counts, chosen⟩, answer⟩ := refuses
  simp only [Stack.halted?, present, counts, chosen, answer]

/-- A call over which a function breaks down is halted. -/
theorem Breaks.halted? {panic : Panic} (breaks : stack.Breaks call panic) (now : Nat)
    (state : σ) : stack.halted? call now state = some (.broken panic) := by
  rcases breaks with ⟨present, broken⟩ | ⟨present, counts, broken⟩
  · simp only [Stack.halted?, present, broken]
  · simp only [Stack.halted?, present, counts, broken]

/-- A call takes one course only. -/
theorem Takes.unique (takes : stack.Takes call now state course) {other : Course}
    (beside : stack.Takes call now state other) : other = course := by
  -- What the limiter does decides between the three kinds of courses.
  cases takes with
  | refused refuses =>
      cases beside with
      | refused again => exact Option.some.inj (again.halted?.symm.trans refuses.halted?)
      | broken breaks =>
          exact Option.some.inj ((breaks.halted? now state).symm.trans refuses.halted?)
      | intercepted admits runs => cases admits.halted?.symm.trans refuses.halted?
  | broken breaks =>
      cases beside with
      | refused refuses =>
          exact Option.some.inj (refuses.halted?.symm.trans (breaks.halted? now state))
      | broken again =>
          exact Option.some.inj
            ((again.halted? now state).symm.trans (breaks.halted? now state))
      | intercepted admits runs => cases admits.halted?.symm.trans (breaks.halted? now state)
  | intercepted admits runs =>
      cases beside with
      | refused refuses => cases admits.halted?.symm.trans refuses.halted?
      | broken breaks => cases admits.halted?.symm.trans (breaks.halted? now state)
      | intercepted _ again =>
          obtain ⟨rfl, rfl⟩ := runs.unique again
          rfl

/-- A limiter leaves of the surroundings all but its own state, and adds to the log. -/
structure Asked (around after : Surroundings σ) : Prop where
  clock : after.clock = around.clock
  collector : after.collector = around.collector
  scope : after.scope = around.scope
  events : ∃ between, after.events = around.events ++ between
  intercepted : after.intercepted = around.intercepted
  handled : after.handled = around.handled

section Limit

variable {around : Surroundings σ} {inner : Service σ}

/-- The limiter hands on what it lets on. -/
theorem limit_of_admits (admits : stack.Admits call around.clock around.limiter)
    (inner : Service σ) :
    ∃ after, layerFor stack.limit limiting inner call around = inner call after ∧
      Asked around after := by
  rcases admits with absent | ⟨present, exempts⟩ | ⟨present, counted, answer⟩ |
    ⟨present, counted, answer⟩
  · refine ⟨around, ?_, rfl, rfl, rfl, ⟨[], by simp⟩, rfl, rfl⟩
    simp only [layerFor, absent, id]
  · refine ⟨around, ?_, rfl, rfl, rfl, ⟨[], by simp⟩, rfl, rfl⟩
    simp only [layerFor, present, limiting_skipped exempts]
  · refine ⟨_, Eq.trans ?_ (limiting_allowed counted.key? answer), rfl, rfl, rfl, ⟨[], by simp⟩,
      rfl, rfl⟩
    simp only [layerFor, present]
  · refine ⟨_, Eq.trans ?_ (limiting_failed counted.key? answer), rfl, rfl, rfl, ⟨_, rfl⟩,
      rfl, rfl⟩
    simp only [layerFor, present]

/-- The limiter answers what it turns away. -/
theorem limit_of_refuses {key : String}
    (refuses : stack.Refuses call around.clock around.limiter key) (inner : Service σ) :
    ∃ after, layerFor stack.limit limiting inner call around =
        (.replied (.ofStatus (.limited key)), after) ∧ Asked around after := by
  obtain @⟨limit, present, counted, answer⟩ := refuses
  have refused : limiting limit inner call around = _ := limiting_refused counted.key? answer
  refine ⟨_, Eq.trans ?_ refused, rfl, rfl, rfl, ⟨_, rfl⟩, rfl, rfl⟩
  simp only [layerFor, present]

/-- The limiter breaks down with its functions. -/
theorem limit_of_breaks {panic : Panic} (breaks : stack.Breaks call panic) (inner : Service σ)
    (around : Surroundings σ) :
    layerFor stack.limit limiting inner call around = (.panicked panic, around) := by
  rcases breaks with ⟨present, broken⟩ | ⟨present, counts, broken⟩
  · simp only [layerFor, present, limiting, broken]
  · simp only [layerFor, present, limiting, counts, broken]

end Limit

/-- The interceptors of a stack are shown the call one after another; the last verdict decides. -/
theorem inside_eq {seen : List Metadata} {verdict : Verdict}
    (runs : Interceptor.Runs stack.custom (stack.greeted call.metadata) seen verdict)
    (inner : Service σ) (around : Surroundings σ) :
    stack.inside inner call around =
      intercepting (fun _ around => (verdict,
        { around with
          intercepted := around.intercepted ++ stack.shown call (.intercepted seen verdict) }))
        inner call around := by
  unfold inside
  cases language : stack.language with
  | none =>
      rw [greeted, language] at runs
      simp only [layerFor, language, id, intercepting, Interceptor.chain_eq runs, shown,
        Option.isSome_none, Bool.false_eq_true, if_false, List.nil_append]
  | some negotiation =>
      rw [greeted, language] at runs
      simp only [layerFor, language, intercepting, Interceptor.run, Negotiation.interceptor,
        Negotiation.apply, Interceptor.chain_eq runs, shown, Option.isSome_some, if_true,
        List.append_assoc]

/-- What a course leaves of the surroundings, apart from the measurements. -/
structure Leaves (stack : Stack σ) (handler : Handler) (call : Call) (course : Course)
    (around after : Surroundings σ) : Prop where
  clock : after.clock = around.clock + (course.took handler call).nanoseconds
  scope : after.scope = around.scope
  events : ∃ between, after.events = around.events ++ between
  intercepted : after.intercepted = around.intercepted ++ stack.shown call course
  handled : after.handled =
    around.handled ++ (course.reached? call).toList.map fun reached => (around.clock, reached)

/-- The limiter and the interceptors let every call take its course. -/
theorem Takes.served {around : Surroundings σ}
    (takes : stack.Takes call around.clock around.limiter course) (handler : Handler) :
    ∃ after,
      layerFor stack.limit limiting (stack.inside (.ofHandler handler)) call around =
          (course.outcome handler call, after) ∧
        after.collector = around.collector ∧ stack.Leaves handler call course around after := by
  cases takes with
  | refused refuses =>
      obtain ⟨after, served, asked⟩ := limit_of_refuses refuses (stack.inside (.ofHandler handler))
      refine ⟨after, served, asked.collector, asked.clock, asked.scope, asked.events, ?_, ?_⟩
      · simp [asked.intercepted, shown]
      · simp [asked.handled, Course.reached?]
  | broken breaks =>
      refine ⟨around, limit_of_breaks breaks _ around, rfl, rfl, rfl, ⟨[], by simp⟩, ?_, ?_⟩
      · simp [shown]
      · simp [Course.reached?]
  | @intercepted seen verdict admits runs =>
      obtain ⟨asked, served, same⟩ := limit_of_admits admits (stack.inside (.ofHandler handler))
      rw [served, inside_eq runs]
      cases verdict with
      | passes metadata =>
          refine ⟨_, rfl, same.collector, ?_, same.scope, same.events, ?_, ?_⟩
          · rw [← same.clock]
            rfl
          · rw [← same.intercepted]
            rfl
          · rw [← same.handled, ← same.clock]
            rfl
      | rejects status =>
          refine ⟨_, rfl, same.collector, same.clock, same.scope, same.events, ?_, ?_⟩
          · rw [← same.intercepted]
          · simp [same.handled, Course.reached?]
      | panics panic =>
          refine ⟨_, rfl, same.collector, same.clock, same.scope, same.events, ?_, ?_⟩
          · rw [← same.intercepted]
          · simp [same.handled, Course.reached?]

end Stack

section Watching

variable (inner : Service σ) (call : Call) (around : Surroundings σ)

/-- Metrics change the measurements and nothing else. -/
theorem measuring_eq :
    measuring inner call around =
      let (outcome, after) := inner call around
      (outcome,
        { after with
          collector := (outcome.measurements call.method ⟨after.clock - around.clock⟩).foldl
            .record after.collector }) := by
  unfold measuring
  rcases inner call around with ⟨reply | reason | panic, after⟩
  · by_cases success : reply.code = .ok
    · simp [Outcome.measurements, Outcome.code, success, Surroundings.measure]
    · simp [Outcome.measurements, Outcome.code, success, Surroundings.measure]
  · simp [Outcome.measurements, Outcome.code, Surroundings.measure]
  · rfl

/-- Reports on the outcome of a call go to the end of the log. -/
theorem reportOutcome_eq (outcome : Outcome) (scope : Log.Scope)
    (inside : around.scope = some scope) :
    around.reportOutcome outcome =
      { around with events := around.events ++ outcome.reports scope } := by
  cases outcome with
  | replied reply =>
      by_cases success : reply.code = .ok <;>
        simp [Surroundings.reportOutcome, Surroundings.report, Outcome.reports, success, inside]
  | lost reason =>
      simp [Surroundings.reportOutcome, Surroundings.report, Outcome.reports, inside]
  | panicked panic => simp [Surroundings.reportOutcome, Outcome.reports]

/-- Where the call is followed in the log, it begins with a report, in a scope of its own. -/
def Surroundings.entered (around : Surroundings σ) (call : Call) : Surroundings σ :=
  ({ around with scope := some (call.scope "grpc_server") }).report .info "gRPC request started"

/-- What logging adds to a call, if it is there. -/
theorem layerIf_logging (present : Bool) :
    Stack.layerIf present logging inner call around =
      if present then
        let (outcome, after) := inner call (around.entered call)
        (outcome, { after.reportOutcome outcome with scope := around.scope })
      else inner call around := by
  cases present <;> rfl

/-- Recovery changes what the caller gets and what the log learns, and nothing else. -/
theorem recovering_eq (stack : Stack σ) :
    Stack.layerIf stack.recovery (recovering stack.destructor) inner call around =
      let (outcome, after) := inner call around
      (stack.answer outcome,
        { after with events := after.events ++ stack.recoveries call after.scope outcome }) := by
  rcases served : inner call around with ⟨reply | reason | panic, after⟩ <;>
    cases recovers : stack.recovery <;>
      simp only [Stack.layerIf, recovering, served, Stack.answer, Stack.recoveries, recovers,
        Surroundings.report, id, if_true, Bool.false_eq_true, if_false, List.append_nil]
  cases panic.dropped stack.destructor <;> rfl

end Watching

namespace Stack

variable {stack : Stack σ} {call : Call} {course : Course}

/-- What the metrics are after a course. -/
def measured (stack : Stack σ) (handler : Handler) (call : Call) (course : Course)
    (collector : Metrics.Collector) : Metrics.Collector :=
  if stack.metrics then
    ((course.outcome handler call).measurements call.method (course.took handler call)).foldl
      .record collector
  else collector

/-- With metrics around them, the limiter and the interceptors still let a call take its course. -/
theorem Takes.measured (around : Surroundings σ)
    (takes : stack.Takes call around.clock around.limiter course) (handler : Handler) :
    ∃ after,
      layerIf stack.metrics measuring
          (layerFor stack.limit limiting (stack.inside (.ofHandler handler))) call around =
          (course.outcome handler call, after) ∧
        after.collector = stack.measured handler call course around.collector ∧
        stack.Leaves handler call course around after := by
  obtain ⟨after, served, same, leaves⟩ := takes.served handler
  cases present : stack.metrics with
  | true =>
      have elapsed : after.clock - around.clock = (course.took handler call).nanoseconds := by
        rw [leaves.clock, Nat.add_sub_cancel_left]
      rw [layerIf, if_pos rfl, measuring_eq, served]
      refine ⟨_, rfl, ?_, leaves.clock, leaves.scope, leaves.events, leaves.intercepted,
        leaves.handled⟩
      rw [Stack.measured, present, if_pos rfl, elapsed, same]
  | false =>
      refine ⟨after, served, ?_, leaves⟩
      rw [Stack.measured, present, if_neg Bool.false_ne_true, same]

/-- A call that is turned away is told so, whatever recovers its breakdowns. -/
theorem told_refused {handler : Handler} {key : String} {answered : Outcome}
    (outcome : answered = stack.answer (Course.outcome (.refused key) handler call)) :
    ∃ reply, answered = .replied reply ∧ reply.code = .resourceExhausted ∧
      reply.message? = some ("rate limit exceeded for key: " ++ key) := by
  refine ⟨_, outcome, Reply.code_ofStatus _, ?_⟩
  rw [Reply.message?_ofStatus, if_neg]
  · rfl
  · simp [Status.limited]

/-- With logging around these, a call takes its course between a report of its start and one of its
outcome. -/
theorem Takes.logged (around : Surroundings σ)
    (takes : stack.Takes call around.clock around.limiter course) (handler : Handler) :
    ∃ after,
      layerIf stack.logging Rpc.logging
          (layerIf stack.metrics measuring
            (layerFor stack.limit limiting (stack.inside (.ofHandler handler)))) call around =
          (course.outcome handler call, after) ∧
        after.collector = stack.measured handler call course around.collector ∧
        after.scope = around.scope ∧
        after.intercepted = around.intercepted ++ stack.shown call course ∧
        after.handled = around.handled ++
          (course.reached? call).toList.map (fun reached => (around.clock, reached)) ∧
        (stack.logging = true → ∃ between,
          after.events = (around.entered call).events ++ between ++
            (course.outcome handler call).reports (call.scope "grpc_server")) := by
  rw [layerIf_logging]
  cases present : stack.logging with
  | true =>
      obtain ⟨after, watched, metered, leaves⟩ :=
        Takes.measured (around.entered call) takes handler
      obtain ⟨between, added⟩ := leaves.events
      rw [if_pos rfl, watched]
      refine ⟨_, rfl, ?_⟩
      -- The scope of the call is still there when the outcome is reported.
      rw [reportOutcome_eq after _ (call.scope "grpc_server") leaves.scope, added]
      exact ⟨metered, rfl, leaves.intercepted, leaves.handled, fun _ => ⟨between, rfl⟩⟩
  | false =>
      obtain ⟨after, watched, metered, leaves⟩ := Takes.measured around takes handler
      rw [if_neg Bool.false_ne_true]
      exact ⟨after, watched, metered, leaves.scope, leaves.intercepted, leaves.handled, nofun⟩

/-- All layers together let a call take its course. -/
theorem Takes.follows {visit : Visit} {around : Surroundings σ}
    (takes : stack.Takes visit.call (around.wait visit.pause).clock around.limiter course) :
    stack.Follows visit around course := by
  obtain ⟨after, within, metered, scope, intercepted, handled, reported⟩ :=
    Takes.logged (around.wait visit.pause) takes visit.handler
  have served : stack.serve visit around =
      (stack.answer (course.outcome visit.handler visit.call),
        { after with
          events := after.events ++
            stack.recoveries visit.call after.scope
              (course.outcome visit.handler visit.call) }) := by
    refine (recovering_eq _ visit.call (around.wait visit.pause) stack).trans ?_
    rw [within]
  have outcome : (stack.serve visit around).1 =
      stack.answer (course.outcome visit.handler visit.call) := by rw [served]
  refine ⟨outcome, ?_, ?_, ?_, ?_, ?_, ?_⟩
  · rintro key rfl
    exact told_refused outcome
  · rintro seen conclusion rfl
    exact ⟨_, outcome, Reply.carries_ofConclusion conclusion⟩
  · rw [served]
    exact intercepted
  · rw [served]
    exact handled
  · intro logging
    obtain ⟨between, added⟩ := reported logging
    refine ⟨between, ?_⟩
    rw [served]
    simp [added, scope, Surroundings.entered, Surroundings.report, Surroundings.wait]
  · rw [served]
    exact metered

/-- A handler is reached where the limiter lets a call on and every interceptor passes it. -/
theorem Takes.reached_iff (takes : stack.Takes call now state course) :
    (course.reached? call).isSome = true ↔
      stack.Admits call now state ∧
        ∃ seen last,
          Interceptor.Runs stack.custom (stack.greeted call.metadata) seen (.passes last) := by
  constructor
  · intro reached
    cases takes with
    | refused refuses => cases reached
    | broken breaks => cases reached
    | @intercepted seen verdict admits runs =>
        cases verdict with
        | passes last => exact ⟨admits, seen, last, runs⟩
        | rejects status => cases reached
        | panics panic => cases reached
  · rintro ⟨admits, seen, last, runs⟩
    obtain rfl := takes.unique (.intercepted admits runs)
    rfl

/-- Every call takes exactly one course through the layers of a server, whichever of them it has,
whatever its functions answer and whatever the limiter does. The caller, the interceptors, the
handler, the log and the metrics see of it what the course says; so a handler gets a call, once,
if the limiter lets it on and every interceptor passes it, and not otherwise. -/
theorem serve_follows_course (stack : Stack σ) (visit : Visit) (around : Surroundings σ) :
    let arrived := around.wait visit.pause
    let served := (stack.serve visit around).2
    ∃ course, stack.Takes visit.call arrived.clock arrived.limiter course ∧
      (∀ other, stack.Takes visit.call arrived.clock arrived.limiter other → other = course) ∧
      stack.Follows visit around course ∧
      (served.handled.length = around.handled.length + 1 ∨
        served.handled.length = around.handled.length) ∧
      (served.handled.length = around.handled.length + 1 ↔
        stack.Admits visit.call arrived.clock arrived.limiter ∧
          ∃ seen last,
            Interceptor.Runs stack.custom (stack.greeted visit.call.metadata) seen
              (.passes last)) := by
  intro arrived served
  obtain ⟨course, takes⟩ := exists_takes stack visit.call arrived.clock arrived.limiter
  have follows : stack.Follows visit around course := takes.follows
  have counted : served.handled.length =
      around.handled.length + (course.reached? visit.call).toList.length := by
    rw [follows.handled, List.length_append, List.length_map]
  refine ⟨course, takes, fun other beside => takes.unique beside, follows, ?_, ?_⟩
  · rw [counted]
    cases course.reached? visit.call with
    | none => exact .inr rfl
    | some reached => exact .inl rfl
  · rw [← takes.reached_iff, counted]
    cases course.reached? visit.call with
    | none => simp
    | some reached => simp

/-- What a caller without a token is told. -/
def tokenless : Conclusion :=
  { code := .unauthenticated, message := "missing token", details := [8, 16],
    metadata := [("www-authenticate", Headers.bytes "Bearer")] }

/-- A server that lets each caller call twice in ten seconds, resolves languages, marks calls and
asks for a token. -/
def marking : Stack RateLimit.Sliding :=
  { logging := true, metrics := true, language := some (.new "accept-language" .english)
    limit := some (.counting (fun call => .ok (Bucket.ofPeer call)) fun _ => .ok false)
    custom :=
      [fun metadata =>
        .passes { metadata with headers := metadata.headers.append "x-mark" (Headers.bytes "a") },
      fun metadata =>
        if metadata.headers.has "x-token" then .passes metadata else .rejects tokenless] }

/-- A call with a token comes to the handler; one without is told what is missing. -/
theorem serve_follows_course_token :
    let around : Surroundings RateLimit.Sliding := { limiter := .new 2 10000000000 0 }
    let visit (headers : Headers) : Visit :=
      ⟨⟨5⟩, { target := "/a", metadata := { headers } }, fun _ => { outcome := .replied {} }⟩
    let known := visit [("x-token", [1]), ("accept-language", Headers.bytes "ja")]
    let arrived := around.wait ⟨5⟩
    marking.Admits known.call arrived.clock arrived.limiter ∧
      (∃ seen last, Interceptor.Runs marking.custom (marking.greeted known.call.metadata) seen
        (.passes last) ∧ seen.length = 2 ∧ last.headers.length = 3) ∧
      (marking.serve known around).2.handled.length = 1 ∧
      (marking.serve (visit []) around).2.handled = [] ∧
      ∃ reply, (marking.serve (visit []) around).1 = .replied reply ∧
        reply.Carries tokenless := by
  intro around visit known arrived
  have room : (arrived.limiter.grant (Bucket.ofPeer (visit []).call) 1 arrived.clock).1 = true := by
    decide +kernel
  have allowed : marking.Admits known.call arrived.clock arrived.limiter :=
    .allowed rfl ⟨rfl, rfl⟩ (congrArg Except.ok room)
  have admits : marking.Admits (visit []).call arrived.clock arrived.limiter :=
    .allowed rfl ⟨rfl, rfl⟩ (congrArg Except.ok room)
  have runs : Interceptor.Runs marking.custom (marking.greeted known.call.metadata) _
      (.passes _) := .passed rfl (.passed (by rfl) .done)
  have stops : Interceptor.Runs marking.custom (marking.greeted (visit []).call.metadata) _
      (.rejects tokenless) := .passed rfl (.rejected (by rfl))
  refine ⟨allowed, ⟨_, _, runs, rfl, rfl⟩, ?_, ?_⟩
  · obtain ⟨-, -, -, -, -, reached⟩ := serve_follows_course marking known around
    exact reached.mpr ⟨allowed, _, _, runs⟩
  · obtain ⟨course, -, only, follows, -⟩ := serve_follows_course marking (visit []) around
    obtain rfl := only _ (.intercepted admits stops)
    exact ⟨follows.handled, follows.rejected _ _ rfl⟩

end Stack

end Backplane.Rpc
