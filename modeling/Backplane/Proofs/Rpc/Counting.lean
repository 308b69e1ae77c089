import Backplane.Proofs.Rpc.Breakdown

namespace Backplane.Rpc

open Metrics

variable {σ : Type}

def Outcome.isPanicked : Outcome → Bool
  | .panicked _ => true
  | _ => false

/-- A breakdown came through if the outcome is one. -/
theorem Outcome.isPanicked_iff {outcome : Outcome} :
    outcome.isPanicked = true ↔ ∃ panic, outcome = .panicked panic := by
  cases outcome <;> simp [isPanicked]

/-- A call that was answered: what the caller got, and whether something broke down over it. -/
structure Answered where
  method : String
  outcome : Outcome
  broken : Bool

/-- The caller got no reply, or one that tells of an error. -/
def Answered.failed (call : Answered) : Bool := call.outcome.code ≠ .ok

/-- A registry counts every call once, by its method and by how it ended. -/
structure Counts (registry : Registry) (calls : List Answered) : Prop where
  requests : ∀ method, registry.requestCount method true + registry.requestCount method false =
    calls.countP (·.method = method)
  failures : ∀ method, registry.requestCount method false =
    calls.countP fun call => call.method = method && call.failed
  durations : ∀ method, registry.durationCount method = calls.countP (·.method = method)
  errors : registry.errorCount "grpc" = calls.countP (·.failed)

namespace Stack

/-- What is made of a visit. -/
def account (stack : Stack σ) (visit : Visit) (around : Surroundings σ) : Answered where
  method := visit.call.method
  outcome := (stack.serve visit around).1
  broken := (stack.bare.serve visit around).1.isPanicked

/-- What is made of visits one after another. -/
def accounts : List (Stack σ × Visit) → Surroundings σ → List Answered
  | [], _ => []
  | (stack, visit) :: visits, around =>
      stack.account visit around :: accounts visits (stack.serve visit around).2

/-- Callers get what the accounts say. -/
theorem outcome_accounts (visits : List (Stack σ × Visit)) (around : Surroundings σ) :
    (accounts visits around).map (·.outcome) = (serveEach visits around).1 := by
  induction visits generalizing around with
  | nil => rfl
  | cons entry visits ih =>
      simp only [accounts, serveEach, List.map_cons, ih]
      rfl

end Stack

section Measuring

variable {call : Answered}

/-- What is measured of a call that was answered, by whether it failed. -/
theorem Answered.measurements_eq (calm : call.outcome.isPanicked = false) (span : Span) :
    call.outcome.measurements call.method span =
      if call.failed then
        [.duration call.method span, .request call.method false,
          .error "grpc" call.outcome.code.name]
      else [.duration call.method span, .request call.method true] := by
  cases outcome : call.outcome with
  | panicked panic => simp [outcome, Outcome.isPanicked] at calm
  | replied reply => simp [Outcome.measurements, Answered.failed, outcome]
  | lost reason => simp [Outcome.measurements, Answered.failed, outcome]

variable (registry : Registry) (span : Span) (calm : call.outcome.isPanicked = false)
include calm

/-- The measurements of a call add one to the requests of its method that ended alike. -/
theorem requestCount_measured (method : String) (success : Bool) :
    (registry.recordAll (call.outcome.measurements call.method span)).requestCount method
        success =
      registry.requestCount method success +
        if call.method = method ∧ call.failed = !success then 1 else 0 := by
  rw [call.measurements_eq calm]
  cases call.failed <;> cases success <;>
    simp [Registry.recordAll, Registry.record, Registry.requestCount, Tally.count_add]

/-- The measurements of a call add one to the durations of its method. -/
theorem durationCount_measured (method : String) :
    (registry.recordAll (call.outcome.measurements call.method span)).durationCount method =
      registry.durationCount method + if call.method = method then 1 else 0 := by
  rw [call.measurements_eq calm]
  cases call.failed <;>
    simp [Registry.recordAll, Registry.record, Registry.durationCount, Durations.total_observe]

/-- The measurements of a call add one to the errors if it failed. -/
theorem errorCount_measured :
    (registry.recordAll (call.outcome.measurements call.method span)).errorCount "grpc" =
      registry.errorCount "grpc" + if call.failed then 1 else 0 := by
  rw [call.measurements_eq calm]
  cases call.failed <;>
    simp [Registry.recordAll, Registry.record, Registry.errorCount, Tally.countWhere_add]

end Measuring

namespace Counts

variable {registry : Registry} {calls : List Answered}

theorem empty (space : String) : Counts { space } [] :=
  ⟨fun _ => rfl, fun _ => rfl, fun _ => rfl, rfl⟩

/-- The measurements that are taken of an outcome count one more call. -/
theorem record (counts : Counts registry calls) (call : Answered) (span : Span)
    (calm : call.outcome.isPanicked = false) :
    Counts (registry.recordAll (call.outcome.measurements call.method span))
      (calls ++ [call]) where
  requests := by
    intro method
    rw [requestCount_measured _ _ calm, requestCount_measured _ _ calm, List.countP_append,
      List.countP_singleton, ← counts.requests]
    by_cases here : call.method = method <;> cases call.failed <;> simp [here] <;> omega
  failures := by
    intro method
    rw [requestCount_measured _ _ calm, List.countP_append, List.countP_singleton,
      ← counts.failures]
    simp
  durations := by
    intro method
    rw [durationCount_measured _ _ calm, List.countP_append, List.countP_singleton,
      ← counts.durations]
    simp
  errors := by
    rw [errorCount_measured _ _ calm, List.countP_append, List.countP_singleton, ← counts.errors]

/-- A registry that counts the calls over which nothing broke down counts all calls exactly if
there are no others. -/
theorem all (counts : Counts registry (calls.filter (!·.broken))) :
    Counts registry calls ↔ ∀ call ∈ calls, call.broken = false := by
  constructor
  · intro complete call listed
    have apart := calls.countP_eq_countP_filter_add (·.method = call.method) (!·.broken)
    rw [← counts.requests, ← complete.requests, Nat.left_eq_add, List.countP_eq_zero] at apart
    by_contra broken
    exact apart call (by simpa [listed] using broken) (by simp)
  · intro calm
    have everything : calls.filter (!·.broken) = calls :=
      List.filter_eq_self.mpr fun call listed => by simp [calm call listed]
    rwa [everything] at counts

end Counts

namespace Stack

variable {stack : Stack σ} {registry : Registry} {past : List Answered}

/-- A collector that registers records in its registry. -/
theorem foldl_registering (registry : Registry) (measurements : List Measurement) :
    measurements.foldl .record (.registering registry) =
      Collector.registering (registry.recordAll measurements) := by
  induction measurements generalizing registry with
  | nil => rfl
  | cons measurement rest ih => exact ih (registry.record measurement)

/-- Without recovery, what the metrics learn of a visit is what its caller learns. -/
theorem collector_bare (metered : stack.metrics = true) (visit : Visit)
    (around : Surroundings σ) : ∃ span,
      (stack.bare.serve visit around).2.collector =
        ((stack.bare.serve visit around).1.measurements visit.call.method span).foldl .record
          around.collector := by
  obtain ⟨course, takes⟩ :=
    exists_takes stack.bare visit.call (around.wait visit.pause).clock around.limiter
  have follows : stack.bare.Follows visit around course := takes.follows
  have same : (stack.bare.serve visit around).1 = course.outcome visit.handler visit.call := by
    refine follows.outcome.trans ?_
    cases course.outcome visit.handler visit.call <;> rfl
  have metered : stack.bare.metrics = true := metered
  refine ⟨course.took visit.handler visit.call, ?_⟩
  rw [follows.measured, metered, if_pos rfl, same]

/-- Recovery keeps what the metrics learned. -/
theorem collector_of_recovery (guards : stack.recovery = true) (visit : Visit)
    (around : Surroundings σ) :
    (stack.serve visit around).2.collector =
      (stack.bare.serve visit around).2.collector := by
  unfold serve
  rw [wrap_of_recovery guards]
  unfold recovering
  rcases wrap _ _ _ _ with ⟨reply | reason | panic, after⟩
  · rfl
  · rfl
  · dsimp only
    cases panic.dropped stack.destructor <;> rfl

/-- A visit is counted unless something breaks down over it. -/
theorem counts_serve (guards : stack.recovery = true) (metered : stack.metrics = true)
    (visit : Visit) {around : Surroundings σ} (collects : around.collector = .registering registry)
    (counts : Counts registry past) : ∃ after,
      (stack.serve visit around).2.collector = .registering after ∧
        Counts after (past ++ [stack.account visit around].filter (!·.broken)) := by
  obtain ⟨span, measured⟩ := collector_bare metered visit around
  rw [collects, foldl_registering, ← collector_of_recovery guards] at measured
  refine ⟨_, measured, ?_⟩
  cases broken : (stack.account visit around).broken with
  | true =>
      -- What the metrics see is the breakdown itself, of which nothing is measured.
      obtain ⟨panic, panicked⟩ := Outcome.isPanicked_iff.mp broken
      rw [panicked, List.filter_singleton, broken]
      simpa [Outcome.measurements, Registry.recordAll] using counts
  | false =>
      have calm : (stack.bare.serve visit around).1.isPanicked = false := broken
      have served : stack.serve visit around = stack.bare.serve visit around := by
        rw [serve, wrap_of_recovery guards]
        exact recovering_of_calm fun panic panicked =>
          Bool.false_ne_true (calm.symm.trans (Outcome.isPanicked_iff.mpr ⟨panic, panicked⟩))
      rw [List.filter_singleton, broken, ← served]
      rw [← served] at calm
      exact counts.record (stack.account visit around) span calm

/-- Of a run, every call is counted over which nothing breaks down. -/
theorem counts_serveEach {visits : List (Stack σ × Visit)}
    (guards : ∀ entry ∈ visits, entry.1.recovery = true ∧ entry.1.metrics = true)
    {around : Surroundings σ} (collects : around.collector = .registering registry)
    (counts : Counts registry past) : ∃ after,
      (serveEach visits around).2.collector = .registering after ∧
        Counts after (past ++ (accounts visits around).filter (!·.broken)) := by
  induction visits generalizing around registry past with
  | nil => exact ⟨registry, collects, by simpa [accounts] using counts⟩
  | cons entry visits ih =>
      obtain ⟨stack, visit⟩ := entry
      obtain ⟨guarded, metered⟩ := guards _ List.mem_cons_self
      obtain ⟨between, collects, counts⟩ := counts_serve guarded metered visit collects counts
      obtain ⟨after, collects, counts⟩ :=
        ih (fun entry listed => guards entry (List.mem_cons_of_mem _ listed)) collects counts
      refine ⟨after, collects, ?_⟩
      rw [List.append_assoc, ← List.filter_append] at counts
      exact counts

/-- A caller over whose call something breaks down gets the one reply, unless a second breakdown
takes it away. -/
theorem outcome_of_broken {visits : List (Stack σ × Visit)}
    (guards : ∀ entry ∈ visits, entry.1.recovery = true) (around : Surroundings σ) :
    ∀ call ∈ accounts visits around, call.broken = true → call.outcome.isPanicked = false →
      call.outcome = .replied (.ofStatus ⟨.internal, "internal server error"⟩) := by
  induction visits generalizing around with
  | nil => nofun
  | cons entry visits ih =>
      obtain ⟨stack, visit⟩ := entry
      obtain ⟨guarded, others⟩ := List.forall_mem_cons.mp guards
      intro call listed broken answered
      rcases List.mem_cons.mp listed with rfl | later
      · obtain ⟨panic, panicked⟩ := Outcome.isPanicked_iff.mp broken
        revert answered
        unfold account serve
        rw [wrap_of_recovery guarded]
        intro answered
        cases released : panic.dropped stack.destructor with
        | none => exact recovering_of_panicked panicked released
        | some second =>
            have escaped := recovering_panicked_iff.mpr ⟨panic, panicked, released⟩
            rw [escaped] at answered
            cases answered
      · exact ih others _ call later broken answered

/-- No second breakdown comes to a caller where everything can be let go. -/
theorem answered_of_recovers {visits : List (Stack σ × Visit)} (recovers : Recovers visits)
    (around : Surroundings σ) :
    ∀ call ∈ accounts visits around, call.outcome.isPanicked = false := by
  induction visits generalizing around with
  | nil => nofun
  | cons entry visits ih =>
      obtain ⟨stack, visit⟩ := entry
      obtain ⟨⟨guards, tidy⟩, others⟩ := List.forall_mem_cons.mp recovers
      intro call listed
      rcases List.mem_cons.mp listed with rfl | later
      · rw [Bool.eq_false_iff, Ne, Outcome.isPanicked_iff]
        rintro ⟨panic, escaped⟩
        exact serve_ne_panicked guards tidy visit around panic escaped
      · exact ih others _ call later

/-- Over every run of servers with recovery and metrics, the metrics count each call once, by its
method and by how it ended, but for the calls over which something broke down: of those they know
nothing, although their callers got an error. So they count all calls exactly if nothing breaks
down. -/
theorem metrics_count_unbroken (visits : List (Stack σ × Visit))
    (guards : ∀ entry ∈ visits, entry.1.recovery = true ∧ entry.1.metrics = true)
    (around : Surroundings σ) (space : String)
    (fresh : around.collector = .registering { space }) :
    let calls := accounts visits around
    calls.map (·.outcome) = (serveEach visits around).1 ∧
      (∀ call ∈ calls, call.broken = true → call.outcome.isPanicked = false →
        call.outcome = .replied (.ofStatus ⟨.internal, "internal server error"⟩)) ∧
      ((∀ entry ∈ visits, entry.1.destructor = none) →
        ∀ call ∈ calls, call.outcome.isPanicked = false) ∧
      ∃ registry, (serveEach visits around).2.collector = .registering registry ∧
        Counts registry (calls.filter (!·.broken)) ∧
        (Counts registry calls ↔ ∀ call ∈ calls, call.broken = false) := by
  intro calls
  obtain ⟨registry, collects, counts⟩ := counts_serveEach guards fresh (Counts.empty space)
  exact ⟨outcome_accounts visits around,
    outcome_of_broken (fun entry listed => (guards entry listed).1) around,
    fun tidy => answered_of_recovers
      (fun entry listed => ⟨(guards entry listed).1, tidy entry listed⟩) around,
    registry, collects, counts, counts.all⟩

/-- A server that recovers and measures. -/
def watched : Stack Unit := { recovery := true, metrics := true }

/-- A call that got no reply is counted as an error. -/
theorem metrics_count_unbroken_lost :
    let visit : Visit := ⟨⟨0⟩, { target := "/a" }, fun _ => { outcome := .lost "gone" }⟩
    let around : Surroundings Unit :=
      { limiter := (), collector := .registering { space := "m" } }
    ∃ registry, (serveEach [(watched, visit)] around).2.collector = .registering registry ∧
      registry.requestCount "/a" true = 0 ∧ registry.requestCount "/a" false = 1 ∧
      registry.durationCount "/a" = 1 ∧ registry.errorCount "grpc" = 1 := by
  intro visit around
  obtain ⟨-, -, -, registry, collects, -, complete⟩ :=
    metrics_count_unbroken [(watched, visit)] (by simp [watched]) around "m" rfl
  have calm : ∀ call ∈ accounts [(watched, visit)] around, call.broken = false := by
    simp [accounts, account]
    rfl
  have counts := complete.mpr calm
  have failures : registry.requestCount "/a" false = 1 :=
    (counts.failures "/a").trans (by decide)
  have requests : registry.requestCount "/a" true + registry.requestCount "/a" false = 1 :=
    (counts.requests "/a").trans (by decide)
  exact ⟨registry, collects, by omega, failures, (counts.durations "/a").trans (by decide),
    counts.errors.trans (by decide)⟩

/-- A call whose handler breaks down is answered with an error, and counted nowhere. -/
theorem broken_call_uncounted :
    let visit : Visit :=
      ⟨⟨0⟩, { target := "/a" }, fun _ => { outcome := .panicked (.fixed "static boom") }⟩
    let around : Surroundings Unit :=
      { limiter := (), collector := .registering { space := "m" } }
    ∃ registry, (serveEach [(watched, visit)] around).2.collector = .registering registry ∧
      (accounts [(watched, visit)] around).countP (·.method = "/a") = 1 ∧
      registry.requestCount "/a" true + registry.requestCount "/a" false = 0 ∧
      ¬ Counts registry (accounts [(watched, visit)] around) := by
  intro visit around
  have called : (accounts [(watched, visit)] around).countP (·.method = "/a") = 1 := by decide
  refine ⟨_, rfl, called, rfl, fun counts => ?_⟩
  have counted := counts.requests "/a"
  rw [called] at counted
  cases counted

end Stack

end Backplane.Rpc
