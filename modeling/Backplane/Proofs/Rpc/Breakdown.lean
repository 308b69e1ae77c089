import Backplane.Proofs.Rpc.Course
import Backplane.Proofs.Rpc.Stages

namespace Backplane.Rpc

variable {σ : Type}

/-- What a breakdown left behind can be let go, where everything can. -/
@[simp] theorem Panic.dropped_none (panic : Panic) : panic.dropped none = none := by
  cases panic <;> rfl

namespace Stack

variable {stack : Stack σ} {handler : StagedHandler} {call : Call} {now : Nat} {state : σ}
variable {panic : Panic}

/-- A function that a server runs for a call breaks down: one that tells the limiter about the
call, an interceptor, or the handler, be it over taking the call up or later. -/
inductive Raises (stack : Stack σ) (handler : StagedHandler) (call : Call) (now : Nat)
    (state : σ) (panic : Panic) : Prop
  | telling (breaks : stack.Breaks call panic)
  | deciding {seen : List Metadata} (admits : stack.Admits call now state)
      (runs : Interceptor.Runs stack.custom (stack.greeted call.metadata) seen (.panics panic))
  | takingUp {seen : List Metadata} {last : Metadata} (admits : stack.Admits call now state)
      (runs : Interceptor.Runs stack.custom (stack.greeted call.metadata) seen (.passes last))
      (broken : handler { call with metadata := last } = .error panic)
  | working {seen : List Metadata} {last : Metadata} {handling : Handling}
      (admits : stack.Admits call now state)
      (runs : Interceptor.Runs stack.custom (stack.greeted call.metadata) seen (.passes last))
      (taken : handler { call with metadata := last } = .ok handling)
      (broken : handling.outcome = .panicked panic)

/-- What a function raises is the outcome of every course of the call. -/
theorem Raises.outcome (raises : stack.Raises handler call now state panic) {course : Course}
    (takes : stack.Takes call now state course) :
    course.outcome handler.settled call = .panicked panic := by
  cases raises with
  | telling breaks =>
      obtain rfl := takes.unique (.broken breaks)
      rfl
  | deciding admits runs =>
      obtain rfl := takes.unique (.intercepted admits runs)
      rfl
  | takingUp admits runs broken =>
      obtain rfl := takes.unique (.intercepted admits runs)
      simp only [Course.outcome, StagedHandler.settled, broken]
  | working admits runs taken broken =>
      obtain rfl := takes.unique (.intercepted admits runs)
      simp only [Course.outcome, StagedHandler.settled, taken, broken]

/-- A course that ends in a breakdown has a function that raised it. -/
theorem Takes.raises {course : Course} (takes : stack.Takes call now state course)
    (panicked : course.outcome handler.settled call = .panicked panic) :
    stack.Raises handler call now state panic := by
  cases takes with
  | refused refuses => cases panicked
  | broken breaks =>
      cases panicked
      exact .telling breaks
  | @intercepted seen verdict admits runs =>
      cases verdict with
      | rejects status => cases panicked
      | panics panic =>
          cases panicked
          exact .deciding admits runs
      | passes last =>
          cases took : handler { call with metadata := last } with
          | error raised =>
              simp only [Course.outcome, StagedHandler.settled, took] at panicked
              cases panicked
              exact .takingUp admits runs took
          | ok handling =>
              simp only [Course.outcome, StagedHandler.settled, took] at panicked
              exact .working admits runs took panicked

section Recovering

variable {destructor : Option Panic} {inner : Service σ} {around : Surroundings σ}

/-- Recovery makes the same reply of every breakdown of which the rest can be let go. -/
theorem recovering_of_panicked (panicked : (inner call around).1 = .panicked panic)
    (released : panic.dropped destructor = none) :
    (recovering destructor inner call around).1 =
      .replied (.ofStatus ⟨.internal, "internal server error"⟩) := by
  unfold recovering
  rcases served : inner call around with ⟨outcome, after⟩
  obtain rfl : outcome = .panicked panic := by rwa [served] at panicked
  simp only [released]
  rfl

/-- Recovery has no part in a call over which nothing breaks down. -/
theorem recovering_of_calm (calm : ∀ panic, (inner call around).1 ≠ .panicked panic) :
    recovering destructor inner call around = inner call around := by
  unfold recovering
  rcases served : inner call around with ⟨reply | reason | panic, after⟩
  · rfl
  · rfl
  · exact absurd (congrArg Prod.fst served) (calm panic)

/-- All that comes through recovery is a breakdown over letting go what the first one left. -/
theorem recovering_panicked_iff {second : Panic} :
    (recovering destructor inner call around).1 = .panicked second ↔
      ∃ panic, (inner call around).1 = .panicked panic ∧
        panic.dropped destructor = some second := by
  unfold recovering
  rcases inner call around with ⟨reply | reason | panic, after⟩
  · simp
  · simp
  · cases released : panic.dropped destructor with
    | none => simp [released]
    | some raised => simp [released]

end Recovering

/-- Recovery is outermost. -/
theorem wrap_of_recovery (guards : stack.recovery = true) (inner : Service σ) :
    stack.wrap inner = recovering stack.destructor (stack.bare.wrap inner) := by
  rw [wrap, guards]
  rfl

/-- No breakdown comes through a server with recovery if all can be let go. -/
theorem serve_ne_panicked (guards : stack.recovery = true) (tidy : stack.destructor = none)
    (visit : Visit) (around : Surroundings σ) (panic : Panic) :
    (stack.serve visit around).1 ≠ .panicked panic := by
  rw [serve, wrap_of_recovery guards, tidy, Ne, recovering_panicked_iff]
  rintro ⟨first, -, released⟩
  rw [Panic.dropped_none] at released
  cases released

end Stack

/-- An outcome without what a breakdown left behind. -/
def Outcome.masked : Outcome → Outcome
  | .panicked _ => .panicked .other
  | answered => answered

/-- A verdict without what a breakdown left behind. -/
def Verdict.masked : Verdict → Verdict
  | .panics _ => .panics .other
  | judged => judged

/-- An answer without what a breakdown left behind. -/
def Panic.masked {α : Type} : Except Panic α → Except Panic α := Except.mapError fun _ => .other

def Interceptor.masked (interceptor : Interceptor) : Interceptor := fun metadata =>
  (interceptor metadata).masked

def Handler.masked (handler : Handler) : Handler := fun call =>
  { handler call with outcome := (handler call).outcome.masked }

def Limiting.masked (limit : Limiting σ) : Limiting σ :=
  { limit with
    bucket := fun call => Panic.masked (limit.bucket call)
    exempts := fun call => Panic.masked (limit.exempts call) }

/-- A stack with the same functions, but that their breakdowns leave nothing behind. -/
def Stack.masked (stack : Stack σ) : Stack σ :=
  { stack with
    limit := stack.limit.map .masked
    custom := stack.custom.map .masked }

/-- The same visit to a handler whose breakdowns leave nothing behind. -/
def Stack.Visit.masked (visit : Stack.Visit) : Stack.Visit :=
  { visit with handler := visit.handler.masked }

/-- A service does what another does, whatever the log says, and but for what breakdowns leave
behind. -/
def Service.Masks (masked service : Service σ) : Prop :=
  ∀ call around log, ∃ written,
    masked call { around with events := log } =
      ((service call around).1.masked, { (service call around).2 with events := written })

section Layers

variable {masked inner : Service σ}

/-- A handler with its mask on does what the handler does. -/
theorem Handler.masks (handler : Handler) :
    (Service.ofHandler handler.masked : Service σ).Masks (.ofHandler handler) :=
  fun _ _ log => ⟨log, rfl⟩

/-- Nothing that a breakdown leaves behind is among the reports on how a call ended. -/
theorem Surroundings.reportOutcome_masked (around : Surroundings σ) (log : List Log.Event)
    (outcome : Outcome) : ∃ written,
      Surroundings.reportOutcome { around with events := log } outcome.masked =
        { around.reportOutcome outcome with events := written } := by
  cases outcome with
  | replied reply =>
      by_cases success : reply.code = .ok
      · simp only [Outcome.masked, reportOutcome, success, if_true]
        exact ⟨_, rfl⟩
      · simp only [Outcome.masked, reportOutcome, success, if_false]
        exact ⟨_, rfl⟩
  | lost reason => exact ⟨_, rfl⟩
  | panicked panic => exact ⟨_, rfl⟩

namespace Service.Masks

/-- Recovery puts the masks on itself, where all can be let go. -/
theorem recovering (masks : masked.Masks inner) :
    Service.Masks (Rpc.recovering none masked) (Rpc.recovering none inner) := by
  intro call around log
  obtain ⟨written, same⟩ := masks call around log
  unfold Rpc.recovering
  rw [same]
  rcases inner call around with ⟨reply | reason | panic, after⟩
  · exact ⟨written, rfl⟩
  · exact ⟨written, rfl⟩
  · simp only [Outcome.masked, Panic.dropped_none]
    exact ⟨_, rfl⟩

/-- Reports leave the masks as they are. -/
theorem loggingAs (masks : masked.Masks inner) (name : String) :
    Service.Masks (Rpc.loggingAs name masked) (Rpc.loggingAs name inner) := by
  intro call around log
  let entered : Surroundings σ := { around with scope := some (call.scope name) }
  let started := Surroundings.report { entered with events := log } .info "gRPC request started"
  obtain ⟨between, same⟩ := masks call (entered.report .info "gRPC request started") started.events
  -- The report of the start goes to either log, so all that differs is what the logs held before.
  have served : masked call started = _ := same
  unfold Rpc.loggingAs
  dsimp only
  rw [served]
  obtain ⟨written, reported⟩ := Surroundings.reportOutcome_masked
    (inner call (entered.report .info "gRPC request started")).2 between
    (inner call (entered.report .info "gRPC request started")).1
  exact ⟨written, by rw [reported]⟩

/-- Metrics leave the masks as they are. -/
theorem measuring (masks : masked.Masks inner) :
    Service.Masks (Rpc.measuring masked) (Rpc.measuring inner) := by
  intro call around log
  obtain ⟨written, same⟩ := masks call around log
  refine ⟨written, ?_⟩
  rw [measuring_eq, measuring_eq, same]
  rcases inner call around with ⟨reply | reason | panic, after⟩
  · rfl
  · rfl
  · rfl

/-- A limiter that is asked leaves the masks as they are. -/
theorem asking (masks : masked.Masks inner) (limit : Limiting σ) (key : String) :
    Service.Masks (limit.masked.asking key masked) (limit.asking key inner) := by
  intro call around log
  let asked := { around with limiter := (limit.allow key around.clock around.limiter).2 }
  have allow : limit.masked.allow = limit.allow := rfl
  rcases answer : (limit.allow key around.clock around.limiter).1 with fault | (_ | _)
  · simp only [Limiting.asking, allow, answer]
    exact masks call
      (asked.report .error "Rate limiter error, allowing request"
        [("key", .text key), ("error", .text fault.message)]) _
  · simp only [Limiting.asking, allow, answer]
    exact ⟨_, rfl⟩
  · simp only [Limiting.asking, allow, answer]
    exact masks call asked log

/-- A limiter puts the masks on the functions that tell it about calls. -/
theorem limiting (masks : masked.Masks inner) (limit : Limiting σ) :
    Service.Masks (Rpc.limiting limit.masked masked) (Rpc.limiting limit inner) := by
  intro call around log
  unfold Rpc.limiting
  have exempts : limit.masked.exempts call = Panic.masked (limit.exempts call) := rfl
  have bucket : limit.masked.bucket call = Panic.masked (limit.bucket call) := rfl
  rw [exempts, bucket]
  rcases limit.exempts call with panic | (_ | _)
  · exact ⟨log, rfl⟩
  · cases limit.bucket call with
    | error panic => exact ⟨log, rfl⟩
    | ok key => exact masks.asking limit key call around log
  · exact masks call around log

/-- Interceptors that decide with masks on are like those they stand for. -/
theorem intercepting (masks : masked.Masks inner)
    {hidden decide : Metadata → Surroundings σ → Verdict × Surroundings σ}
    (decides : ∀ metadata around log, hidden metadata { around with events := log } =
      ((decide metadata around).1.masked, { (decide metadata around).2 with events := log })) :
    Service.Masks (Rpc.intercepting hidden masked) (Rpc.intercepting decide inner) := by
  intro call around log
  unfold Rpc.intercepting
  rw [decides]
  rcases decide call.metadata around with ⟨metadata | status | panic, after⟩
  · exact masks { call with metadata } after log
  · exact ⟨log, rfl⟩
  · exact ⟨log, rfl⟩

/-- A layer that is left out changes nothing. -/
theorem layerIf (masks : masked.Masks inner) (present : Bool) {layer : Layer σ}
    (through : masked.Masks inner → Service.Masks (layer masked) (layer inner)) :
    Service.Masks (Stack.layerIf present layer masked) (Stack.layerIf present layer inner) := by
  cases present with
  | true => exact through masks
  | false => exact masks

end Service.Masks

end Layers

namespace Stack

/-- What recovery needs of every server of a run to keep all breakdowns to itself. -/
def Recovers (visits : List (Stack σ × Visit)) : Prop :=
  ∀ entry ∈ visits, entry.1.recovery = true ∧ entry.1.destructor = none

example :
    let stack : Stack Unit :=
      { recovery := true, custom := [fun _ => .panics .other], destructor := some (.fixed "again") }
    let visit : Visit := ⟨⟨0⟩, { target := "/a" }, fun _ => { outcome := .lost "gone" }⟩
    (stack.serve visit { limiter := () }).1 = .panicked (.fixed "again") := rfl

end Stack

end Backplane.Rpc
