import Backplane.Proofs.RateLimit.Refinement
import Backplane.Proofs.RateLimit.TrailingWindow
import Backplane.Proofs.Rpc.Reply
import Backplane.Rpc.Stack

namespace Backplane.RateLimit.Ledger

variable {ledger : Ledger} {key : String} {now latest : Nat}

/-- A window that ends later holds no more events than are counted now. -/
theorem admittedWithin_le_used (ledger : Ledger) (key : String) {now last : Nat}
    (after : now ≤ last) :
    admittedWithin key ledger.window last ledger.admitted ≤ ledger.used key now := by
  apply List.countP_mono_left
  intro event _
  simp only [counts, Bool.and_eq_true, decide_eq_true_eq]
  rintro ⟨⟨same, -⟩, near⟩
  exact ⟨same, after.trans_lt near⟩

/-- A ledger of the past, no window of which holds more events of a key than the limit. -/
structure Bounded (latest : Nat) (ledger : Ledger) : Prop where
  past : ∀ event ∈ ledger.admitted, event.2 ≤ latest
  within : ∀ key last, admittedWithin key ledger.window last ledger.admitted ≤ ledger.limit

namespace Bounded

/-- A new ledger keeps to its limit. -/
theorem new (limit window latest : Nat) : (Ledger.new limit window).Bounded latest where
  past := nofun
  within := fun _ _ => Nat.zero_le limit

/-- Time makes no difference to that. -/
theorem later (bounded : ledger.Bounded latest) (later : latest ≤ now) : ledger.Bounded now where
  past := fun event listed => (bounded.past event listed).trans later
  within := bounded.within

/-- Of the past, a ledger counts the window that ends now. -/
theorem used_eq (bounded : ledger.Bounded now) (key : String) :
    ledger.used key now = admittedWithin key ledger.window now ledger.admitted := by
  apply List.countP_congr
  intro event listed
  have past := bounded.past event listed
  simp [counts, past]

/-- An event for which the window has room is admitted. -/
theorem allow_of_lt (bounded : ledger.Bounded now)
    (room : admittedWithin key ledger.window now ledger.admitted < ledger.limit) :
    ledger.allow key 1 now =
      (true, { ledger with admitted := ledger.admitted ++ [(key, now)] }) := by
  rw [← bounded.used_eq] at room
  exact if_pos (Nat.one_add_le_iff.mpr room)

/-- An event for a full window is not. -/
theorem allow_of_eq (bounded : ledger.Bounded now)
    (full : admittedWithin key ledger.window now ledger.admitted = ledger.limit) :
    ledger.allow key 1 now = (false, ledger) := by
  rw [← bounded.used_eq] at full
  exact if_neg (mt Nat.one_add_le_iff.mp full.not_lt)

/-- An admitted event keeps the ledger within its limit. -/
theorem record (bounded : ledger.Bounded now)
    (room : admittedWithin key ledger.window now ledger.admitted < ledger.limit) :
    Bounded now { ledger with admitted := ledger.admitted ++ [(key, now)] } where
  past := by
    intro event listed
    rcases List.mem_append.mp listed with before | added
    · exact bounded.past event before
    · rw [List.mem_singleton.mp added]
  within := by
    intro other last
    dsimp only
    rw [admittedWithin, List.countP_append, ← admittedWithin, List.countP_singleton]
    split
    next inside =>
      -- The window ends now or later, so it holds no more than there was room for.
      simp only [Bool.and_eq_true, decide_eq_true_eq] at inside
      obtain ⟨⟨rfl, after⟩, -⟩ := inside
      have before := ledger.admittedWithin_le_used key after
      rw [bounded.used_eq] at before
      omega
    next => exact bounded.within other last

end Bounded

end Backplane.RateLimit.Ledger

namespace Backplane.Rpc

open RateLimit

namespace Limiting

variable {σ : Type} {limit : Limiting σ} {call : Call} {key : String}

/-- The bucket against which a call counts, if it counts at all. -/
def key? (limit : Limiting σ) (call : Call) : Option String :=
  match limit.exempts call with
  | .ok false => (limit.bucket call).toOption
  | _ => none

/-- The counted calls among those that reached a handler, as events of their buckets. -/
def charges (limit : Limiting σ) (handled : List (Nat × Call)) : List (String × Nat) :=
  handled.filterMap fun (time, call) => (limit.key? call).map fun key => (key, time)

/-- A call counts against a bucket if it is not exempt and has one. -/
theorem key?_eq_some_iff :
    limit.key? call = some key ↔ limit.exempts call = .ok false ∧ limit.bucket call = .ok key := by
  unfold key?
  rcases limit.exempts call with panic | (_ | _)
  · simp
  · rcases limit.bucket call with panic | other <;> simp [Except.toOption]
  · simp

/-- A counted call charges its bucket. -/
theorem charges_counted (counted : limit.key? call = some key) (handled : List (Nat × Call))
    (time : Nat) :
    limit.charges (handled ++ [(time, call)]) = limit.charges handled ++ [(key, time)] := by
  simp [charges, counted]

/-- A call that is not counted charges none. -/
theorem charges_uncounted (free : limit.key? call = none) (handled : List (Nat × Call))
    (time : Nat) : limit.charges (handled ++ [(time, call)]) = limit.charges handled := by
  simp [charges, free]

end Limiting

namespace Stack

variable {σ : Type}

/-- The stack that has a limiter and no other layer. -/
def only (limit : Limiting σ) : Stack σ := { limit := some limit }

/-- A visit comes to its handler, once, and is answered by it. -/
structure Passes (stack : Stack σ) (visit : Visit) (around : Surroundings σ) : Prop where
  outcome : (stack.serve visit around).1 = (visit.handler visit.call).outcome
  handled : (stack.serve visit around).2.handled =
    around.handled ++ [((around.wait visit.pause).clock, visit.call)]

/-- A visit is turned away for its bucket and never comes to its handler. -/
structure Denies (stack : Stack σ) (visit : Visit) (key : String) (around : Surroundings σ) :
    Prop where
  outcome : (stack.serve visit around).1 = .replied (.ofStatus (.limited key))
  code : (stack.serve visit around).1.code = .resourceExhausted
  handled : (stack.serve visit around).2.handled = around.handled

end Stack

section Layer

variable {σ : Type} {limit : Limiting σ} {inner : Service σ} {around : Surroundings σ}
variable {call : Call} {key : String}

/-- A call that is exempt is handed on as it came. -/
theorem limiting_skipped (skips : limit.exempts call = .ok true) :
    limiting limit inner call around = inner call around := by
  simp only [limiting, skips]

/-- A call that the limiter allows is handed on with the limiter as it is then. -/
theorem limiting_allowed (counted : limit.key? call = some key)
    (allowed : (limit.allow key around.clock around.limiter).1 = .ok true) :
    limiting limit inner call around =
      inner call { around with limiter := (limit.allow key around.clock around.limiter).2 } := by
  obtain ⟨counts, chosen⟩ := Limiting.key?_eq_some_iff.mp counted
  simp only [limiting, Limiting.asking, counts, chosen, allowed]

/-- A call that the limiter refuses is answered and reported. -/
theorem limiting_refused (counted : limit.key? call = some key)
    (refused : (limit.allow key around.clock around.limiter).1 = .ok false) :
    limiting limit inner call around =
      (.replied (.ofStatus (.limited key)),
        { around with
          limiter := (limit.allow key around.clock around.limiter).2 }.report .warn
            "Rate limit exceeded" [("key", .text key), ("method", .text call.method)]) := by
  obtain ⟨counts, chosen⟩ := Limiting.key?_eq_some_iff.mp counted
  simp only [limiting, Limiting.asking, counts, chosen, refused]

/-- A call over which the limiter fails is reported and handed on. -/
theorem limiting_failed {fault : Fault} (counted : limit.key? call = some key)
    (failed : (limit.allow key around.clock around.limiter).1 = .error fault) :
    limiting limit inner call around =
      inner call ({ around with
        limiter := (limit.allow key around.clock around.limiter).2 }.report .error
          "Rate limiter error, allowing request"
          [("key", .text key), ("error", .text fault.message)]) := by
  obtain ⟨counts, chosen⟩ := Limiting.key?_eq_some_iff.mp counted
  simp only [limiting, Limiting.asking, counts, chosen, failed]

/-- A call that is not counted breaks the layer down, or is handed on as it came. -/
theorem limiting_uncounted (free : limit.key? call = none) :
    (∃ panic, ∀ inner around, limiting limit inner call around = (.panicked panic, around)) ∨
      ∀ inner around, limiting limit inner call around = inner call around := by
  cases exempted : limit.exempts call with
  | error panic => exact .inl ⟨panic, fun inner around => by simp only [limiting, exempted]⟩
  | ok skips =>
      cases skips with
      | true => exact .inr fun inner around => limiting_skipped exempted
      | false =>
          cases chosen : limit.bucket call with
          | error panic =>
              exact .inl ⟨panic, fun inner around => by simp only [limiting, exempted, chosen]⟩
          | ok key => simp [Limiting.key?, exempted, chosen, Except.toOption] at free

end Layer

/-- The ledger of the counted calls that reached a handler. -/
def Limiting.ledger {σ : Type} (limit : Limiting σ) (most window : Nat)
    (around : Surroundings σ) : Ledger :=
  { limit := most, window, admitted := limit.charges around.handled }

/-- A limiter that holds what reached the handlers, which kept to the limit. -/
structure Admits (guard : Limiting Sliding) (most window : Nat) (around : Surroundings Sliding) :
    Prop where
  agrees : Agrees around.clock around.limiter (guard.ledger most window around)
  bounded : (guard.ledger most window around).Bounded around.clock

namespace Admits

variable {guard : Limiting Sliding} {most window : Nat} {around : Surroundings Sliding}
variable {call : Call} {key : String}

/-- A new limiter holds that nothing has reached a handler. -/
theorem new (guard : Limiting Sliding) (most window created : Nat)
    (around : Surroundings Sliding) :
    Admits guard most window
      { around with limiter := .new most window created, handled := [] } where
  agrees := Agrees.new most window created around.clock
  bounded := Ledger.Bounded.new most window around.clock

/-- Waiting makes no difference to what it holds. -/
theorem wait (admits : Admits guard most window around) (span : Span) :
    Admits guard most window (around.wait span) where
  agrees := admits.agrees.later (Nat.le_add_right _ _)
  bounded := admits.bounded.later (Nat.le_add_right _ _)

/-- A call that is not counted leaves the limiter as it is. -/
theorem handle (admits : Admits guard most window around)
    (free : guard.key? call = none) (handler : Handler) :
    Admits guard most window (Service.ofHandler handler call around).2 := by
  refine wait ?_ (handler call).took
  have same := guard.charges_uncounted free around.handled around.clock
  constructor
  · rw [Limiting.ledger, same]
    exact admits.agrees
  · rw [Limiting.ledger, same]
    exact admits.bounded

/-- What the limiter answers to a counted call, and what it holds afterwards. -/
theorem grant (admits : Admits guard most window around) (key : String) :
    (around.limiter.grant key 1 around.clock).1 =
        ((guard.ledger most window around).allow key 1 around.clock).1 ∧
      Agrees around.clock (around.limiter.grant key 1 around.clock).2
        ((guard.ledger most window around).allow key 1 around.clock).2 :=
  ⟨admits.agrees.grant_answer key 1 (Nat.le_refl _), admits.agrees.grant key 1 (Nat.le_refl _)⟩

/-- A counted call for which the window of its bucket has room. -/
theorem grant_of_lt (admits : Admits guard most window around)
    (room : admittedWithin key window around.clock (guard.charges around.handled) < most) :
    (around.limiter.grant key 1 around.clock).1 = true ∧
      Agrees around.clock (around.limiter.grant key 1 around.clock).2
        { guard.ledger most window around with
          admitted := guard.charges around.handled ++ [(key, around.clock)] } := by
  have granted := admits.grant key
  rwa [admits.bounded.allow_of_lt room] at granted

/-- A counted call for which it has none. -/
theorem grant_of_eq (admits : Admits guard most window around)
    (full : admittedWithin key window around.clock (guard.charges around.handled) = most) :
    (around.limiter.grant key 1 around.clock).1 = false ∧
      Agrees around.clock (around.limiter.grant key 1 around.clock).2
        (guard.ledger most window around) := by
  have granted := admits.grant key
  rwa [admits.bounded.allow_of_eq full] at granted

variable {bucket : Call → Except Panic String} {exempts : Call → Except Panic Bool}

/-- One call keeps the limiter and the handled calls in step. -/
theorem limiting (admits : Admits (.counting bucket exempts) most window around)
    (handler : Handler) (call : Call) :
    Admits (.counting bucket exempts) most window
      (Rpc.limiting (.counting bucket exempts) (.ofHandler handler) call around).2 := by
  -- Only a granted call adds an event: to the limiter, and to the calls that were handled.
  cases counted : (Limiting.counting bucket exempts).key? call with
  | none =>
      rcases limiting_uncounted counted with ⟨panic, broken⟩ | passed
      · rw [broken]
        exact admits
      · rw [passed]
        exact admits.handle counted handler
  | some key =>
      by_cases room : admittedWithin key window around.clock
          ((Limiting.counting bucket exempts).charges around.handled) < most
      · obtain ⟨granted, agrees⟩ := admits.grant_of_lt room
        rw [limiting_allowed counted (congrArg Except.ok granted)]
        refine wait ?_ (handler call).took
        have charged := Limiting.charges_counted counted around.handled around.clock
        constructor
        · rw [Limiting.ledger, charged]
          exact agrees
        · rw [Limiting.ledger, charged]
          exact admits.bounded.record room
      · have full := (admits.bounded.within key around.clock).antisymm (not_lt.mp room)
        obtain ⟨refused, agrees⟩ := admits.grant_of_eq full
        rw [limiting_refused counted (congrArg Except.ok refused)]
        exact ⟨agrees, admits.bounded⟩

/-- After a run of visits the limiter holds what reached the handlers. -/
theorem serveAll (admits : Admits (.counting bucket exempts) most window around)
    (visits : List Stack.Visit) :
    Admits (.counting bucket exempts) most window
      ((Stack.only (.counting bucket exempts)).serveAll visits around).2 := by
  induction visits generalizing around with
  | nil => exact admits
  | cons visit visits ih => exact ih ((admits.wait visit.pause).limiting visit.handler visit.call)

end Admits

/-- Surroundings at one time with limiters in one state, which saw the same calls handled since
some were handled in the past of each. -/
structure Alike {σ : Type} (past other : List (Nat × Call)) (first second : Surroundings σ) :
    Prop where
  clock : first.clock = second.clock
  limiter : first.limiter = second.limiter
  handled : ∃ since, first.handled = past ++ since ∧ second.handled = other ++ since

namespace Alike

variable {σ : Type} {past other : List (Nat × Call)} {first second : Surroundings σ}

/-- Surroundings stay alike over a pause. -/
theorem wait (alike : Alike past other first second) (span : Span) :
    Alike past other (first.wait span) (second.wait span) where
  clock := congrArg (· + span.nanoseconds) alike.clock
  limiter := alike.limiter
  handled := alike.handled

/-- Surroundings stay alike over a report. -/
theorem report (alike : Alike past other first second) (level : Log.Level) (message : String)
    (fields : List (String × Log.Value)) :
    Alike past other (first.report level message fields) (second.report level message fields) where
  clock := alike.clock
  limiter := alike.limiter
  handled := alike.handled

/-- Surroundings stay alike over a call that both handle. -/
theorem handle (alike : Alike past other first second) (handler : Handler) (call : Call) :
    (Service.ofHandler handler call first).1 = (Service.ofHandler handler call second).1 ∧
      Alike past other (Service.ofHandler handler call first).2
        (Service.ofHandler handler call second).2 := by
  obtain ⟨since, before, beside⟩ := alike.handled
  refine ⟨rfl, congrArg (· + _) alike.clock, alike.limiter, since ++ [(second.clock, call)], ?_, ?_⟩
  · rw [← List.append_assoc, ← before, ← alike.clock]
    rfl
  · rw [← List.append_assoc, ← beside]
    rfl

/-- A limiter treats a call alike wherever its own state and the time are the same. -/
theorem limiting (alike : Alike past other first second) (limit : Limiting σ) (handler : Handler)
    (call : Call) :
    (Rpc.limiting limit (.ofHandler handler) call first).1 =
        (Rpc.limiting limit (.ofHandler handler) call second).1 ∧
      Alike past other (Rpc.limiting limit (.ofHandler handler) call first).2
        (Rpc.limiting limit (.ofHandler handler) call second).2 := by
  cases counted : limit.key? call with
  | none =>
      rcases limiting_uncounted counted with ⟨panic, broken⟩ | passed
      · rw [broken, broken]
        exact ⟨rfl, alike⟩
      · rw [passed, passed]
        exact alike.handle handler call
  | some key =>
      have same : limit.allow key first.clock first.limiter =
          limit.allow key second.clock second.limiter := by
        rw [alike.clock, alike.limiter]
      have asked : Alike past other
          { first with limiter := (limit.allow key first.clock first.limiter).2 }
          { second with limiter := (limit.allow key second.clock second.limiter).2 } :=
        ⟨alike.clock, congrArg Prod.snd same, alike.handled⟩
      rcases answer : (limit.allow key first.clock first.limiter).1 with fault | (_ | _)
      · rw [limiting_failed counted answer, limiting_failed counted (same ▸ answer)]
        exact (asked.report ..).handle handler call
      · rw [limiting_refused counted answer, limiting_refused counted (same ▸ answer)]
        exact ⟨rfl, asked.report ..⟩
      · rw [limiting_allowed counted answer, limiting_allowed counted (same ▸ answer)]
        exact asked.handle handler call

/-- A run of visits is answered alike in both. -/
theorem serveAll (alike : Alike past other first second) (limit : Limiting σ)
    (visits : List Stack.Visit) :
    ((Stack.only limit).serveAll visits first).1 = ((Stack.only limit).serveAll visits second).1 ∧
      Alike past other ((Stack.only limit).serveAll visits first).2
        ((Stack.only limit).serveAll visits second).2 := by
  induction visits generalizing first second with
  | nil => exact ⟨rfl, alike⟩
  | cons visit visits ih =>
      obtain ⟨outcome, next⟩ := (alike.wait visit.pause).limiting limit visit.handler visit.call
      obtain ⟨outcomes, last⟩ := ih next
      exact ⟨congrArg₂ List.cons outcome outcomes, last⟩

end Alike

namespace Stack

variable {σ : Type} (stack : Stack σ) (limit : Limiting σ) (visits later : List Visit)
variable (visit : Visit) (around : Surroundings σ)

/-- The time from the answer before a visit to the answer of its handler. -/
def Visit.span (visit : Visit) : Span :=
  ⟨visit.pause.nanoseconds + (visit.handler visit.call).took.nanoseconds⟩

/-- The visits after one that stays away; they still come in at the same times. -/
def Visit.staysAway (visit : Visit) (later : List Visit) : List Visit :=
  later.modifyHead fun next =>
    { next with pause := ⟨visit.span.nanoseconds + next.pause.nanoseconds⟩ }

/-- Every visit has an outcome. -/
theorem length_outcomes : (stack.serveAll visits around).1.length = visits.length := by
  induction visits generalizing around with
  | nil => rfl
  | cons visit visits ih => exact congrArg (· + 1) (ih _)

/-- A run of visits goes on where the first part of it ended. -/
theorem serveAll_append :
    stack.serveAll (visits ++ later) around =
      let (earlier, between) := stack.serveAll visits around
      let (outcomes, last) := stack.serveAll later between
      (earlier ++ outcomes, last) := by
  induction visits generalizing around with
  | nil => rfl
  | cons visit visits ih => simp only [List.cons_append, serveAll, ih]

variable {visit} {past other : List (Nat × Call)} {first second : Surroundings σ}

/-- Later visits see of one that stays away only the time that it would have taken. -/
theorem serveAll_staysAway (alike : Alike past other first (second.wait visit.span)) :
    ((only limit).serveAll later first).1 =
        ((only limit).serveAll (visit.staysAway later) second).1 ∧
      ∃ since, ((only limit).serveAll later first).2.handled = past ++ since ∧
        ((only limit).serveAll (visit.staysAway later) second).2.handled = other ++ since := by
  cases later with
  | nil => exact ⟨rfl, alike.handled⟩
  | cons next later =>
      have arrived : Alike past other (first.wait next.pause)
          (second.wait ⟨visit.span.nanoseconds + next.pause.nanoseconds⟩) := by
        refine ⟨?_, alike.limiter, alike.handled⟩
        rw [Surroundings.wait, alike.clock, Surroundings.wait, Surroundings.wait]
        exact Nat.add_assoc ..
      obtain ⟨outcome, between⟩ := arrived.limiting limit next.handler next.call
      obtain ⟨outcomes, last⟩ := between.serveAll limit later
      exact ⟨congrArg₂ List.cons outcome outcomes, last.handled⟩

variable {limit}

/-- A visit that is not to be counted might as well stay away, for all that the others learn. -/
theorem serveAll_skipped (skips : limit.exempts visit.call = .ok true) :
    let between := ((only limit).serveAll visits around).2
    let full := (only limit).serveAll (visits ++ visit :: later) around
    let rest := (only limit).serveAll (visits ++ visit.staysAway later) around
    full.1.eraseIdx visits.length = rest.1 ∧
      full.2.handled.eraseIdx between.handled.length = rest.2.handled := by
  intro between full rest
  -- Both runs are the same up to here, and from here on they differ by the time that has passed.
  have passed : (only limit).serve visit between =
      Service.ofHandler visit.handler visit.call (between.wait visit.pause) :=
    limiting_skipped skips
  have alike : Alike (between.handled ++ [((between.wait visit.pause).clock, visit.call)])
      between.handled ((only limit).serve visit between).2 (between.wait visit.span) := by
    rw [passed]
    exact ⟨Nat.add_assoc .., rfl, [], (List.append_nil _).symm, (List.append_nil _).symm⟩
  obtain ⟨outcomes, since, handled, beside⟩ := serveAll_staysAway limit later alike
  have fullOutcomes : full.1 = ((only limit).serveAll visits around).1 ++
      ((only limit).serve visit between).1 ::
        ((only limit).serveAll later ((only limit).serve visit between).2).1 :=
    congrArg Prod.fst (serveAll_append (only limit) visits (visit :: later) around)
  have fullHandled : full.2.handled =
      between.handled ++ [((between.wait visit.pause).clock, visit.call)] ++ since :=
    (congrArg (fun served => served.2.handled)
      (serveAll_append (only limit) visits (visit :: later) around)).trans handled
  have restOutcomes : rest.1 = ((only limit).serveAll visits around).1 ++
      ((only limit).serveAll (visit.staysAway later) between).1 :=
    congrArg Prod.fst (serveAll_append (only limit) visits (visit.staysAway later) around)
  have restHandled : rest.2.handled = between.handled ++ since :=
    (congrArg (fun served => served.2.handled)
      (serveAll_append (only limit) visits (visit.staysAway later) around)).trans beside
  constructor
  · rw [fullOutcomes, restOutcomes, ← outcomes, ← length_outcomes (only limit) visits around,
      List.eraseIdx_append_of_length_le (Nat.le_refl _), Nat.sub_self]
    rfl
  · rw [fullHandled, restHandled, List.append_assoc,
      List.eraseIdx_append_of_length_le (Nat.le_refl _), Nat.sub_self]
    rfl

variable {around}

/-- A visit that the limiter hands on passes. -/
theorem passes_of_eq {reached : Surroundings σ}
    (served : (only limit).serve visit around =
      Service.ofHandler visit.handler visit.call reached)
    (clock : reached.clock = (around.wait visit.pause).clock)
    (handled : reached.handled = around.handled) : (only limit).Passes visit around where
  outcome := congrArg Prod.fst served
  handled := by
    rw [served, ← clock, ← handled]
    rfl

/-- A visit that is exempt passes. -/
theorem passes_skipped (skips : limit.exempts visit.call = .ok true) :
    (only limit).Passes visit around :=
  passes_of_eq (limiting_skipped skips) rfl rfl

/-- A limiter that fails lets a call pass. -/
theorem passes_failed {key : String} {fault : Fault}
    (counted : limit.key? visit.call = some key)
    (failed : (limit.allow key (around.wait visit.pause).clock around.limiter).1 =
      .error fault) : (only limit).Passes visit around :=
  passes_of_eq (limiting_failed counted failed) rfl rfl

end Stack

namespace Admits

variable {bucket : Call → Except Panic String} {exempts : Call → Except Panic Bool}
variable {most window : Nat} {around : Surroundings Sliding} {key : String} {visit : Stack.Visit}

open Stack

/-- A counted visit for which the window has room passes. -/
theorem passes (admits : Admits (.counting bucket exempts) most window around)
    (counted : (Limiting.counting bucket exempts).key? visit.call = some key)
    (room : admittedWithin key window (around.wait visit.pause).clock
      ((Limiting.counting bucket exempts).charges around.handled) < most) :
    (only (.counting bucket exempts)).Passes visit around :=
  passes_of_eq (limiting_allowed counted
    (congrArg Except.ok ((admits.wait visit.pause).grant_of_lt room).1)) rfl rfl

/-- A counted visit for a full window is denied. -/
theorem denies (admits : Admits (.counting bucket exempts) most window around)
    (counted : (Limiting.counting bucket exempts).key? visit.call = some key)
    (full : admittedWithin key window (around.wait visit.pause).clock
      ((Limiting.counting bucket exempts).charges around.handled) = most) :
    (only (.counting bucket exempts)).Denies visit key around := by
  have served : (only (.counting bucket exempts)).serve visit around = _ :=
    limiting_refused counted (congrArg Except.ok ((admits.wait visit.pause).grant_of_eq full).1)
  constructor
  · rw [served]
  · rw [served]
    exact Reply.code_ofStatus _
  · rw [served]
    rfl

end Admits

namespace Stack

/-- A limiter in front of handlers that counts in memory, while one visit comes after another.
Within no window do more counted calls of a bucket reach a handler than the limit says; a counted
call is turned away exactly if as many did in the window that ends with it. A call that is not to
be counted passes, and the others fare as if it had stayed away. Where another limiter fails, a
call passes, too. -/
theorem only_counting_admits_what_fits (bucket : Call → Except Panic String)
    (exempts : Call → Except Panic Bool) (most window created : Nat)
    (around : Surroundings Sliding) (visits : List Visit) :
    let guard := Limiting.counting bucket exempts
    let start := { around with limiter := .new most window created, handled := [] }
    let before := ((only guard).serveAll visits start).2
    (∀ key last, admittedWithin key window last (guard.charges before.handled) ≤ most) ∧
      (∀ visit key, exempts visit.call = .ok false → bucket visit.call = .ok key →
        let used := admittedWithin key window (before.wait visit.pause).clock
          (guard.charges before.handled)
        (used = most → (only guard).Denies visit key before) ∧
          (used ≠ most → (only guard).Passes visit before)) ∧
      (∀ visit, exempts visit.call = .ok true →
        (only guard).Passes visit before ∧
          ∀ later,
            let full := (only guard).serveAll (visits ++ visit :: later) start
            let rest := (only guard).serveAll (visits ++ visit.staysAway later) start
            full.1.eraseIdx visits.length = rest.1 ∧
              full.2.handled.eraseIdx before.handled.length = rest.2.handled) ∧
      ∀ {σ : Type} (limit : Limiting σ) (around : Surroundings σ) (visit : Visit) (key : String)
        (fault : Fault), limit.exempts visit.call = .ok false →
          limit.bucket visit.call = .ok key →
          (limit.allow key (around.wait visit.pause).clock around.limiter).1 = .error fault →
          (only limit).Passes visit around := by
  intro guard start before
  have admits : Rpc.Admits guard most window before :=
    (Admits.new guard most window created around).serveAll visits
  refine ⟨admits.bounded.within, ?_, ?_, ?_⟩
  · intro visit key counts chosen
    have counted : guard.key? visit.call = some key :=
      Limiting.key?_eq_some_iff.mpr ⟨counts, chosen⟩
    have within := admits.bounded.within key (before.wait visit.pause).clock
    exact ⟨fun full => admits.denies counted full,
      fun short => admits.passes counted (lt_of_le_of_ne within short)⟩
  · intro visit skips
    exact ⟨passes_skipped skips, fun later => serveAll_skipped visits later start skips⟩
  · intro σ limit around visit key fault counts chosen failed
    exact passes_failed (Limiting.key?_eq_some_iff.mpr ⟨counts, chosen⟩) failed

/-- One call in ten seconds, a second one that comes too early and one that comes as the first
leaves the window; a health check between them, and a limiter that always fails. -/
theorem only_counting_admits_what_fits_edges :
    let bucket (call : Call) : Except Panic String := .ok (Bucket.ofMethod call)
    let exempts (call : Call) : Except Panic Bool := .ok (Bucket.exemptsHealth call)
    let stack := only (.counting bucket exempts)
    let visit (target : String) (seconds : Nat) : Visit :=
      { pause := .ofSeconds seconds, call := { target },
        handler := fun _ => { outcome := .replied {}, took := .ofSeconds 1 } }
    let check := visit "/grpc.health.v1.Health/Check" 0
    let before := (stack.serveAll [visit "/users.Users/Get" 0, check]
      { limiter := .new 1 10000000000 0 }).2
    stack.Denies (visit "/users.Users/Get" 7) "method:/users.Users/Get" before ∧
      stack.Passes (visit "/users.Users/Get" 8) before ∧ stack.Passes check before ∧
      (only { allow := fun _ _ state => (.error (.internal "down"), state) }).Passes check
        ({ limiter := () } : Surroundings Unit) := by
  intro bucket exempts stack visit check before
  obtain ⟨-, counted, skipped, failed⟩ :=
    only_counting_admits_what_fits bucket exempts 1 10000000000 0
    { limiter := .new 1 10000000000 0 } [visit "/users.Users/Get" 0, check]
  have counts : Bucket.exemptsHealth { target := "/users.Users/Get" } = false := by decide +kernel
  have skips : Bucket.exemptsHealth check.call = true := by decide +kernel
  have chosen : Bucket.ofMethod { target := "/users.Users/Get" } = "method:/users.Users/Get" := by
    decide +kernel
  have early := counted (visit "/users.Users/Get" 7) _ (congrArg Except.ok counts)
    (congrArg Except.ok chosen)
  have late := counted (visit "/users.Users/Get" 8) _ (congrArg Except.ok counts)
    (congrArg Except.ok chosen)
  exact ⟨early.1 (by decide +kernel), late.2 (by decide +kernel),
    (skipped check (congrArg Except.ok skips)).1, failed _ _ _ "unknown" _ rfl rfl rfl⟩

end Stack

end Backplane.Rpc
