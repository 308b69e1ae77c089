import Backplane.Rpc.Turns
import Mathlib.Algebra.BigOperators.Group.Finset.Basic
import Mathlib.Order.Bounds.Basic
import Mathlib.Data.Nat.Find

namespace Backplane.Rpc.Retry

variable {α : Type}

/-- An outcome that ends a series of calls: a success, or a failure that no other call can mend. -/
def Settles : Except Status α → Prop
  | .ok _ => True
  | .error status =>
      status.code ≠ .unavailable ∧ status.code ≠ .deadlineExceeded ∧
        status.code ≠ .resourceExhausted

/-- All codes but three settle the matter. -/
theorem retryable_eq_false_iff (code : Code) :
    retryable code = false ↔
      code ≠ .unavailable ∧ code ≠ .deadlineExceeded ∧ code ≠ .resourceExhausted := by
  cases code <;> decide

/-- An outcome leaves the matter open if it is a failure that may mend. -/
theorem not_settles_iff (outcome : Except Status α) :
    ¬Settles outcome ↔ ∃ status, outcome = .error status ∧ retryable status.code = true := by
  cases outcome with
  | ok value => simp [Settles]
  | error status =>
      rw [Settles, ← retryable_eq_false_iff]
      simp

/-- At least one call is made. -/
theorem attempts_pos (retry : Retry) : 0 < retry.attempts := lt_max_of_lt_right Nat.zero_lt_one

/-- The calls that are allowed can be counted in a word. -/
theorem attempts_lt_size (retry : Retry) : retry.attempts < UInt32.size :=
  max_lt retry.maxAttempts.toNat_lt_size (by decide)

theorem toNat_toUInt32 {number : Nat} (fits : number < UInt32.size) :
    number.toUInt32.toNat = number := UInt32.toNat_ofNat_of_lt' fits

/-- Counting on from a small number does not run over. -/
theorem successor?_toUInt32 {number : Nat} (fits : number + 1 < UInt32.size) :
    successor? number.toUInt32 = some (number + 1).toUInt32 := by
  rw [successor?, toNat_toUInt32 (Nat.lt_of_succ_lt fits), if_pos fits]
  exact congrArg some (UInt32.ofNat_add number 1).symm

/-- When a call is made: after all pauses before it. -/
def elapsed (retry : Retry) (call : Nat) : Nat :=
  ∑ before ∈ Finset.range call, (retry.backoff before.toUInt32).toNat

/-- One more call comes one more pause later. -/
theorem elapsed_succ (retry : Retry) (call : Nat) :
    retry.elapsed (call + 1) = retry.elapsed call + (retry.backoff call.toUInt32).toNat :=
  Finset.sum_range_succ _ call

/-- The reports of the first outcomes. -/
def reports (retry : Retry) (outcomes : Nat → Except Status α) (calls : Nat) : List Log.Event :=
  (List.range calls).flatMap fun call =>
    match outcomes call with
    | .ok _ => []
    | .error status => [retry.report call status (retry.backoff call.toUInt32)]

/-- One more failure adds one more report. -/
theorem reports_succ {retry : Retry} {outcomes : Nat → Except Status α} {calls : Nat}
    {status : Status} (failed : outcomes calls = .error status) :
    retry.reports outcomes (calls + 1) = retry.reports outcomes calls ++
      [retry.report calls status (retry.backoff calls.toUInt32)] := by
  rw [reports, List.range_succ, List.flatMap_append]
  simp [failed, reports]

section Turns

variable {retry : Retry} {sleep : UInt64 → Nat} {outcomes : Nat → Except Status α}
  {calls clock : Nat} {calledAt : List Nat} {events : List Log.Event} {status : Status}

/-- A failure that another call may mend is followed by a pause and the next turn. -/
theorem turn_again (made : calledAt.length = calls) (room : calls + 1 < retry.attempts)
    (failed : outcomes calls = .error status) (mends : retryable status.code = true) :
    retry.turn sleep outcomes (.calling calls.toUInt32 clock calledAt events) =
      .calling (calls + 1).toUInt32 (clock + sleep (retry.backoff calls.toUInt32))
        (calledAt ++ [clock])
        (events ++ [retry.report calls status (retry.backoff calls.toUInt32)]) := by
  have fits : calls + 1 < UInt32.size := room.trans retry.attempts_lt_size
  simp only [turn, made, failed, mends, if_true, successor?_toUInt32 fits, toNat_toUInt32 fits,
    if_pos room, toNat_toUInt32 (Nat.lt_of_succ_lt fits)]

/-- An outcome that settles the matter, or that of the last call, is the end. -/
theorem turn_ends (made : calledAt.length = calls) (room : calls < retry.attempts)
    (final : Settles (outcomes calls) ∨ calls + 1 = retry.attempts) :
    retry.turn sleep outcomes (.calling calls.toUInt32 clock calledAt events) =
      .ended ⟨calledAt ++ [clock], outcomes calls, events⟩ := by
  have fits : calls + 1 < UInt32.size := Nat.lt_of_le_of_lt room retry.attempts_lt_size
  cases outcome : outcomes calls with
  | ok value => simp only [turn, made, outcome]
  | error status =>
      cases mends : retryable status.code with
      | false => simp [turn, made, outcome, mends]
      | true =>
          have last : ¬calls + 1 < retry.attempts := by
            rcases final with settles | last
            · exact absurd settles ((not_settles_iff _).mpr ⟨status, outcome, mends⟩)
            · omega
          simp only [turn, made, outcome, mends, if_true, successor?_toUInt32 fits,
            toNat_toUInt32 fits, if_neg last]

theorem iterate_ended (run : Run α) (turns : Nat) :
    (retry.turn sleep outcomes)^[turns] (.ended run) = .ended run := by
  induction turns with
  | zero => rfl
  | succ turns ih =>
      rw [Function.iterate_succ_apply', ih]
      rfl

/-- A call that settles the matter is the last. -/
theorem runFrom_of_settles (settles : Settles (outcomes calls)) (remaining : Nat) :
    retry.runFrom sleep outcomes remaining calls clock = ⟨[clock], outcomes calls, []⟩ := by
  cases remaining with
  | zero => rfl
  | succ remaining =>
      cases outcome : outcomes calls with
      | ok value => simp [runFrom, outcome]
      | error status =>
          rw [outcome, Settles, ← retryable_eq_false_iff] at settles
          simp [runFrom, outcome, settles]

/-- The turns from some call on end with what the remaining calls give, behind what was there. -/
theorem iterate_turn_runFrom (remaining : Nat) (made : calledAt.length = calls)
    (all : calls + remaining + 1 = retry.attempts) :
    ∃ turns, (retry.turn sleep outcomes)^[turns] (.calling calls.toUInt32 clock calledAt events) =
      .ended ⟨calledAt ++ (retry.runFrom sleep outcomes remaining calls clock).calledAt,
        (retry.runFrom sleep outcomes remaining calls clock).outcome,
        events ++ (retry.runFrom sleep outcomes remaining calls clock).events⟩ := by
  induction remaining generalizing calls clock calledAt events with
  | zero =>
      refine ⟨1, (turn_ends made (by omega) (.inr all)).trans ?_⟩
      simp [runFrom]
  | succ remaining ih =>
      by_cases settles : Settles (outcomes calls)
      · refine ⟨1, (turn_ends made (by omega) (.inl settles)).trans ?_⟩
        rw [runFrom_of_settles settles, List.append_nil]
      · obtain ⟨status, failed, mends⟩ := (not_settles_iff _).mp settles
        have room : calls + 1 < retry.attempts := by omega
        have madeNext : (calledAt ++ [clock]).length = calls + 1 := by simp [made]
        obtain ⟨turns, ends⟩ := ih madeNext (by omega)
        refine ⟨turns + 1, ?_⟩
        rw [Function.iterate_succ_apply, turn_again made room failed mends, ends]
        simp [runFrom, failed, mends]

end Turns

/-- The numbers of calls after which a series may end: all that are allowed, or as many as it takes
to an outcome that settles the matter. -/
def endings (retry : Retry) (outcomes : Nat → Except Status α) : Set Nat :=
  insert retry.attempts {calls | ∃ before, calls = before + 1 ∧ Settles (outcomes before)}

section Calls

variable {retry : Retry} {sleep : UInt64 → Nat} {outcomes : Nat → Except Status α} {calls : Nat}

/-- There is a first call at which a run may end. -/
theorem exists_isLeast_endings (retry : Retry) (outcomes : Nat → Except Status α) :
    ∃ calls, IsLeast (retry.endings outcomes) calls := by
  classical
  have some : ∃ calls, calls ∈ retry.endings outcomes := ⟨_, Set.mem_insert _ _⟩
  exact ⟨Nat.find some, Nat.find_spec some, fun _ => Nat.find_min' some⟩

/-- The last call settles the matter or is the last that is allowed. -/
theorem settles_or_last {last : Nat} (least : IsLeast (retry.endings outcomes) (last + 1)) :
    Settles (outcomes last) ∨ last + 1 = retry.attempts := by
  rcases least.1 with allowed | ⟨before, same, settles⟩
  · exact .inr allowed
  · obtain rfl : last = before := Nat.succ.inj same
    exact .inl settles

variable (least : IsLeast (retry.endings outcomes) calls)
include least

/-- At least one call is made before the end. -/
theorem calls_pos : 0 < calls := by
  rcases least.1 with rfl | ⟨before, rfl, -⟩
  · exact retry.attempts_pos
  · exact Nat.succ_pos before

/-- No more calls are made than are allowed. -/
theorem calls_le : calls ≤ retry.attempts := least.2 (Set.mem_insert _ _)

/-- No call before the last settles the matter. -/
theorem not_settles_of_lt {before : Nat} (early : before + 1 < calls) :
    ¬Settles (outcomes before) := fun settles =>
  absurd (least.2 (Set.mem_insert_of_mem _ ⟨before, rfl, settles⟩)) (Nat.not_le.mpr early)

section Punctual

variable (punctual : ∀ attempt, sleep (retry.backoff attempt) = (retry.backoff attempt).toNat)
include punctual

/-- Before its end a series is at a call, behind the pauses after all calls so far. -/
theorem iterate_turn_lt {turns : Nat} (early : turns < calls) :
    (retry.turn sleep outcomes)^[turns] .start =
      .calling turns.toUInt32 (retry.elapsed turns) ((List.range turns).map retry.elapsed)
        (retry.reports outcomes turns) := by
  induction turns with
  | zero => rfl
  | succ turns ih =>
      have bound := calls_le least
      obtain ⟨status, failed, mends⟩ := (not_settles_iff _).mp (not_settles_of_lt least early)
      rw [Function.iterate_succ_apply', ih (Nat.lt_of_succ_lt early),
        turn_again (by simp) (by omega) failed mends, punctual, ← elapsed_succ, List.range_succ,
        List.map_append, reports_succ failed]
      rfl

/-- The loop ends with the last call. -/
theorem iterate_turn_calls :
    (retry.turn sleep outcomes)^[calls] .start =
      .ended ⟨(List.range calls).map retry.elapsed, outcomes (calls - 1),
        retry.reports outcomes (calls - 1)⟩ := by
  have bound := calls_le least
  obtain ⟨last, rfl⟩ := Nat.exists_eq_add_one_of_ne_zero (calls_pos least).ne'
  rw [Function.iterate_succ_apply', iterate_turn_lt least punctual (Nat.lt_add_one last),
    turn_ends (by simp) (by omega) (settles_or_last least), List.range_succ, List.map_append]
  rfl

end Punctual

end Calls

/-- The turns of the loop lead to what the recursion gives. -/
theorem iterate_turn_run (retry : Retry) (sleep : UInt64 → Nat)
    (outcomes : Nat → Except Status α) :
    ∃ turns, (retry.turn sleep outcomes)^[turns] .start = .ended (retry.run sleep outcomes) := by
  have all : 0 + (retry.attempts - 1) + 1 = retry.attempts := by
    rw [Nat.zero_add, Nat.sub_add_cancel retry.attempts_pos]
  have made : ([] : List Nat).length = 0 := rfl
  exact iterate_turn_runFrom (retry.attempts - 1) made all

/-- A loop that ends in two ways ends in one. -/
theorem ended_unique {retry : Retry} {sleep : UInt64 → Nat} {outcomes : Nat → Except Status α}
    {first second : Run α} {turns others : Nat}
    (ends : (retry.turn sleep outcomes)^[turns] .start = .ended first)
    (also : (retry.turn sleep outcomes)^[others] .start = .ended second) : first = second := by
  have together : (retry.turn sleep outcomes)^[turns + others] .start = .ended first := by
    rw [Nat.add_comm, Function.iterate_add_apply, ends, iterate_ended]
  rw [Function.iterate_add_apply, also, iterate_ended] at together
  exact (Stage.ended.inj together).symm

/-- A call is repeated until an outcome settles the matter or all calls that are allowed are made,
and the last outcome is the result. Where a pause lasts as long as it is asked to, each call is made
after the pauses that the policy sets between the calls before it. The loop ends with that call, and
the word that counts its turns never runs over. -/
theorem run_executes_policy (retry : Retry) (sleep : UInt64 → Nat)
    (outcomes : Nat → Except Status α)
    (punctual : ∀ attempt, sleep (retry.backoff attempt) = (retry.backoff attempt).toNat) :
    ∃ calls, IsLeast (retry.endings outcomes) calls ∧
      retry.run sleep outcomes =
        ⟨(List.range calls).map retry.elapsed, outcomes (calls - 1),
          retry.reports outcomes (calls - 1)⟩ ∧
        (∀ turns < calls, turns.toUInt32.toNat = turns ∧
          (retry.turn sleep outcomes)^[turns] .start =
            .calling turns.toUInt32 (retry.elapsed turns) ((List.range turns).map retry.elapsed)
              (retry.reports outcomes turns)) ∧
          ∀ turns ≥ calls, (retry.turn sleep outcomes)^[turns] .start =
            .ended (retry.run sleep outcomes) := by
  obtain ⟨calls, least⟩ := exists_isLeast_endings retry outcomes
  obtain ⟨_, ran⟩ := retry.iterate_turn_run sleep outcomes
  have ends := iterate_turn_calls least punctual
  have same := ended_unique ran ends
  refine ⟨calls, least, same, fun turns early => ⟨?_, iterate_turn_lt least punctual early⟩, ?_⟩
  · exact toNat_toUInt32 ((early.trans_le (calls_le least)).trans retry.attempts_lt_size)
  · intro turns late
    obtain ⟨more, rfl⟩ := Nat.exists_eq_add_of_le' late
    rw [Function.iterate_add_apply, ends, iterate_ended, same]

/-- A policy whose second pause would be longer than it allows. -/
def hurried : Retry := { maxBackoff := 150 }

/-- A call that succeeds when it is made for the third time. -/
def thirdTime (call : Nat) : Except Status Nat :=
  if call < 2 then .error ⟨.unavailable, "x"⟩ else .ok call

/-- With a timer that keeps to what it is asked for, the third call is made behind a pause of 100
and one of 150 milliseconds. -/
theorem run_executes_policy_third_time :
    (∀ attempt, UInt64.toNat (hurried.backoff attempt) = (hurried.backoff attempt).toNat) ∧
      ∃ calls, IsLeast (hurried.endings thirdTime) calls ∧
        (hurried.run UInt64.toNat thirdTime).calledAt = (List.range calls).map hurried.elapsed ∧
          (hurried.run UInt64.toNat thirdTime).calledAt = [0, 100, 250] :=
  have ⟨calls, least, same, _⟩ := run_executes_policy hurried UInt64.toNat thirdTime fun _ => rfl
  ⟨fun _ => rfl, calls, least, congrArg Run.calledAt same, by decide +kernel⟩

end Backplane.Rpc.Retry
