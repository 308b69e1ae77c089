/-
This file follows repeated calls turn by turn. The number of a turn is kept in a word, which could
run over.
-/

import Backplane.Rpc.Retry

namespace Backplane.Rpc.Retry

/-- Where repeated calls are: before a call, at their end, or without a number for the next turn. -/
inductive Stage (α : Type)
  | calling (attempt : UInt32) (clock : Nat) (calledAt : List Nat) (events : List Log.Event)
  | ended (run : Run α)
  | overflown

/-- The next word, if there is one. -/
def successor? (word : UInt32) : Option UInt32 :=
  if word.toNat + 1 < UInt32.size then some (word + 1) else none

/-- One turn: a call, whose outcome is that behind all calls made so far, and the pause after it. -/
def turn (retry : Retry) (sleep : UInt64 → Nat) (outcomes : Nat → Except Status α) :
    Stage α → Stage α
  | .calling attempt clock calledAt events =>
      let outcome := outcomes calledAt.length
      let called := calledAt ++ [clock]
      match outcome with
      | .ok _ => .ended ⟨called, outcome, events⟩
      | .error status =>
          if retryable status.code then
            match successor? attempt with
            | none => .overflown
            | some next =>
                if next.toNat < retry.attempts then
                  .calling next (clock + sleep (retry.backoff attempt)) called
                    (events ++ [retry.report attempt.toNat status (retry.backoff attempt)])
                else .ended ⟨called, outcome, events⟩
          else .ended ⟨called, outcome, events⟩
  | stage => stage

/-- Before the first call. -/
def Stage.start : Stage α := .calling 0 0 [] []

end Backplane.Rpc.Retry
