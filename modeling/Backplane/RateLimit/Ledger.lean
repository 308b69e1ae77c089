/-
This file states what a limiter must answer. A ledger keeps every admitted event until its key is
reset, and counts those in the window anew for each call.
-/

import Backplane.RateLimit.Sliding

namespace Backplane.RateLimit

/-- Every admitted event since the last reset of its key, in order. -/
structure Ledger where
  limit : Nat
  window : Nat
  admitted : List (String × Nat)

namespace Ledger

def new (limit window : Nat) : Ledger := { limit, window, admitted := [] }

/-- Tells whether an event of the key lies in the window that ends now. -/
def counts (ledger : Ledger) (key : String) (now : Nat) (event : String × Nat) : Bool :=
  event.1 = key && now < event.2 + ledger.window

/-- The number of events of a key in the window that ends now. -/
def used (ledger : Ledger) (key : String) (now : Nat) : Nat :=
  ledger.admitted.countP (ledger.counts key now)

/-- Records `count` events at once if they all fit, and tells whether they do. -/
def allow (ledger : Ledger) (key : String) (count now : Nat) : Bool × Ledger :=
  if count + ledger.used key now ≤ ledger.limit then
    (true, { ledger with admitted := ledger.admitted ++ List.replicate count (key, now) })
  else (false, ledger)

/-- Tells whether events that fit ask for more room than a queue can have. -/
def Overflows (ledger : Ledger) (key : String) (count now : Nat) : Prop :=
  0 < count ∧ count + ledger.used key now ≤ ledger.limit ∧
    Sliding.longestQueue < count + ledger.used key now

/-- Tells whether the events of a call, if it is granted any, have room in a queue. -/
def HasRoom (ledger : Ledger) : Call → Prop
  | .allow key count now => ¬ ledger.Overflows key count now
  | _ => True

/-- How many events still fit. -/
def remaining (ledger : Ledger) (key : String) (now : Nat) : Nat :=
  ledger.limit - ledger.used key now

/-- Forgets the events of a key. -/
def reset (ledger : Ledger) (key : String) : Ledger :=
  { ledger with admitted := ledger.admitted.filter fun event => event.1 ≠ key }

def step (ledger : Ledger) : Call → Answer × Ledger
  | .allow key count now =>
      let (yes, next) := ledger.allow key count now
      (.admitted yes, next)
  | .remaining key now => (.left (ledger.remaining key now), ledger)
  | .reset key => (.done, ledger.reset key)
  | .purge _ => (.done, ledger)

/-- The answers of a run of calls, and the ledger after it. -/
def run (ledger : Ledger) : List Call → List Answer × Ledger
  | [] => ([], ledger)
  | call :: calls =>
      let (answer, next) := ledger.step call
      let (answers, last) := next.run calls
      (answer :: answers, last)

end Ledger

/-- The clock of a call, if it reads one. -/
def Call.now? : Call → Option Nat
  | .allow _ _ now => some now
  | .remaining _ now => some now
  | .reset _ => none
  | .purge now => some now

/-- The events that a run of calls admits, with their keys. -/
def admissions : List Call → List Answer → List (String × Nat)
  | .allow key count now :: calls, .admitted true :: answers =>
      List.replicate count (key, now) ++ admissions calls answers
  | _ :: calls, _ :: answers => admissions calls answers
  | _, _ => []

/-- The number of events of a key with an instant in the window that ends at `end`. -/
def admittedWithin (key : String) (window last : Nat) (events : List (String × Nat)) : Nat :=
  events.countP fun event => event.1 = key && event.2 ≤ last && last < event.2 + window

end Backplane.RateLimit
