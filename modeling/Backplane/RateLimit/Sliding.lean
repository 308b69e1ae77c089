/-
This file limits the events of each key within a sliding window. Instants count the ticks of a
clock since some fixed start. Keys without events in the window are forgotten, at the latest by a
sweep that runs once per window.
-/

import Backplane.Bits
import Std.Data.TreeMap

namespace Backplane.RateLimit

/-- A call of a limiter. -/
inductive Call
  | allow (key : String) (count now : Nat)
  | remaining (key : String) (now : Nat)
  | reset (key : String)
  | purge (now : Nat)
deriving DecidableEq, Repr

/-- The answer of a call, or what it breaks down with. -/
inductive Answer
  | admitted (yes : Bool)
  | left (count : Nat)
  | done
  | panicked (message : String)
deriving DecidableEq, Repr

/-- The recorded events of every key, oldest first as recorded. -/
structure Sliding where
  limit : Nat
  window : Nat
  events : Std.TreeMap String (List Nat)
  lastSweep : Nat

namespace Sliding

/-- A limiter without events. -/
def new (limit window created : Nat) : Sliding :=
  { limit, window, events := ∅, lastSweep := created }

/-- Drops events from the front that are a whole window old. -/
def prune (window now : Nat) (events : List Nat) : List Nat :=
  events.dropWhile fun event => event + window ≤ now

/-- Prunes every key and forgets those without events. -/
def sweep (limiter : Sliding) (now : Nat) : Sliding :=
  { limiter with
    events := limiter.events.filterMap fun _ events =>
      let kept := prune limiter.window now events
      if kept.isEmpty then none else some kept
    lastSweep := now }

/-- Sweeps if a window has passed since the last sweep. -/
def sweepIfDue (limiter : Sliding) (now : Nat) : Sliding :=
  if limiter.window ≤ now - limiter.lastSweep then limiter.sweep now else limiter

/-- Prunes one key, which stays known even without events. -/
def pruneKey (limiter : Sliding) (key : String) (now : Nat) : Sliding :=
  match limiter.events[key]? with
  | some events =>
      { limiter with events := limiter.events.insert key (prune limiter.window now events) }
  | none => limiter

/-- The recorded events of a key. -/
def recorded (limiter : Sliding) (key : String) : List Nat :=
  (limiter.events[key]?).getD []

/-- Forgets a key. -/
def reset (limiter : Sliding) (key : String) : Sliding :=
  { limiter with events := limiter.events.erase key }

/-- Tells whether events fit within the limit. -/
def Grants (limiter : Sliding) (key : String) (count now : Nat) : Prop :=
  count ≤ limiter.limit - (prune limiter.window now (limiter.recorded key)).length

instance (limiter : Sliding) (key : String) (count now : Nat) :
    Decidable (limiter.Grants key count now) := inferInstanceAs (Decidable (_ ≤ _))

/-- Records `count` events at once if they all fit within the limit, and tells whether they do. -/
def grant (limiter : Sliding) (key : String) (count now : Nat) : Bool × Sliding :=
  let pruned := (limiter.sweepIfDue now).pruneKey key now
  let used := (pruned.recorded key).length
  if count ≤ limiter.limit - used then
    if 0 < count then
      (true,
        { pruned with
          events := pruned.events.insert key (pruned.recorded key ++ List.replicate count now) })
    else (true, pruned)
  else if used = 0 then (false, pruned.reset key)
  else (false, pruned)

/-- The most instants that a queue can have room for. An instant takes 16 bytes, and no more bytes
can be asked for at once than a signed word counts. -/
def longestQueue : Nat := Bits.most 63 / 16

/-- Tells whether events that are granted ask for more room than a queue can have. -/
def Overflows (limiter : Sliding) (key : String) (count now : Nat) : Prop :=
  0 < count ∧ limiter.Grants key count now ∧
    longestQueue < (prune limiter.window now (limiter.recorded key)).length + count

instance (limiter : Sliding) (key : String) (count now : Nat) :
    Decidable (limiter.Overflows key count now) := inferInstanceAs (Decidable (_ ∧ _ ∧ _))

/-- Records `count` events at once if they all fit, and tells whether they do. Without room in the
queue the call breaks down, and the key is known by then. -/
def allow (limiter : Sliding) (key : String) (count now : Nat) : Option Bool × Sliding :=
  if limiter.Overflows key count now then
    let pruned := (limiter.sweepIfDue now).pruneKey key now
    (none, { pruned with events := pruned.events.insert key (pruned.recorded key) })
  else
    let (yes, next) := limiter.grant key count now
    (some yes, next)

/-- How many events still fit. -/
def remaining (limiter : Sliding) (key : String) (now : Nat) : Nat × Sliding :=
  match limiter.events[key]? with
  | none => (limiter.limit, limiter)
  | some _ =>
      let pruned := limiter.pruneKey key now
      let used := (pruned.recorded key).length
      (limiter.limit - used, if used = 0 then pruned.reset key else pruned)

/-- Forgets every key without events in the window. -/
def purge (limiter : Sliding) (now : Nat) : Sliding := limiter.sweep now

/-- The number of known keys. -/
def tracked (limiter : Sliding) : Nat := limiter.events.size

def step (limiter : Sliding) : Call → Answer × Sliding
  | .allow key count now =>
      let (yes, next) := limiter.allow key count now
      (yes.elim (.panicked "capacity overflow") .admitted, next)
  | .remaining key now =>
      let (count, next) := limiter.remaining key now
      (.left count, next)
  | .reset key => (.done, limiter.reset key)
  | .purge now => (.done, limiter.purge now)

/-- The answers of a run of calls, and the limiter after it. -/
def run (limiter : Sliding) : List Call → List Answer × Sliding
  | [] => ([], limiter)
  | call :: calls =>
      let (answer, next) := limiter.step call
      let (answers, last) := next.run calls
      (answer :: answers, last)

end Sliding

end Backplane.RateLimit
