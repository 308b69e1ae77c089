/-
This file limits events of keys that several processes share. The events are the members of a
sorted set on a server, scored with the clock of the caller, and the server runs each script as a
whole. Its numbers are exact below ten to the fourteenth.
-/

import Backplane.Bits
import Backplane.RateLimit.Limiter
import Backplane.Redis.SortedSet

namespace Backplane.RateLimit

/-- A limiter whose events are kept on a server; times are in milliseconds. -/
structure Shared where
  limit : Nat
  window : Nat
  space : String

namespace Shared

/-- The largest window that is sent. -/
def longestWindow : Nat := Bits.most 63

/-- A limiter with a window in whole milliseconds. -/
def new (limit : Nat) (window : Span) (space : String) : Shared :=
  { limit, window := min window.milliseconds longestWindow, space }

/-- The key on the server. -/
def place (limiter : Shared) (key : String) : String := placeKey limiter.space key

/-- How long a set outlives its window. -/
def grace : Nat := 1000

/-- The name of one of the events that a call records. -/
def member (nonce : String) (index : Nat) : String := nonce ++ ":" ++ toString index

/-- Adds the first `count` events of a call. -/
def addEvents (nonce : String) (now : Int) : (count : Nat) → Redis.SortedSet → Redis.SortedSet
  | 0, set => set
  | count + 1, set => (addEvents nonce now count set).add (member nonce (count + 1)) now

/-- The script behind `allow`: one if the events fit and are recorded, else zero. -/
def allowScript (key : String) (now : Int) (window limit count : Nat) (nonce : String)
    (space : Redis.Keyspace) : Nat × Redis.Keyspace :=
  let pruned := space.change key (.dropUpTo (now - window))
  if limit < (pruned.set key).size + count then (0, pruned)
  else
    (1, pruned.change key fun set =>
      (addEvents nonce now count set).expireAt (now + window + grace))

/-- The script behind `remaining`: the number of events in the window. -/
def countScript (key : String) (now : Int) (window : Nat) (space : Redis.Keyspace) :
    Nat × Redis.Keyspace :=
  let pruned := space.change key (.dropUpTo (now - window))
  ((pruned.set key).size, pruned)

/-- A call of a limiter; an `allow` brings a text that no other call has. -/
inductive Request
  | allow (key : String) (count : Nat) (now : Int) (nonce : String)
  | remaining (key : String) (now : Int)
  | reset (key : String)
deriving DecidableEq, Repr

/-- Tells whether events fit and records them if they do. -/
def allow (limiter : Shared) (key : String) (count : Nat) (now : Int) (nonce : String)
    (space : Redis.Keyspace) : Bool × Redis.Keyspace :=
  let (result, next) :=
    allowScript (limiter.place key) now limiter.window limiter.limit count nonce space
  (result == 1, next)

/-- How many events still fit. -/
def remaining (limiter : Shared) (key : String) (now : Int) (space : Redis.Keyspace) :
    Nat × Redis.Keyspace :=
  let (count, next) := countScript (limiter.place key) now limiter.window space
  (limiter.limit - count, next)

/-- Forgets the events of a key. -/
def reset (limiter : Shared) (key : String) (space : Redis.Keyspace) : Redis.Keyspace :=
  space.erase (limiter.place key)

def step (limiter : Shared) (space : Redis.Keyspace) : Request → Answer × Redis.Keyspace
  | .allow key count now nonce =>
      let (yes, next) := limiter.allow key count now nonce space
      (.admitted yes, next)
  | .remaining key now =>
      let (count, next) := limiter.remaining key now space
      (.left count, next)
  | .reset key => (.done, limiter.reset key space)

/-- The answers of a run of calls of one limiter, and what the server holds after it. -/
def run (limiter : Shared) (space : Redis.Keyspace) : List Request →
    List Answer × Redis.Keyspace
  | [] => ([], space)
  | request :: requests =>
      let (answer, next) := limiter.step space request
      let (answers, last) := limiter.run next requests
      (answer :: answers, last)

/-- The clock of a call, if it sends one. -/
def Request.now? : Request → Option Int
  | .allow _ _ now _ => some now
  | .remaining _ now => some now
  | .reset _ => none

/-- The same run on a server that drops sets as soon as their time has passed. -/
def runDropping (limiter : Shared) (space : Redis.Keyspace) : List Request →
    List Answer × Redis.Keyspace
  | [] => ([], space)
  | request :: requests =>
      let kept := match request.now? with
        | some now => space.dropOver now
        | none => space
      let (answer, next) := limiter.step kept request
      let (answers, last) := limiter.runDropping next requests
      (answer :: answers, last)

end Shared

end Backplane.RateLimit
