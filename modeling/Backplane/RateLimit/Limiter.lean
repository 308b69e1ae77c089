/-
This file chooses the rate limiter that settings ask for and puts calls to it.
-/

import Backplane.RateLimit.Sliding
import Backplane.Redis.Connection
import Backplane.Settings.Basic

namespace Backplane.RateLimit

/-- What a limiter without a limit answers to how many events still fit. -/
def unlimitedRemaining : Nat := 999999

/-- A limiter that can be called without a server. -/
inductive Limiter
  | unlimited
  | memory (events : Sliding)

namespace Limiter

/-- Answers a call. -/
def step : Limiter → Call → Answer × Limiter
  | .unlimited, .allow _ _ _ => (.admitted true, .unlimited)
  | .unlimited, .remaining _ _ => (.left unlimitedRemaining, .unlimited)
  | .unlimited, _ => (.done, .unlimited)
  | .memory events, call =>
      let (answer, next) := events.step call
      (answer, .memory next)

/-- The answers of a run of calls. -/
def run : Limiter → List Call → List Answer
  | _, [] => []
  | limiter, call :: calls =>
      let (answer, next) := limiter.step call
      answer :: next.run calls

end Limiter

/-- Where the events of a limiter are kept. -/
inductive Plan
  | unlimited
  | memory (limit : Nat) (window : Span)
  /-- Behind a connection of its own if there is an address, else behind the common one. -/
  | shared (address : Option String) (limit : Nat) (window : Span) (space : String)

/-- The limiter that settings ask for; `common` tells whether there is a common connection. -/
def plan (settings : Settings.Limiter) (common : Bool) : Except Fault Plan :=
  let limit := settings.limit.toNat
  if !settings.enabled then .ok .unlimited
  else
    match settings.backend with
    | .memory => .ok (.memory limit settings.window)
    | .redis =>
        if settings.redisUrl.isNone && !common then
          .error (.invalidArgument "redis rate limiter requires a redis connection")
        else .ok (.shared settings.redisUrl limit settings.window settings.keyPrefix)

/-- The time that the first contact with the server of a limiter may take. -/
def contactTime : Span := .ofSeconds 5

/-- The key of a limiter on a server. -/
def placeKey (space key : String) : String := if space.isEmpty then key else space ++ ":" ++ key

end Backplane.RateLimit
