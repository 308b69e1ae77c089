/-
This file rates the health of a service by that of the services behind it.
-/

namespace Backplane

inductive Health
  | healthy
  | degraded
  | unhealthy
deriving DecidableEq, Repr

namespace Health

def name : Health → String
  | .healthy => "healthy"
  | .degraded => "degraded"
  | .unhealthy => "unhealthy"

def ofName? : String → Option Health
  | "healthy" => some .healthy
  | "degraded" => some .degraded
  | "unhealthy" => some .unhealthy
  | _ => none

/-- A slow answer degrades a service. -/
def ofLatency (milliseconds allowed : Nat) : Health :=
  if milliseconds < allowed then .healthy else .degraded

/-- Without the database nothing works; the cache can only degrade. -/
def overall (database cache : Option Health) : Health :=
  if database = some .unhealthy then .unhealthy
  else if database = some .degraded ∨ cache = some .unhealthy ∨ cache = some .degraded then
    .degraded
  else .healthy

/-- The HTTP status of a readiness probe. -/
def probeStatus (health : Health) : Nat := if health = .unhealthy then 503 else 200

end Health

end Backplane
