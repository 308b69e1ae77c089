/-
This file rewrites the addresses of databases, and defines the pool of connections to them and the
monitor that watches it.
-/

import Backplane.Fault
import Backplane.Settings.Basic

namespace Backplane.Database

/-- Shortens the scheme of an address to the one that is understood everywhere. -/
def shortenScheme (address : String) : String :=
  match "postgresql://".toList.isPrefixOf? address.toList with
  | some rest => "postgres://" ++ String.ofList rest
  | none => address

/-- A pool. It is watched from when it is opened until it is closed. -/
structure Pool where
  closed : Bool := false
  monitored : Bool := true
deriving DecidableEq, Repr

/-- What comes of the first statement sent to a database. -/
inductive Contact
  | answered
  | failed (error : DatabaseError)
  | silent
deriving DecidableEq, Repr

namespace Pool

/-- Opens a pool, given what comes of the first contact. -/
def connect (settings : Settings.Database) : Contact → Except Fault Pool
  | .answered => .ok {}
  | .failed error => .error (.database error)
  | .silent =>
      .error (.input (.other ("database ping timed out after " ++
        (Span.ofSeconds settings.connectTimeout.toNat).write)))

/-- Stops the monitor and closes every connection. -/
def close (_ : Pool) : Pool := { closed := true, monitored := false }

end Pool

end Backplane.Database
