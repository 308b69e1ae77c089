/-
This file defines the failures of the library and what callers over the network learn of them.
-/

import Backplane.Config.Error
import Backplane.Json.Print
import Backplane.Log.Event
import Backplane.Redis.Error
import Backplane.Rpc.Status
import Backplane.Span
import Backplane.SystemError

namespace Backplane

/-- A failure of the database. -/
inductive DatabaseError
  | protocol (message : String)
  | rowNotFound
  | poolTimedOut
  | poolClosed
  | workerCrashed
  /-- What the database or its driver says in words of its own. -/
  | other (text : String)
deriving DecidableEq, Repr

def DatabaseError.message : DatabaseError → String
  | .protocol message => "encountered unexpected or invalid data: " ++ message
  | .rowNotFound => "no rows returned by a query that expected to return at least one row"
  | .poolTimedOut => "pool timed out while waiting for an open connection"
  | .poolClosed => "attempted to acquire a connection on a closed pool"
  | .workerCrashed => "attempted to communicate with a crashed background worker"
  | .other text => text

/-- A failure of collecting metrics. -/
inductive MetricsError
  | message (text : String)
  | alreadyRegistered
  | labelCount (expected actual : Nat)
  /-- What input, output or encoding say in words of their own. -/
  | other (text : String)
deriving DecidableEq, Repr

def MetricsError.write : MetricsError → String
  | .message text => "Error: " ++ text
  | .alreadyRegistered => "Duplicate metrics collector registration attempted"
  | .labelCount expected actual =>
      "Inconsistent label cardinality, expect " ++ toString expected ++
        " label values, but got " ++ toString actual
  | .other text => text

/-- A failure of any part of the library. -/
inductive Fault
  | config (error : Config.Error)
  | redis (error : Redis.Error)
  | database (error : DatabaseError)
  | serialization (message : String)
  | input (error : InputError)
  | transport (message : String)
  | status (conclusion : Rpc.Conclusion)
  | notFound (message : String)
  | alreadyInitialized (message : String)
  | notInitialized (message : String)
  | invalidArgument (message : String)
  | tls (message : String)
  | shutdownTimeout (waited : Span)
  | metrics (error : MetricsError)
  | telemetry (message : String)
  | internal (message : String)

namespace Fault

/-- The failure in full, for logs. -/
def message : Fault → String
  | .config error => "Configuration error: " ++ error.write
  | .redis error => "Redis error: " ++ error.message
  | .database error => "Database error: " ++ error.message
  | .serialization text => "Serialization error: " ++ text
  | .input error => "I/O error: " ++ error.message
  | .transport text => "Transport error: " ++ text
  | .status conclusion => "gRPC status: " ++ conclusion.write
  | .notFound text => "Not found: " ++ text
  | .alreadyInitialized text => "Already initialized: " ++ text
  | .notInitialized text => "Not initialized: " ++ text
  | .invalidArgument text => "Invalid argument: " ++ text
  | .tls text => "TLS error: " ++ text
  | .shutdownTimeout waited => "Shutdown timed out after " ++ waited.write
  | .metrics error => "Metrics error: " ++ error.write
  | .telemetry text => "Telemetry error: " ++ text
  | .internal text => "Internal error: " ++ text

/-- The report of a failure whose text is kept from callers. -/
def report (fault : Fault) : Log.Event :=
  .plain .error ("Internal error: " ++ fault.message)

/-- The status that a caller gets, and what is logged. -/
def toStatus (fault : Fault) : Rpc.Conclusion × List Log.Event :=
  match fault with
  | .status conclusion => (conclusion, [])
  | .notFound text => ({ code := .notFound, message := text }, [])
  | .invalidArgument text => ({ code := .invalidArgument, message := text }, [])
  | .notInitialized text => ({ code := .failedPrecondition, message := text }, [])
  | _ => ({ code := .internal, message := "internal server error" }, [fault.report])

/-- An answer over HTTP to a failed request. -/
structure Response where
  status : Nat
  code : Nat
  message : String
deriving DecidableEq, Repr

/-- The body of an answer. -/
def Response.body (response : Response) : String :=
  "\x7b\"code\":" ++ toString response.code ++ ",\"message\":" ++
    Json.writeString response.message ++ "\x7d"

/-- The headers of an answer. -/
def Response.headers : List (String × String) := [("content-type", "application/json")]

/-- The answer over HTTP that a caller gets, and what is logged. -/
def toResponse (fault : Fault) : Response × List Log.Event :=
  match fault with
  | .notFound text => (⟨404, 10001, text⟩, [])
  | .invalidArgument text => (⟨400, 10002, text⟩, [])
  | .notInitialized text => (⟨503, 10003, text⟩, [])
  | .status ⟨⟨.resourceExhausted, _⟩, _, _⟩ => (⟨429, 10006, "Rate limited"⟩, [])
  | _ => (⟨500, 10000, "Internal server error"⟩, [fault.report])

end Fault

end Backplane
