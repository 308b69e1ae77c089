/-
This file defines the outcome codes of remote calls, the status made of one and a message, and
what may travel with a status.
-/

import Backplane.Rpc.Headers

namespace Backplane.Rpc

inductive Code
  | ok
  | cancelled
  | unknown
  | invalidArgument
  | deadlineExceeded
  | notFound
  | alreadyExists
  | permissionDenied
  | resourceExhausted
  | failedPrecondition
  | aborted
  | outOfRange
  | unimplemented
  | internal
  | unavailable
  | dataLoss
  | unauthenticated
deriving DecidableEq, Repr

namespace Code

/-- Every code, each at the place of its number. -/
def all : List Code :=
  [.ok, .cancelled, .unknown, .invalidArgument, .deadlineExceeded, .notFound, .alreadyExists,
    .permissionDenied, .resourceExhausted, .failedPrecondition, .aborted, .outOfRange,
    .unimplemented, .internal, .unavailable, .dataLoss, .unauthenticated]

def name : Code → String
  | .ok => "Ok"
  | .cancelled => "Cancelled"
  | .unknown => "Unknown"
  | .invalidArgument => "InvalidArgument"
  | .deadlineExceeded => "DeadlineExceeded"
  | .notFound => "NotFound"
  | .alreadyExists => "AlreadyExists"
  | .permissionDenied => "PermissionDenied"
  | .resourceExhausted => "ResourceExhausted"
  | .failedPrecondition => "FailedPrecondition"
  | .aborted => "Aborted"
  | .outOfRange => "OutOfRange"
  | .unimplemented => "Unimplemented"
  | .internal => "Internal"
  | .unavailable => "Unavailable"
  | .dataLoss => "DataLoss"
  | .unauthenticated => "Unauthenticated"

def number (code : Code) : Nat := all.idxOf code

/-- The code of a number; other numbers stand for an unknown outcome. -/
def ofNumber (number : Int) : Code :=
  if number < 0 then .unknown else (all[number.toNat]?).getD .unknown

def ofName? (name : String) : Option Code := all.find? fun code => code.name = name

end Code

/-- The outcome of a call that did not succeed. -/
structure Status where
  code : Code
  message : String
deriving DecidableEq, Repr

/-- A status with what may travel with it: details that programs read, and metadata. -/
structure Conclusion extends Status where
  details : Bytes := []
  metadata : Headers := []
deriving DecidableEq, Repr

/-- The conclusion as it stands in log lines. -/
def Conclusion.write (conclusion : Conclusion) : String :=
  "status: " ++ conclusion.code.name ++ ", message: " ++ Text.quoted conclusion.message ++
    ", details: [" ++ ", ".intercalate (conclusion.details.map toString) ++
    "], metadata: MetadataMap \x7b headers: " ++ conclusion.metadata.write ++ " \x7d"

end Backplane.Rpc
