/-
This file defines the failures of talking to a cache server.
-/

namespace Backplane.Redis

/-- The class of a failure. -/
inductive Kind
  | serverResponse
  | serverNoScript
  | serverMoved
  | serverReadOnly
  | serverOther (name : String)
  | extension
  | unparsable
  | invalidAddress
  | client
  | input
deriving DecidableEq, Repr

def Kind.name : Kind → String
  | .serverResponse => "Server(ResponseError)"
  | .serverNoScript => "Server(NoScript)"
  | .serverMoved => "Server(Moved)"
  | .serverReadOnly => "Server(ReadOnly)"
  | .serverOther name => "Server(" ++ name ++ ")"
  | .extension => "Extension"
  | .unparsable => "Parse"
  | .invalidAddress => "InvalidClientConfig"
  | .client => "Client"
  | .input => "Io"

/-- A failure; `code` is the first word of what the server said. -/
structure Error where
  kind : Kind
  code : Option String
  description : String
deriving DecidableEq, Repr

/-- The failure in full. The text of a broken connection is that of the system. -/
def Error.message (error : Error) : String :=
  match error.kind with
  | .input => error.description
  | kind => error.description ++ " - " ++ kind.name

end Backplane.Redis
