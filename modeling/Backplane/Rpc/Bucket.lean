/-
This file chooses the bucket against which a call counts, and the calls that count against none.
The address of a caller is that at the other end of the connection, if this is known.
-/

import Backplane.Rpc.Call
import Backplane.Text.Blank
import Backplane.Text.Fields

namespace Backplane.Rpc

/-- What is noted about the connection that a call came over. It is plain or secured, and either way
the other end may be unknown. -/
structure Connection where
  plain : Option (Option Peer) := none
  secured : Option (Option Peer) := none
deriving DecidableEq, Repr

/-- The other end of a connection. What is noted of a plain connection counts first. -/
def Connection.peer? (connection : Connection) : Option Peer :=
  connection.plain.join.or connection.secured.join

/-- The call as it arrives over a connection. -/
def Call.over (call : Call) (connection : Connection) : Call :=
  { call with metadata := { call.metadata with peer := connection.peer? } }

namespace Bucket

/-- The first address that a call was forwarded for, if there is one. -/
def forwarded? (headers : Headers) : Option String := do
  let list ← headers.text? "x-forwarded-for"
  let first := Text.trim (String.ofList (Text.beforeFirst ',' list.toList))
  if first.isEmpty then none else return first

/-- The bucket of the caller's address. Headers count only where the address is not known. -/
def ofPeer (call : Call) : String :=
  match call.metadata.peer with
  | some peer => "ip:" ++ peer.address
  | none =>
      match forwarded? call.headers with
      | some address => "ip:" ++ address
      | none =>
          match call.headers.text? "x-real-ip" with
          | some address => "ip:" ++ Text.trim address
          | none => "unknown"

/-- How much of a token tells its bearer. -/
def tokenLength : Nat := 32

/-- The bucket of a user, else of a token, else of the caller's address. -/
def ofUser (call : Call) : String :=
  match call.headers.text? "user-id" with
  | some user => "user:" ++ user
  | none =>
      match call.headers.text? "authorization" with
      | some token => "token:" ++ String.ofList (token.toList.take tokenLength)
      | none => ofPeer call

def ofMethod (call : Call) : String := "method:" ++ call.method

/-- The bucket of several choices together. -/
def combined (choices : List (Call → String)) (call : Call) : String :=
  ":".intercalate (choices.map fun choice => choice call)

/-- Counts every call. -/
def countsAll (_ : Call) : Bool := false

/-- Lets calls of health checks pass. -/
def exemptsHealth (call : Call) : Bool :=
  (Text.cutFirst? "Health".toList call.method.toList).isSome

/-- Lets calls of the given methods pass. -/
def exemptsMethods (methods : List String) (call : Call) : Bool := methods.contains call.method

end Bucket

end Backplane.Rpc
