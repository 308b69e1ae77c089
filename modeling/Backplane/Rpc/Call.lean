/-
This file defines calls and what comes of them.
-/

import Backplane.Bits
import Backplane.Decimal.Read
import Backplane.Entries
import Backplane.Language
import Backplane.Rpc.Headers
import Backplane.Rpc.Status
import Backplane.Text.Percent

namespace Backplane.Rpc

/-- The other end of a connection. -/
structure Peer where
  address : String
  port : Nat
deriving DecidableEq, Repr

/-- An address and its port; an address with colons stands in brackets. -/
def Peer.write (peer : Peer) : String :=
  (if peer.address.toList.contains ':' then "[" ++ peer.address ++ "]" else peer.address) ++
    ":" ++ toString peer.port

/-- What travels with a call besides its target and body. The language and the notes are set on
the way and not sent. -/
structure Metadata where
  headers : Headers := []
  peer : Option Peer := none
  language : Option Language := none
  notes : Entries String := []
deriving DecidableEq, Repr

structure Call where
  target : String
  body : Bytes := []
  metadata : Metadata := {}
  /-- How the target is asked for. -/
  verb : String := "POST"
deriving DecidableEq, Repr

namespace Call

/-- The method that is called: the target without its query. -/
def method (call : Call) : String := String.ofList (call.target.toList.takeWhile (· ≠ '?'))

def headers (call : Call) : Headers := call.metadata.headers

/-- The language of a call, or the usual one. -/
def language (call : Call) : Language := call.metadata.language.getD .usual

end Call

/-- What a handler that breaks down leaves behind. -/
inductive Panic
  | fixed (text : String)
  | composed (text : String)
  | other
deriving DecidableEq, Repr

/-- What comes of letting go what a breakdown left behind, if letting go what is no text comes to
`destructor`: a text is let go in silence. -/
def Panic.dropped (destructor : Option Panic) : Panic → Option Panic
  | .other => destructor
  | _ => none

/-- The text of a breakdown, for logs. -/
def Panic.message : Panic → String
  | .fixed text => text
  | .composed text => text
  | .other => "unknown panic"

structure Reply where
  http : Nat := 200
  headers : Headers := []
  body : Bytes := []
deriving DecidableEq, Repr

namespace Reply

/-- Names that metadata may not have on the way to a caller. -/
def reserved : List String :=
  ["te", "content-type", "grpc-message", "grpc-message-type", "grpc-status"]

/-- What metadata may say to a caller. -/
def allowed (metadata : Headers) : Headers :=
  metadata.filter fun header => !reserved.contains header.1

/-- The name of the header with details. -/
def detailsName : String := "grpc-status-details-bin"

/-- The reply without a body that carries a status and what travels with it. A header that the
status sets takes the place of what the metadata has under its name. -/
def ofConclusion (conclusion : Conclusion) : Reply :=
  let typed : Headers :=
    ("content-type", Headers.bytes "application/grpc") :: allowed conclusion.metadata
  let coded := typed.put "grpc-status" (Headers.bytes (toString conclusion.code.number))
  let told :=
    if conclusion.message.isEmpty then coded
    else coded.put "grpc-message" (Headers.bytes (Text.percentEncode conclusion.message))
  { headers :=
      if conclusion.details.isEmpty then told
      else told.put detailsName (Headers.bytes (Text.base64Encode conclusion.details)) }

/-- The reply that carries a status and nothing else. -/
def ofStatus (status : Status) : Reply := ofConclusion { toStatus := status }

/-- The code that headers carry; without a readable one the call went well. -/
def codeOf (headers : Headers) : Code :=
  match (headers.text? "grpc-status").bind fun text =>
      Decimal.signed? (Bits.leastSigned 32) (Bits.mostSigned 32) text.toList with
  | some number => Code.ofNumber number
  | none => .ok

def code (reply : Reply) : Code := codeOf reply.headers

/-- What stands for a message that is no text. -/
def unreadableMessage : String := "Error deserializing status message header: invalid utf-8"

/-- The message that headers carry beside a code, unless it is empty. -/
def messageOf? (headers : Headers) : Option String :=
  if !headers.has "grpc-status" then none
  else
    match headers.first? "grpc-message" with
    | none => none
    | some value =>
        match Text.ofUtf8? ⟨(Text.percentDecode value).toArray⟩ with
        | some text => if text.isEmpty then none else some text
        | none => some unreadableMessage

def message? (reply : Reply) : Option String := messageOf? reply.headers

end Reply

/-- What comes of a call. -/
inductive Outcome
  | replied (reply : Reply)
  | lost (reason : String)
  | panicked (panic : Panic)
deriving DecidableEq, Repr

namespace Outcome

/-- The code that an outcome counts as. -/
def code : Outcome → Code
  | .replied reply => reply.code
  | .lost _ => .unavailable
  | .panicked _ => .internal

end Outcome

end Backplane.Rpc
