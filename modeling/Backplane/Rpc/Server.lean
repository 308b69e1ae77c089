/-
This file defines a server of remote calls through its life: it is bound to an address, services
are registered, it is started, and it is stopped.
-/

import Backplane.Rpc.Credentials

namespace Backplane.Rpc

/-- A server that is bound to an address. The listener is there until the server is started. -/
structure Server where
  address : String
  credentials : Option Credentials := none
  listening : Bool := true
  routes : List String := []
  services : List String := []
  running : Bool := false
  serving : Bool := false

/-- How the serving task of a server ends once it is told to stop. -/
inductive Ending
  | graceful
  | broken (reason : String)
  | crashed (reason : String)
  | late
deriving DecidableEq, Repr

/-- The result of a stop that waits for a time. -/
def Ending.result (waited : Span) : Ending → Except Fault Unit
  | .graceful => .ok ()
  | .broken reason => .error (.transport reason)
  | .crashed reason => .error (.internal ("gRPC server task failed: " ++ reason))
  | .late => .error (.shutdownTimeout waited)

namespace Server

/-- Binds a server: reads what secures it, then listens. `listen` is the address that the system
gave, or its failure. -/
def bind (settings : Settings.Server) (files : Files) (listen : Except InputError String) :
    Except Fault Server := do
  let credentials ←
    match settings.tls.filter Settings.Tls.enabled with
    | some tls =>
        let credentials ← Credentials.forServer files tls
        pure (some credentials)
    | none => pure none
  match listen with
  | .error error =>
      throw (.input (.other
        ("failed to listen on " ++ settings.address ++ ": " ++ error.message)))
  | .ok address => return { address, credentials }

def alreadyStarted : Fault := .alreadyInitialized "gRPC server already started"

def tooLate (service : String) : Fault :=
  .alreadyInitialized ("cannot register " ++ service ++ " on a started server")

/-- Adds a service to a server that was not started. -/
def register (server : Server) (service : String) : Except Fault Unit × Server :=
  if server.listening then
    (.ok (),
      { server with
        routes := server.routes ++ [service]
        services := server.services ++ [service] })
  else (.error (tooLate service), server)

/-- Starts a server: the serving task takes the listener and the routes. `sound` tells which
credentials can be served with; the listener is gone even if they cannot. -/
def start (server : Server) (sound : Credentials → Bool) : Except Fault Unit × Server :=
  if !server.listening then (.error alreadyStarted, server)
  else
    let taken := { server with listening := false }
    if server.credentials.all sound then
      (.ok (), { taken with routes := [], running := true, serving := true })
    else (.error (.transport "transport error"), taken)

/-- Stops the serving task, if there is one, and waits for it. -/
def stop (server : Server) (waited : Span) (ending : Ending) : Except Fault Unit × Server :=
  if server.running then
    (ending.result waited, { server with running := false, serving := false })
  else (.ok (), server)

/-- The serving task ends by itself; it still has to be waited for. -/
def exit (server : Server) : Server := { server with serving := false }

end Server

end Backplane.Rpc
