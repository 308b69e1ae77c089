/-
This file holds the server of a service, if it has one, and its clients.
-/

import Backplane.Rpc.Clients
import Backplane.Rpc.Server

namespace Backplane.Rpc

/-- The settings, the server once it is bound, the address it was first bound to, and the
clients. -/
structure Hub where
  settings : Settings.Remote
  server : Option Server := none
  bound : Option String := none
  clients : Clients

namespace Hub

/-- A hub without a server; every client of the settings is configured. -/
def new (settings : Settings.Remote) : Hub :=
  { settings, clients := .ofSettings settings.clients }

def notInitialized : Fault :=
  .notInitialized "gRPC server not initialized, call init_server first"

def alreadyInitialized : Fault := .alreadyInitialized "gRPC server already initialized"

/-- Binds the server, and answers its address. -/
def bindServer (hub : Hub) (files : Files) (listen : Except InputError String) :
    Except Fault String × Hub :=
  if hub.server.isSome then (.error alreadyInitialized, hub)
  else
    match Server.bind hub.settings.server files listen with
    | .error fault => (.error fault, hub)
    | .ok server =>
        (.ok server.address,
          { hub with server := some server, bound := hub.bound <|> some server.address })

/-- Lets the server do something, if there is one. -/
def withServer (hub : Hub) (action : Server → Except Fault Unit × Server) :
    Except Fault Unit × Hub :=
  match hub.server with
  | none => (.error notInitialized, hub)
  | some server =>
      let (result, next) := action server
      (result, { hub with server := some next })

def register (hub : Hub) (service : String) : Except Fault Unit × Hub :=
  hub.withServer (·.register service)

def startServer (hub : Hub) (sound : Credentials → Bool) : Except Fault Unit × Hub :=
  hub.withServer (·.start sound)

/-- Stops the server; without one there is nothing to stop. -/
def stopServer (hub : Hub) (waited : Span) (ending : Ending) :
    Except Fault Unit × Hub :=
  match hub.server with
  | none => (.ok (), hub)
  | some server =>
      let (result, next) := server.stop waited ending
      (result, { hub with server := some next })

/-- Stops the server and drops all clients, however the stop ends. -/
def close (hub : Hub) (waited : Span) (ending : Ending) : Except Fault Unit × Hub :=
  let (result, stopped) := hub.stopServer waited ending
  (result, { stopped with clients := stopped.clients.closeAll })

def isServing (hub : Hub) : Bool :=
  hub.bound.isSome && hub.server.any Server.serving

/-- The names of the registered services, in order. -/
def services (hub : Hub) : List String :=
  (hub.server.map Server.services).getD []

/-- A call that concerns the server. The outside world decides how it goes: which address the
system gives, which credentials are sound, how the serving task ends. -/
inductive Request
  | bindServer (files : Files) (listen : Except InputError String)
  | register (service : String)
  | startServer (sound : Credentials → Bool)
  | stopServer (waited : Span) (ending : Ending)
  | close (waited : Span) (ending : Ending)

/-- The answer of a call: its result, and the address if it bound the server. -/
structure Answer where
  result : Except Fault Unit
  address : Option String := none

def step (hub : Hub) : Request → Answer × Hub
  | .bindServer files listen =>
      match hub.bindServer files listen with
      | (.ok address, next) => ({ result := .ok (), address := some address }, next)
      | (.error fault, next) => ({ result := .error fault }, next)
  | .register service =>
      let (result, next) := hub.register service
      ({ result }, next)
  | .startServer sound =>
      let (result, next) := hub.startServer sound
      ({ result }, next)
  | .stopServer waited ending =>
      let (result, next) := hub.stopServer waited ending
      ({ result }, next)
  | .close waited ending =>
      let (result, next) := hub.close waited ending
      ({ result }, next)

/-- The answers of a run of calls, and the hub after it. -/
def run (hub : Hub) : List Request → List Answer × Hub
  | [] => ([], hub)
  | request :: requests =>
      let (answer, next) := hub.step request
      let (answers, last) := next.run requests
      (answer :: answers, last)

end Hub

end Backplane.Rpc
