/-
This file keeps the clients of a service by name. A client is configured first; its channel is
built when it is first asked for and kept until it is closed or configured anew.
-/

import Backplane.Rpc.Endpoint

namespace Backplane.Rpc

/-- A channel, the settings it was built from, and its number among all channels. -/
structure Channel where
  number : Nat
  settings : Settings.Client
  endpoint : Endpoint

/-- How channels are built from settings at some moment. -/
abbrev Building := Settings.Client → Except Fault Endpoint

/-- Configured clients, the channels of those that are connected, and the number of channels
that were ever built. -/
structure Clients where
  configured : Entries Settings.Client := []
  channels : Entries Channel := []
  built : Nat := 0

namespace Clients

def unknownClient (name : String) : Fault := .notFound ("client config not found: " ++ name)

def notConnected (name : String) : Fault := .notFound ("client not found: " ++ name)

def isConnected (clients : Clients) (name : String) : Bool :=
  (clients.channels.get? name).isSome

/-- The names of the configured clients, in order. -/
def names (clients : Clients) : List String := clients.configured.names

/-- Drops the channel of a client. -/
def disconnect (clients : Clients) (name : String) : Clients :=
  { clients with channels := clients.channels.erase name }

/-- Keeps settings for a client. -/
def configure (clients : Clients) (name : String) (settings : Settings.Client) : Clients :=
  { clients with configured := clients.configured.insert name settings }

/-- Forgets the settings of a client. -/
def forget (clients : Clients) (name : String) : Clients :=
  { clients with configured := clients.configured.erase name }

/-- Keeps a channel for a client unless it has one, and answers the one that is kept. -/
def keep (clients : Clients) (name : String) (settings : Settings.Client)
    (endpoint : Endpoint) : Channel × Clients :=
  let channel : Channel := { number := clients.built, settings, endpoint }
  let counted := { clients with built := clients.built + 1 }
  match counted.channels.get? name with
  | some kept => (kept, counted)
  | none => (channel, { counted with channels := counted.channels.insert name channel })

/-- Configures a client; a channel built from older settings is dropped. -/
def add (clients : Clients) (name : String) (settings : Settings.Client) : Clients :=
  (clients.disconnect name).configure name settings

/-- The channel of a client, built if there is none. -/
def client (clients : Clients) (building : Building) (name : String) :
    Except Fault Channel × Clients :=
  match clients.channels.get? name with
  | some channel => (.ok channel, clients)
  | none =>
      match clients.configured.get? name with
      | none => (.error (unknownClient name), clients)
      | some settings =>
          match building settings with
          | .error fault => (.error fault, clients)
          | .ok endpoint =>
              let (channel, next) := clients.keep name settings endpoint
              (.ok channel, next)

/-- Drops the channel of a client, which stays configured. -/
def close (clients : Clients) (name : String) : Except Fault Unit × Clients :=
  if clients.isConnected name then (.ok (), clients.disconnect name)
  else (.error (notConnected name), clients)

/-- Forgets a client, and tells whether it was configured. -/
def removeSettings (clients : Clients) (name : String) : Bool × Clients :=
  ((clients.configured.get? name).isSome, (clients.disconnect name).forget name)

/-- Closes a client and forgets it, connected or not. -/
def remove (clients : Clients) (name : String) : Except Fault Unit × Clients :=
  let (result, closed) := clients.close name
  (result, (closed.removeSettings name).2)

/-- Drops all channels and settings. -/
def closeAll (clients : Clients) : Clients := { clients with configured := [], channels := [] }

/-- The clients that settings configure. -/
def ofSettings (settings : Entries Settings.Client) : Clients :=
  settings.foldl (fun clients (name, client) => clients.add name client) {}

/-- A call of the registry. -/
inductive Request
  | add (name : String) (settings : Settings.Client)
  | client (building : Building) (name : String)
  | close (name : String)
  | removeSettings (name : String)
  | remove (name : String)
  | closeAll

/-- The answer of a call. -/
inductive Answer
  | done (result : Except Fault Unit)
  | channel (result : Except Fault Channel)
  | known (yes : Bool)

def step (clients : Clients) : Request → Answer × Clients
  | .add name settings => (.done (.ok ()), clients.add name settings)
  | .client building name =>
      let (result, next) := clients.client building name
      (.channel result, next)
  | .close name =>
      let (result, next) := clients.close name
      (.done result, next)
  | .removeSettings name =>
      let (known, next) := clients.removeSettings name
      (.known known, next)
  | .remove name =>
      let (result, next) := clients.remove name
      (.done result, next)
  | .closeAll => (.done (.ok ()), clients.closeAll)

/-- The answers of a run of calls, and the clients after it. -/
def run (clients : Clients) : List Request → List Answer × Clients
  | [] => ([], clients)
  | request :: requests =>
      let (answer, next) := clients.step request
      let (answers, last) := next.run requests
      (answer :: answers, last)

end Clients

end Backplane.Rpc
