/-
This file states what the clients of a hub must answer. A roster is one map from names to records,
where the hub keeps the settings and the channels of its clients apart.
-/

import Backplane.Rpc.Hub

namespace Backplane.Rpc

/-- A call of a hub: it concerns the server, or the clients. -/
inductive Hub.Operation
  | server (request : Hub.Request)
  | clients (request : Clients.Request)

namespace Hub

/-- Takes a call, and gives what the clients answer if it concerns them. -/
def take (hub : Hub) : Operation → Option Clients.Answer × Hub
  | .server request => (none, (hub.step request).2)
  | .clients request =>
      let (answer, next) := hub.clients.step request
      (some answer, { hub with clients := next })

/-- The answers of the clients in a run of calls, and the hub after it. -/
def takeAll (hub : Hub) : List Operation → List (Option Clients.Answer) × Hub
  | [] => ([], hub)
  | operation :: operations =>
      let (answer, next) := hub.take operation
      let (answers, last) := next.takeAll operations
      (answer :: answers, last)

end Hub

/-- A configured client: its settings, and the channel that was built from them if it is
connected. -/
structure Record where
  settings : Settings.Client
  channel : Option Channel := none

def Record.connected (record : Record) : Bool := record.channel.isSome

/-- The records of the configured clients, and the number of channels that were ever built. -/
structure Roster where
  record? : String → Option Record := fun _ => none
  built : Nat := 0

namespace Roster

/-- Puts down a record for a name, or strikes it out. -/
def set (roster : Roster) (name : String) (record : Option Record) : Roster :=
  { roster with record? := fun other => if name = other then record else roster.record? other }

theorem record?_set (roster : Roster) (name other : String) (record : Option Record) :
    (roster.set name record).record? other =
      if name = other then record else roster.record? other :=
  rfl

@[simp] theorem set_set (roster : Roster) (name : String) (first second : Option Record) :
    (roster.set name first).set name second = roster.set name second := by
  simp only [set, mk.injEq, and_true]
  funext other
  split <;> rfl

def connected (roster : Roster) (name : String) : Bool :=
  (roster.record? name).any Record.connected

/-- The result of closing a client. -/
def closing (roster : Roster) (name : String) : Except Fault Unit :=
  if roster.connected name then .ok () else .error (Clients.notConnected name)

/-- The channel of a client, built from its settings if it is not connected. -/
def client (roster : Roster) (building : Building) (name : String) :
    Except Fault Channel × Roster :=
  match roster.record? name with
  | none => (.error (Clients.unknownClient name), roster)
  | some ⟨_, some channel⟩ => (.ok channel, roster)
  | some ⟨settings, none⟩ =>
      match building settings with
      | .error fault => (.error fault, roster)
      | .ok endpoint =>
          let channel : Channel := { number := roster.built, settings, endpoint }
          (.ok channel,
            { roster.set name (some { settings, channel }) with built := roster.built + 1 })

def step (roster : Roster) : Clients.Request → Clients.Answer × Roster
  | .add name settings => (.done (.ok ()), roster.set name (some { settings }))
  | .client building name =>
      let (result, next) := roster.client building name
      (.channel result, next)
  | .close name =>
      (.done (roster.closing name),
        roster.set name ((roster.record? name).map fun record => { record with channel := none }))
  | .removeSettings name => (.known (roster.record? name).isSome, roster.set name none)
  | .remove name => (.done (roster.closing name), roster.set name none)
  | .closeAll => (.done (.ok ()), { roster with record? := fun _ => none })

/-- Takes a call of a hub. Of those that concern the server only closing the hub matters. -/
def take (roster : Roster) : Hub.Operation → Option Clients.Answer × Roster
  | .server (.close _ _) => (none, (roster.step .closeAll).2)
  | .server _ => (none, roster)
  | .clients request =>
      let (answer, next) := roster.step request
      (some answer, next)

/-- The answers in a run of calls, and the roster after it. -/
def takeAll (roster : Roster) : List Hub.Operation → List (Option Clients.Answer) × Roster
  | [] => ([], roster)
  | operation :: operations =>
      let (answer, next) := roster.take operation
      let (answers, last) := next.takeAll operations
      (answer :: answers, last)

/-- The roster of the clients that settings configure; the last of several with one name counts. -/
def ofSettings (settings : Entries Settings.Client) : Roster :=
  settings.foldl (fun roster (name, client) => roster.set name (some { settings := client })) {}

end Roster

end Backplane.Rpc
