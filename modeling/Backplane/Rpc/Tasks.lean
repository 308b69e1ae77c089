/-
This file lets several tasks use the same clients at once. An operation is a sequence of steps;
each of them sees the clients as other tasks left them.
-/

import Backplane.Rpc.Clients

namespace Backplane.Rpc

/-- Where a task is in its operation: the step that it takes next. -/
inductive Task
  | findChannel (name : String)
  | findSettings (name : String)
  | build (name : String) (settings : Settings.Client)
  | keep (name : String) (settings : Settings.Client) (endpoint : Endpoint)
  | dropChannel (name : String) (settings : Settings.Client)
  | configure (name : String) (settings : Settings.Client)
  | close (name : String)
  | disconnect (name : String)
  | forget (name : String)
  | dropAllChannels
  | forgetAll
  | finished

namespace Task

/-- A task that asks for the channel of a client. -/
def client (name : String) : Task := .findChannel name

/-- A task that configures a client. -/
def add (name : String) (settings : Settings.Client) : Task := .dropChannel name settings

/-- A task that forgets a client. -/
def removeSettings (name : String) : Task := .disconnect name

/-- A task that drops all channels and settings. -/
def closeAll : Task := .dropAllChannels

/-- Tells whether a task has begun to change the settings of clients and is not done. -/
def isPartWay : Task → Bool
  | .configure _ _ => true
  | .forget _ => true
  | .forgetAll => true
  | _ => false

/-- Takes one step of a task; `building` tells what building a channel gives at this moment. -/
def step (building : Building) (task : Task) (clients : Clients) : Task × Clients :=
  match task with
  | .findChannel name =>
      if clients.isConnected name then (.finished, clients) else (.findSettings name, clients)
  | .findSettings name =>
      match clients.configured.get? name with
      | some settings => (.build name settings, clients)
      | none => (.finished, clients)
  | .build name settings =>
      match building settings with
      | .ok endpoint => (.keep name settings endpoint, clients)
      | .error _ => (.finished, clients)
  | .keep name settings endpoint => (.finished, (clients.keep name settings endpoint).2)
  | .dropChannel name settings => (.configure name settings, clients.disconnect name)
  | .configure name settings => (.finished, clients.configure name settings)
  | .close name => (.finished, clients.disconnect name)
  | .disconnect name => (.forget name, clients.disconnect name)
  | .forget name => (.finished, clients.forget name)
  | .dropAllChannels => (.forgetAll, { clients with channels := [] })
  | .forgetAll => (.finished, { clients with configured := [] })
  | .finished => (.finished, clients)

end Task

/-- Clients and the tasks that use them. -/
structure Workload where
  clients : Clients := {}
  tasks : List Task := []

namespace Workload

/-- What happens next: a task begins, or one of those that have begun takes a step. -/
inductive Move
  | begin (task : Task)
  | advance (building : Building) (index : Nat)

/-- The tasks with which an operation starts. -/
inductive Opening : Task → Prop
  | client (name : String) : Opening (.client name)
  | add (name : String) (settings : Settings.Client) : Opening (.add name settings)
  | close (name : String) : Opening (.close name)
  | removeSettings (name : String) : Opening (.removeSettings name)
  | closeAll : Opening .closeAll

def move (load : Workload) : Move → Workload
  | .begin task => { load with tasks := load.tasks ++ [task] }
  | .advance building index =>
      match load.tasks[index]? with
      | none => load
      | some task =>
          let (next, clients) := task.step building load.clients
          { clients, tasks := load.tasks.set index next }

def run (load : Workload) (moves : List Move) : Workload := moves.foldl move load

/-- Tells whether no task is in the middle of changing the settings of clients. -/
def isQuiet (load : Workload) : Bool := !load.tasks.any Task.isPartWay

/-- Every connected client is configured, and its channel was built from those settings. -/
def Fresh (clients : Clients) : Prop :=
  ∀ name channel, clients.channels.get? name = some channel →
    clients.configured.get? name = some channel.settings

/-- A workload that tasks reach from clients without channels. -/
inductive Reachable : Workload → Prop
  | start (configured : Entries Settings.Client) : Reachable { clients := { configured } }
  | begin {load : Workload} {task : Task} (before : Reachable load) (opening : Opening task) :
      Reachable (load.move (.begin task))
  | advance {load : Workload} (building : Building) (index : Nat) (before : Reachable load) :
      Reachable (load.move (.advance building index))

end Workload

end Backplane.Rpc
