/-
This file defines the two cells of a process: one for its assembly and one for its collector.
Each is set at most once. Several tasks may try to at the same time, and each of their steps sees
the cells as others left them.
-/

import Backplane.Fault

namespace Backplane

/-- The cells of a process; `κ` are assemblies and `μ` are collectors. -/
structure Cells (κ μ : Type) where
  assembly : Option κ := none
  collector : Option μ := none
deriving Repr

namespace Cells

variable {κ μ : Type}

def setAssembly (cells : Cells κ μ) (assembly : κ) : Bool × Cells κ μ :=
  if cells.assembly.isSome then (false, cells)
  else (true, { cells with assembly := some assembly })

def setCollector (cells : Cells κ μ) (collector : μ) : Bool × Cells κ μ :=
  if cells.collector.isSome then (false, cells)
  else (true, { cells with collector := some collector })

/-- The collector, made and set if there is none. Nothing is set if it cannot be made. -/
def getCollector (cells : Cells κ μ) (made : Except Fault μ) : Except Fault μ × Cells κ μ :=
  match cells.collector with
  | some collector => (.ok collector, cells)
  | none =>
      match made with
      | .ok collector => (.ok collector, { cells with collector := some collector })
      | .error fault => (.error fault, cells)

def alreadySet : Fault := .alreadyInitialized "service kit"

def notSet : Fault := .notInitialized "service kit, call init_global first"

/-- The assembly of the process. -/
def getAssembly (cells : Cells κ μ) : Except Fault κ :=
  match cells.assembly with
  | some assembly => .ok assembly
  | none => .error notSet

/-- What a task learned. -/
inductive Answer (κ μ : Type)
  | started (result : Except Fault κ)
  | assembly (result : Except Fault κ)
  | installed (yes : Bool)
  | collector (result : Except Fault μ)

/-- Tells whether a call failed. -/
def Answer.hasFailed : Answer κ μ → Bool
  | .started result => !result.isOk
  | .assembly result => !result.isOk
  | .installed yes => !yes
  | .collector result => !result.isOk

/-- Where a task is: the step that it takes next, or what it learned. -/
inductive Task (κ μ : Type)
  | checkAssembly
  | makeAssembly
  | setAssembly (assembly : κ)
  | shareCollector (assembly : κ)
  /-- The collector of the assembly was the first one, or came too late. -/
  | confirmAssembly (shared : Bool)
  | readAssembly
  | install (collector : μ)
  | makeCollector
  /-- A collector that discards everything is used if none can be made. -/
  | readCollector (discarding : μ)
  | finished (answer : Answer κ μ)

/-- What making an assembly and making a collector give at some moment. -/
structure Making (κ μ : Type) where
  assembly : Except Fault κ
  collector : Except Fault μ

/-- Takes one step of a task. `collectorOf` is the collector of an assembly. -/
def stepTask (collectorOf : κ → μ) (making : Making κ μ) (task : Task κ μ) (cells : Cells κ μ) :
    Task κ μ × Cells κ μ :=
  match task with
  | .checkAssembly =>
      if cells.assembly.isSome then (.finished (.started (.error alreadySet)), cells)
      else (.makeAssembly, cells)
  | .makeAssembly =>
      match making.assembly with
      | .ok assembly => (.setAssembly assembly, cells)
      | .error fault => (.finished (.started (.error fault)), cells)
  | .setAssembly assembly =>
      match cells.setAssembly assembly with
      | (true, next) => (.shareCollector assembly, next)
      | (false, next) => (.finished (.started (.error alreadySet)), next)
  | .shareCollector assembly =>
      let (yes, next) := cells.setCollector (collectorOf assembly)
      (.confirmAssembly yes, next)
  | .confirmAssembly _ => (.finished (.started cells.getAssembly), cells)
  | .readAssembly => (.finished (.assembly cells.getAssembly), cells)
  | .install collector =>
      let (yes, next) := cells.setCollector collector
      (.finished (.installed yes), next)
  | .makeCollector =>
      let (result, next) := cells.getCollector making.collector
      (.finished (.collector result), next)
  | .readCollector discarding =>
      match cells.getCollector making.collector with
      | (.ok collector, next) => (.finished (.collector (.ok collector)), next)
      | (.error _, next) => (.finished (.collector (.ok discarding)), next)
  | .finished answer => (.finished answer, cells)

/-- Tasks that begin: to start the assembly of the process, to ask for it, to install a collector,
to make one unless there is one, to ask for the collector. -/
inductive Opening : Task κ μ → Prop
  | start : Opening .checkAssembly
  | readAssembly : Opening .readAssembly
  | install (collector : μ) : Opening (.install collector)
  | makeCollector : Opening .makeCollector
  | readCollector (discarding : μ) : Opening (.readCollector discarding)

/-- The cells and the tasks of a process. -/
structure Process (κ μ : Type) where
  cells : Cells κ μ := {}
  tasks : List (Task κ μ) := []

/-- What happens next: a task begins, or one of those that have begun takes a step. -/
inductive Move (κ μ : Type)
  | begin (task : Task κ μ)
  | advance (making : Making κ μ) (index : Nat)

/-- A step that a task took: where it was and what the cells held, before the step and after it. -/
structure Stride (κ μ : Type) where
  index : Nat
  task : Task κ μ
  before : Cells κ μ
  next : Task κ μ
  after : Cells κ μ

namespace Process

/-- The step that a task takes, if it has begun. -/
def stride? (collectorOf : κ → μ) (process : Process κ μ) : Move κ μ → Option (Stride κ μ)
  | .begin _ => none
  | .advance making index =>
      process.tasks[index]?.map fun task =>
        let (next, after) := stepTask collectorOf making task process.cells
        { index, task, before := process.cells, next, after }

def move (collectorOf : κ → μ) (process : Process κ μ) (move : Move κ μ) : Process κ μ :=
  match move with
  | .begin task => { process with tasks := process.tasks ++ [task] }
  | .advance making index =>
      match process.stride? collectorOf (.advance making index) with
      | none => process
      | some stride =>
          { cells := stride.after, tasks := process.tasks.set stride.index stride.next }

def run (collectorOf : κ → μ) (process : Process κ μ) (moves : List (Move κ μ)) :
    Process κ μ :=
  moves.foldl (move collectorOf) process

/-- The steps that tasks take in a run, in order. -/
def strides (collectorOf : κ → μ) (process : Process κ μ) : List (Move κ μ) → List (Stride κ μ)
  | [] => []
  | move :: moves =>
      (process.stride? collectorOf move).toList ++
        strides collectorOf (process.move collectorOf move) moves

end Process

end Cells

end Backplane
