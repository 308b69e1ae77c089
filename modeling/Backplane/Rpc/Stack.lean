/-
This file puts the layers of a server in their order: recovery is outermost, then come logging,
metrics, the limiter, the language, and the interceptors of the application.
-/

import Backplane.Rpc.Layer

namespace Backplane.Rpc

/-- The layers that a server has. -/
structure Stack (σ : Type) where
  recovery : Bool := false
  logging : Bool := false
  metrics : Bool := false
  limit : Option (Limiting σ) := none
  language : Option Negotiation := none
  custom : List Interceptor := []
  /-- What comes of letting go what a function of the server left behind, when that is no text:
  nothing, or a breakdown. It is the application's to say. -/
  destructor : Option Panic := none

namespace Stack

variable {σ : Type}

/-- How a stack is shown. -/
def describe (stack : Stack σ) : String :=
  let language := match stack.language with
    | some negotiation => "Some(" ++ negotiation.describe ++ ")"
    | none => "None"
  "InterceptorOptions \x7b recovery: " ++ toString stack.recovery ++ ", logging: " ++
    toString stack.logging ++ ", metrics: " ++ toString stack.metrics ++ ", rate_limit: " ++
    toString stack.limit.isSome ++ ", language: " ++ language ++ ", custom: " ++
    toString stack.custom.length ++ " \x7d"

/-- A layer that may be left out. -/
def layerIf {α : Type} (present : Bool) (layer : α → α) : α → α := if present then layer else id

/-- A layer with settings that may be left out. -/
def layerFor {α β : Type} (settings : Option β) (layer : β → α → α) : α → α :=
  match settings with
  | some given => layer given
  | none => id

/-- The layers that act on the metadata of calls that the limiter admits. -/
def inside (stack : Stack σ) : Layer σ := fun inner =>
  layerFor stack.language
    (fun negotiation => intercepting (Interceptor.run negotiation.interceptor .language))
    (intercepting (Interceptor.chain 0 stack.custom) inner)

/-- A service with all the layers around it. -/
def wrap (stack : Stack σ) : Layer σ := fun inner =>
  layerIf stack.recovery (recovering stack.destructor) <|
    layerIf stack.logging Rpc.logging <|
      layerIf stack.metrics measuring <|
        layerFor stack.limit limiting <|
          stack.inside inner

/-- The same layers, but for recovery. -/
def bare (stack : Stack σ) : Stack σ := { stack with recovery := false }

/-- A call that comes in some time after the last one was answered, and what a handler would make
of it. -/
structure Visit where
  pause : Span
  call : Call
  handler : Handler

/-- Answers a visit. -/
def serve (stack : Stack σ) (visit : Visit) (around : Surroundings σ) :
    Outcome × Surroundings σ :=
  stack.wrap (.ofHandler visit.handler) visit.call (around.wait visit.pause)

/-- Answers visits one after another. -/
def serveAll (stack : Stack σ) : List Visit → Surroundings σ → List Outcome × Surroundings σ
  | [], around => ([], around)
  | visit :: visits, around =>
      let (outcome, next) := stack.serve visit around
      let (outcomes, last) := stack.serveAll visits next
      (outcome :: outcomes, last)

/-- Answers visits one after another, each through a stack of its own: the functions of a server
need not answer alike from visit to visit. -/
def serveEach : List (Stack σ × Visit) → Surroundings σ → List Outcome × Surroundings σ
  | [], around => ([], around)
  | (stack, visit) :: visits, around =>
      let (outcome, next) := stack.serve visit around
      let (outcomes, last) := serveEach visits next
      (outcome :: outcomes, last)

end Stack

end Backplane.Rpc
