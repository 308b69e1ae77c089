/-
This file says which part of the work on a call is done at once, and which is put off until the
answer is waited for. A breakdown may come in either part.
-/

import Backplane.Rpc.Stack

namespace Backplane.Rpc

/-- Work that was put off. -/
abbrev Work (σ : Type) := Surroundings σ → Outcome × Surroundings σ

/-- A service that takes a call up at once, or breaks down over it, and puts the rest off. -/
abbrev StagedService (σ : Type) := Call → Surroundings σ → Except Panic (Work σ) × Surroundings σ

abbrev StagedLayer (σ : Type) := StagedService σ → StagedService σ

/-- A handler that takes a call up at once, or breaks down over it. -/
abbrev StagedHandler := Call → Except Panic Handling

/-- A handler whose stages are not told apart. -/
def StagedHandler.settled (handler : StagedHandler) : Handler := fun call =>
  match handler call with
  | .error panic => { outcome := .panicked panic }
  | .ok handling => handling

variable {σ : Type}

namespace StagedService

/-- A service whose stages are not told apart: its work is waited for right away. -/
def settled (service : StagedService σ) : Service σ := fun call around =>
  match service call around with
  | (.error panic, after) => (.panicked panic, after)
  | (.ok work, after) => work after

/-- The service that hands every call to a handler. -/
def ofHandler (handler : StagedHandler) : StagedService σ := fun call around =>
  let noted := { around with handled := around.handled ++ [(around.clock, call)] }
  match handler call with
  | .error panic => (.error panic, noted)
  | .ok handling => (.ok fun later => (handling.outcome, later.wait handling.took), noted)

end StagedService

namespace StagedLayer

/-- A layer that puts everything off, also what the service inside it would do at once. -/
def deferring (layer : Layer σ) : StagedLayer σ := fun inner call around =>
  (.ok (layer inner.settled call), around)

/-- A limiter is asked later; which bucket to ask about is found out at once. -/
def limiting (limit : Limiting σ) : StagedLayer σ := fun inner call around =>
  match limit.exempts call with
  | .error panic => (.error panic, around)
  | .ok true => inner call around
  | .ok false =>
      match limit.bucket call with
      | .error panic => (.error panic, around)
      | .ok key => deferring (limit.asking key) inner call around

/-- Interceptors decide at once. -/
def intercepting (decide : Metadata → Surroundings σ → Verdict × Surroundings σ) :
    StagedLayer σ := fun inner call around =>
  match decide call.metadata around with
  | (.passes metadata, after) => inner { call with metadata } after
  | (.rejects conclusion, after) =>
      (.ok fun later => (.replied (.ofConclusion conclusion), later), after)
  | (.panics panic, after) => (.error panic, after)

/-- A service with all the layers of a server around it. -/
def wrapping (stack : Stack σ) : StagedLayer σ := fun inner =>
  Stack.layerIf stack.recovery (deferring (recovering stack.destructor)) <|
    Stack.layerIf stack.logging (deferring logging) <|
      Stack.layerIf stack.metrics (deferring measuring) <|
        Stack.layerFor stack.limit limiting <|
          Stack.layerFor stack.language
            (fun negotiation => intercepting (Interceptor.run negotiation.interceptor .language)) <|
            intercepting (Interceptor.chain 0 stack.custom) inner

end StagedLayer

end Backplane.Rpc
