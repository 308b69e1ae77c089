/-
This file keeps what a service measures about itself.
-/

import Backplane.Fault
import Backplane.Metrics.Tally

namespace Backplane.Metrics

/-- Something that was measured. -/
inductive Measurement
  | request (method : String) (success : Bool)
  | duration (method : String) (span : Span)
  | pool (active idle total : Nat)
  | operation (kind : String)
  | error (kind code : String)
  | login (success : Bool)
deriving DecidableEq, Repr

/-- The seconds of a span as a number with a fraction. -/
def seconds (span : Span) : Float :=
  Float.ofNat span.seconds + Float.ofNat (span.nanoseconds % 1000000000) / 1e9

/-- An upper bound of durations, and how it is written. -/
structure Bound where
  span : Span
  text : String
deriving DecidableEq, Repr

/-- The bounds under which durations are counted. -/
def bounds : List Bound :=
  [⟨.ofMilliseconds 1, "0.001"⟩, ⟨.ofMilliseconds 5, "0.005"⟩, ⟨.ofMilliseconds 10, "0.01"⟩,
    ⟨.ofMilliseconds 25, "0.025"⟩, ⟨.ofMilliseconds 50, "0.05"⟩, ⟨.ofMilliseconds 100, "0.1"⟩,
    ⟨.ofMilliseconds 250, "0.25"⟩, ⟨.ofMilliseconds 500, "0.5"⟩, ⟨.ofMilliseconds 1000, "1"⟩,
    ⟨.ofMilliseconds 2500, "2.5"⟩, ⟨.ofMilliseconds 5000, "5"⟩, ⟨.ofMilliseconds 10000, "10"⟩]

/-- The durations of one method: how many lie under each bound, how many there are, their sum. -/
structure Histogram where
  within : Tally Bound := []
  total : Nat := 0
  sum : Float := 0

namespace Histogram

def observe (histogram : Histogram) (span : Span) : Histogram :=
  { within := (bounds.filter fun bound => span.nanoseconds ≤ bound.span.nanoseconds).foldl
      (fun tally bound => tally.add bound) histogram.within
    total := histogram.total + 1
    sum := histogram.sum + seconds span }

end Histogram

/-- The histograms of methods, in the order of their first duration. -/
abbrev Durations := List (String × Histogram)

namespace Durations

def observe (method : String) (span : Span) : Durations → Durations
  | [] => [(method, Histogram.observe {} span)]
  | (other, histogram) :: rest =>
      if other = method then (other, histogram.observe span) :: rest
      else (other, histogram) :: observe method span rest

/-- The number of durations of a method. -/
def total (method : String) (durations : Durations) : Nat :=
  ((durations.lookup method).map Histogram.total).getD 0

theorem total_observe (method other : String) (span : Span) (durations : Durations) :
    total other (observe method span durations) =
      total other durations + if method = other then 1 else 0 := by
  induction durations with
  | nil =>
      by_cases same : method = other
      · simp [observe, total, same, Histogram.observe]
      · have apart : (other == method) = false := by simpa using Ne.symm same
        simp [observe, total, same, List.lookup_cons, apart]
  | cons entry rest ih =>
      obtain ⟨first, histogram⟩ := entry
      simp only [total] at ih
      by_cases here : first = method
      · subst here
        by_cases same : first = other
        · simp [observe, total, same, Histogram.observe]
        · have apart : (other == first) = false := by simpa using Ne.symm same
          simp [observe, total, same, List.lookup_cons, apart]
      · by_cases same : first = other
        · subst same
          simp [observe, total, here, Ne.symm here]
        · have apart : (other == first) = false := by simpa using Ne.symm same
          simp [observe, total, here, List.lookup_cons, apart, ih]

end Durations

/-- Connections of the database in use, idle, and open. -/
structure Pool where
  active : Nat := 0
  idle : Nat := 0
  total : Nat := 0
deriving DecidableEq, Repr

/-- Everything that was measured, under names that start with the same space. -/
structure Registry where
  space : String
  requests : Tally (String × Bool) := []
  durations : Durations := []
  pool : Pool := {}
  operations : Tally String := []
  errors : Tally (String × String) := []
  logins : Tally Bool := []

namespace Registry

/-- The name of a family within a space. -/
def place (space name : String) : String :=
  if space.isEmpty then name else space ++ "_" ++ name

/-- Tells whether a character may stand in a name at all. -/
def isNameCharacter (character : Char) : Bool :=
  character.isAlpha || character = '_' || character = ':'

/-- Tells whether a text may name a family. -/
def isName (name : String) : Bool :=
  match name.toList with
  | [] => false
  | first :: rest =>
      isNameCharacter first && rest.all fun character =>
        isNameCharacter character || character.isDigit

/-- A registry without measurements; the space has to make valid names. -/
def create (space : String) : Except MetricsError Registry :=
  let first := place space "grpc_requests_total"
  if isName first then .ok { space }
  else .error (.message ("'" ++ first ++ "' is not a valid metric name"))

def record (registry : Registry) : Measurement → Registry
  | .request method success =>
      { registry with requests := registry.requests.add (method, success) }
  | .duration method span =>
      { registry with durations := registry.durations.observe method span }
  | .pool active idle total => { registry with pool := ⟨active, idle, total⟩ }
  | .operation kind => { registry with operations := registry.operations.add kind }
  | .error kind code => { registry with errors := registry.errors.add (kind, code) }
  | .login success => { registry with logins := registry.logins.add success }

def recordAll (registry : Registry) (measurements : List Measurement) : Registry :=
  measurements.foldl record registry

/-- The number of requests to a method that went well, or of those that did not. -/
def requestCount (registry : Registry) (method : String) (success : Bool) : Nat :=
  registry.requests.count (method, success)

/-- The number of durations of a method. -/
def durationCount (registry : Registry) (method : String) : Nat :=
  registry.durations.total method

/-- The number of errors of a kind, whatever their code. -/
def errorCount (registry : Registry) (kind : String) : Nat :=
  registry.errors.countWhere fun (other, _) => other = kind

end Registry

/-- What becomes of measurements. -/
inductive Collector
  | discarding
  | registering (registry : Registry)

namespace Collector

def record : Collector → Measurement → Collector
  | .discarding, _ => .discarding
  | .registering registry, measurement => .registering (registry.record measurement)

def registry? : Collector → Option Registry
  | .discarding => none
  | .registering registry => some registry

end Collector

end Backplane.Metrics
