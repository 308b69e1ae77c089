/-
This file writes measurements as text, one value per line. Families stand in the order of their
names, and the values of a family in the order of their labels.
-/

import Backplane.Decimal.Layout
import Backplane.Metrics.Registry

namespace Backplane.Metrics

/-- A name and a value that tell a measured value apart from others of its family. -/
abbrev Label := String × String

/-- A value with its labels, in the order of their names. -/
structure Sample where
  ending : String := ""
  labels : List Label := []
  value : String
deriving DecidableEq, Repr

/-- The samples of one set of labels. -/
structure Series where
  labels : List Label := []
  samples : List Sample
deriving DecidableEq, Repr

/-- Values of one name. -/
structure Family where
  name : String
  help : String
  kind : String
  series : List Series
deriving DecidableEq, Repr

/-- A label's value between quotation marks. -/
def writeLabelValue (value : String) : String :=
  "\"" ++ String.join (value.toList.map fun character =>
    if character = '\\' then "\\\\"
    else if character = '\n' then "\\n"
    else if character = '"' then "\\\""
    else String.singleton character) ++ "\""

def writeLabels (labels : List Label) : String :=
  if labels.isEmpty then ""
  else
    "\x7b" ++ ",".intercalate (labels.map fun (name, value) => name ++ "=" ++
      writeLabelValue value) ++ "\x7d"

def Sample.write (name : String) (sample : Sample) : String :=
  name ++ sample.ending ++ writeLabels sample.labels ++ " " ++ sample.value

/-- The series of a counter. -/
def counter (labels : List Label) (count : Nat) : Series :=
  { labels, samples := [{ labels, value := toString count }] }

/-- The series of a histogram. -/
def Histogram.series (labels : List Label) (histogram : Histogram) : Series :=
  let bucket (bound : String) (count : Nat) : Sample :=
    { ending := "_bucket", labels := labels ++ [("le", bound)], value := toString count }
  { labels
    samples :=
      (bounds.map fun bound => bucket bound.text (histogram.within.count bound)) ++
        [bucket "+Inf" histogram.total,
          { ending := "_sum", labels, value := Decimal.plain histogram.sum },
          { ending := "_count", labels, value := toString histogram.total }] }

/-- Tells whether one series stands before another. -/
def Series.precedes (first second : Series) : Bool :=
  !decide (second.labels.map Prod.snd < first.labels.map Prod.snd)

def Registry.families (registry : Registry) : List Family :=
  let outcome (success : Bool) (failed : String) := if success then "success" else failed
  let gauge (value : Nat) : List Series := [counter [] value]
  [{ name := "auth_attempts_total", help := "Total number of authentication attempts",
     kind := "counter",
     series := registry.logins.map fun (success, count) =>
       counter [("result", outcome success "failure")] count },
    { name := "business_operations_total", help := "Total number of business operations",
      kind := "counter",
      series := registry.operations.map fun (kind, count) =>
        counter [("operation_type", kind)] count },
    { name := "db_connections_active", help := "Database connections in use",
      kind := "gauge", series := gauge registry.pool.active },
    { name := "db_connections_idle", help := "Idle database connections",
      kind := "gauge", series := gauge registry.pool.idle },
    { name := "db_connections_total", help := "Open database connections",
      kind := "gauge", series := gauge registry.pool.total },
    { name := "errors_total", help := "Total number of errors", kind := "counter",
      series := registry.errors.map fun ((kind, code), count) =>
        counter [("error_code", code), ("error_type", kind)] count },
    { name := "grpc_request_duration_seconds", help := "gRPC request latency in seconds",
      kind := "histogram",
      series := registry.durations.map fun (method, histogram) =>
        histogram.series [("method", method)] },
    { name := "grpc_requests_total", help := "Total number of gRPC requests",
      kind := "counter",
      series := registry.requests.map fun ((method, success), count) =>
        counter [("method", method), ("status", outcome success "error")] count }]

/-- The lines of a family; one without values has none. -/
def Family.write (space : String) (family : Family) : List String :=
  let name := Registry.place space family.name
  if family.series.isEmpty then []
  else
    ("# HELP " ++ name ++ " " ++ family.help) :: ("# TYPE " ++ name ++ " " ++ family.kind) ::
      (family.series.mergeSort Series.precedes).flatMap fun series =>
        series.samples.map (Sample.write name)

/-- The lines of all families. -/
def Registry.write (registry : Registry) : List String :=
  registry.families.flatMap (Family.write registry.space)

/-- The lines of what was collected. -/
def Collector.write : Collector → List String
  | .discarding => []
  | .registering registry => registry.write

end Backplane.Metrics
