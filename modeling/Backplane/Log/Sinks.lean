/-
This file opens what log lines and errors go to.
-/

import Backplane.Fault
import Backplane.Settings.Basic

namespace Backplane.Log

/-- A log that was opened; `reporting` tells whether errors are reported. -/
structure Logger where
  reporting : Bool := false
deriving DecidableEq, Repr

/-- What the system makes of the log file, and whether an address for reports can be read. -/
structure Opening where
  file : Except Fault Unit
  reports : Except String Unit

namespace Logger

/-- Tells whether log lines go to a file. -/
def writesFile (sinks : Settings.LogSinks) : Bool :=
  !sinks.directory.isEmpty && !sinks.filename.isEmpty

/-- There must be somewhere for log lines to go. -/
def checkSinks (sinks : Settings.LogSinks) : Except Fault Unit :=
  if !writesFile sinks && !sinks.stdout then .error (.telemetry "no log output configured")
  else .ok ()

/-- Errors are only reported to an address. -/
def checkReporting (reporting : Settings.Reporting) : Except Fault Unit :=
  if reporting.enabled && Settings.isBlankText reporting.dsn then
    .error (.telemetry "sentry is enabled but no dsn is configured")
  else .ok ()

/-- Opens a log. -/
def openLog (sinks : Settings.LogSinks) (reporting : Settings.Reporting) (opening : Opening) :
    Except Fault Logger := do
  checkSinks sinks
  checkReporting reporting
  if reporting.enabled then
    match opening.reports with
    | .error reason => throw (.telemetry ("invalid sentry dsn: " ++ reason))
    | .ok () => pure ()
  if writesFile sinks then opening.file
  return { reporting := reporting.enabled }

/-- Reports a message, and tells whether it was sent. -/
def capture (logger : Logger) : Bool := logger.reporting

end Logger

end Backplane.Log
