/-
This file defines what the library reports to the log.
-/

namespace Backplane.Log

inductive Level
  | error
  | warn
  | info
  | debug
  | trace
deriving DecidableEq, Repr

/-- The value of a field. -/
inductive Value
  | text (value : String)
  | number (value : Int)
  | boolean (value : Bool)
deriving DecidableEq, Repr

/-- The span in which an event happens. -/
structure Scope where
  name : String
  fields : List (String × Value)
deriving DecidableEq, Repr

/-- A report; its text is the field `message`. -/
structure Event where
  level : Level
  fields : List (String × Value)
  scope : Option Scope := none
deriving DecidableEq, Repr

/-- A report of nothing but a text. -/
def Event.plain (level : Level) (message : String) : Event :=
  { level, fields := [("message", .text message)] }

end Backplane.Log
