/-
This file defines what can be wrong with a configuration.
-/

import Backplane.Decimal.Layout
import Backplane.Text.Quoted

namespace Backplane.Config

/-- A value of the wrong kind. -/
inductive Unexpected
  | boolean (value : Bool)
  | signed (value : Int)
  | unsigned (value : Nat)
  | float (value : Float)
  | string (text : String)
  | nothing
  | sequence
  | map

/-- Text between backquotes. -/
def marked (text : String) : String := "\x60" ++ text ++ "\x60"

def Unexpected.write : Unexpected → String
  | .boolean value => "boolean " ++ marked (if value then "true" else "false")
  | .signed value => "64-bit integer " ++ marked (toString value)
  | .unsigned value => "64-bit unsigned integer " ++ marked (toString value)
  | .float value => "floating point " ++ marked (Decimal.plain value)
  | .string text => "string " ++ Text.quoted text
  | .nothing => "unit value"
  | .sequence => "sequence"
  | .map => "map"

/-- Why a configuration cannot be used. -/
inductive Error
  /-- A value of one kind stands where another is expected. -/
  | kind (unexpected : Unexpected) (expected : String) (key origin : Option String)
  /-- Another complaint about the value of a key. -/
  | value (message : String) (key : Option String)
  /-- A required field is absent. -/
  | absent (key : String)
  /-- A complaint about the whole. -/
  | message (text : String)
  /-- The configuration can no longer be changed. -/
  | frozen
  /-- A key that is no path. -/
  | path
  /-- A file that does not follow its format. -/
  | fileContents
  /-- A file that cannot be read. -/
  | fileAbsent

/-- Puts a word and an optional part in front of nothing. -/
def optionally (lead : String) : Option String → String
  | some part => lead ++ part
  | none => ""

def Error.write : Error → String
  | .kind unexpected expected key origin =>
      "invalid type: " ++ unexpected.write ++ ", expected " ++ expected ++
        optionally " for key " (key.map marked) ++ optionally " in " origin
  | .value text key => text ++ optionally " for key " (key.map marked)
  | .absent key => "missing configuration field " ++ Text.quoted key
  | .message text => text
  | .frozen => "configuration is frozen"
  | .path => "invalid path"
  | .fileContents => "invalid file"
  | .fileAbsent => "configuration file not found"

/-- Puts a segment in front of a key; a point parts two names. -/
def prependName (name : String) (key : Option String) : String :=
  match key with
  | none => name
  | some rest =>
      if rest.isEmpty || rest.startsWith "[" then name ++ rest else name ++ "." ++ rest

/-- Puts an index in front of a key. -/
def prependIndex (index : Nat) (key : Option String) : String :=
  "[" ++ toString index ++ "]" ++ key.getD ""

/-- Extends the key of a complaint to the front. -/
def Error.within (extend : Option String → String) : Error → Error
  | .kind unexpected expected key origin => .kind unexpected expected (some (extend key)) origin
  | .value text key => .value text (some (extend key))
  | .absent key => .absent (extend (some key))
  | other => .value other.write (some (extend none))

/-- Replaces the key of a complaint. -/
def Error.about (key : String) : Error → Error
  | .kind unexpected expected _ origin => .kind unexpected expected (some key) origin
  | .value text _ => .value text (some key)
  | other => .value other.write (some key)

end Backplane.Config
