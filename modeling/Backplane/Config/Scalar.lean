/-
This file turns configuration values into truth values, numbers and texts. Values of one kind
are accepted for another where they have an obvious meaning.
-/

import Backplane.Bits
import Backplane.Config.Value
import Backplane.Decimal.Read
import Backplane.Text.Lower

namespace Backplane.Config

namespace Content

/-- How a value is named in a complaint about its kind. -/
def unexpected : Content → Unexpected
  | .nothing => .nothing
  | .boolean value => .boolean value
  | .integer value => if value ≤ Bits.mostSigned 64 then .signed value else .unsigned value.toNat
  | .float value => .float value
  | .string text => .string text
  | .table _ => .map
  | .array _ => .sequence

/-- How a value is named where a compound is expected. -/
def describe : Content → String
  | .nothing => "unit value"
  | .boolean value => "boolean " ++ marked (if value then "true" else "false")
  | .integer value => "integer " ++ marked (toString value)
  | .float value =>
      let text := Decimal.plain value
      let whole := (text.toList.all fun character => Decimal.isDigit character || character = '-')
      "floating point " ++ marked (if whole then text ++ ".0" else text)
  | .string text => "string " ++ Text.quoted text
  | .table _ => "map"
  | .array _ => "sequence"

end Content

namespace Value

/-- The complaint that another kind is expected. -/
def wrongKind (value : Value) (expected : String) : Error :=
  .kind value.content.unexpected expected none value.origin

/-- The truth value that a word stands for. -/
def truthWord? (word : String) : Option Bool :=
  if word = "true" ∨ word = "on" ∨ word = "yes" then some true
  else if word = "false" ∨ word = "off" ∨ word = "no" then some false
  else none

def toBool (value : Value) : Except Error Bool :=
  match value.content with
  | .boolean flag => .ok flag
  | .integer number => .ok (number ≠ 0)
  | .float number => .ok (number != 0.0)
  | .string text =>
      let word := Text.lower text
      match truthWord? word with
      | some flag => .ok flag
      | none =>
          if word = "1" then .ok true
          else if word = "0" then .ok false
          else .error (.kind (.string word) "a boolean" none value.origin)
  | _ => .error (value.wrongKind "a boolean")

/-- An integer of 64 bits without a sign. -/
def toWord (value : Value) : Except Error Nat :=
  match value.content with
  | .boolean flag => .ok (if flag then 1 else 0)
  | .integer number =>
      if 0 ≤ number then .ok number.toNat
      else .error (value.wrongKind "an unsigned 64 bit or less integer")
  | .float number =>
      .ok ((Decimal.Binary.ofFloat number).toNearest 0 (Bits.most 64)).toNat
  | .string text =>
      match truthWord? (Text.lower text), Decimal.uint64? text with
      | some flag, _ => .ok (if flag then 1 else 0)
      | none, some number => .ok number
      | none, none => .error (value.wrongKind "an integer")
  | _ => .error (value.wrongKind "an integer")

/-- An integer of fewer bits without a sign. -/
def toSmallWord (bits : Nat) (value : Value) : Except Error Nat := do
  let number ← value.toWord
  if number < Bits.size bits then return number
  else
    .error (.kind (.unsigned number) ("an unsigned " ++ toString bits ++ " bit integer") none none)

def toUInt64 (value : Value) : Except Error UInt64 := return (← value.toWord).toUInt64

def toUInt32 (value : Value) : Except Error UInt32 := return (← value.toSmallWord 32).toUInt32

def toUInt16 (value : Value) : Except Error UInt16 := return (← value.toSmallWord 16).toUInt16

def toFloat (value : Value) : Except Error Float :=
  match value.content with
  | .boolean flag => .ok (if flag then 1.0 else 0.0)
  | .integer number => .ok (Float.ofInt number)
  | .float number => .ok number
  | .string text =>
      match truthWord? (Text.lower text), Decimal.float? text with
      | some flag, _ => .ok (if flag then 1.0 else 0.0)
      | none, some number => .ok number
      | none, none => .error (value.wrongKind "a floating point")
  | _ => .error (value.wrongKind "a floating point")

def toSingle (value : Value) : Except Error Float32 := return (← value.toFloat).toFloat32

def toText (value : Value) : Except Error String :=
  match value.content with
  | .boolean flag => .ok (if flag then "true" else "false")
  | .integer number => .ok (toString number)
  | .float number => .ok (Decimal.plain number)
  | .string text => .ok text
  | _ => .error (value.wrongKind "a string")

/-- A value that may be absent. -/
def toOptional (convert : Value → Except Error α) (value : Value) : Except Error (Option α) :=
  match value.content with
  | .nothing => .ok none
  | _ => some <$> convert value

/-- One of several names. A table with one entry stands for the name of that entry. -/
def toChoice (kind : String) (choices : List (String × α)) (value : Value) : Except Error α :=
  let named (name : String) : Except Error α :=
    match choices.lookup name with
    | some choice => .ok choice
    | none =>
        .error (.message ("enum " ++ kind ++ " does not have variant constructor " ++ name))
  match value.content with
  | .string name => named name
  | .table [(name, _)] => named name
  | _ =>
      .error (.message ("value of enum " ++ kind ++
        " should be represented by either string or table with exactly one key"))

end Value

end Backplane.Config
