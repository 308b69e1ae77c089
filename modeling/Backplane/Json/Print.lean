/-
This file writes JSON documents without blanks.
-/

import Backplane.Json.Value
import Backplane.Decimal.Layout

namespace Backplane.Json

/-- Two hexadecimal digits of a number below 256. -/
def twoDigits (number : Nat) : String :=
  String.ofList [Nat.digitChar (number / 16), Nat.digitChar (number % 16)]

def writeCharacter (character : Char) : String :=
  if character = '"' then "\\\""
  else if character = '\\' then "\\\\"
  else if character = '\n' then "\\n"
  else if character = '\r' then "\\r"
  else if character = '\t' then "\\t"
  else if character.toNat = 8 then "\\b"
  else if character.toNat = 12 then "\\f"
  else if character.toNat < 32 then "\\u00" ++ twoDigits character.toNat
  else String.singleton character

def writeString (text : String) : String :=
  "\"" ++ String.join (text.toList.map writeCharacter) ++ "\""

mutual

/-- The compact text of a document. -/
def write : Json → String
  | .null => "null"
  | .boolean value => if value then "true" else "false"
  | .integer value => toString value
  | .float value => if value.isFinite then Decimal.Layout.json.float value else "null"
  | .string text => writeString text
  | .array elements => "[" ++ ",".intercalate (writeElements elements) ++ "]"
  | .object members => "\x7b" ++ ",".intercalate (writeMembers members) ++ "\x7d"

def writeElements : List Json → List String
  | [] => []
  | element :: rest => write element :: writeElements rest

def writeMembers : List (String × Json) → List String
  | [] => []
  | (name, value) :: rest => (writeString name ++ ":" ++ write value) :: writeMembers rest

end

end Backplane.Json
