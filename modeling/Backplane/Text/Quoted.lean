/-
This file writes a text between double quotes with its unprintable characters escaped.
-/

import Backplane.Text.Printable

namespace Backplane.Text

/-- Lower-case hexadecimal digits without leading zeros. -/
def hexadecimal (number : Nat) : String :=
  String.ofList (Nat.toDigits 16 number)

def quotedCharacter (character : Char) : String :=
  if character = '"' then "\\\""
  else if character = '\\' then "\\\\"
  else if character = '\n' then "\\n"
  else if character = '\r' then "\\r"
  else if character = '\t' then "\\t"
  else if character.toNat = 0 then "\\0"
  else if isPrintable character then String.singleton character
  else "\\u\x7b" ++ hexadecimal character.toNat ++ "\x7d"

/-- The text between double quotes. -/
def quoted (text : String) : String :=
  "\"" ++ String.join (text.toList.map quotedCharacter) ++ "\""

end Backplane.Text
