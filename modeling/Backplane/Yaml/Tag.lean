/-
This file reads what declares the kinds of YAML nodes: tags, and directives about their handles.
-/

import Backplane.Text.Hexadecimal
import Backplane.Yaml.Cursor
import Backplane.Yaml.Token

namespace Backplane.Yaml

/-- The number of a byte written as a percent sign and two hexadecimal digits. -/
def escapedByte? : List Char → Option Nat
  | '%' :: high :: low :: _ => Text.digitsIn? 16 [high, low]
  | _ => none

/-- Reads an escaped character of one or two bytes. The number of the character is that of its
bytes written side by side, so no character takes more. -/
def escapedCharacter? (cursor : Cursor) : Option (Char × Cursor) := do
  let lead ← escapedByte? cursor.rest
  let behind := cursor.advance 3
  if lead < 0x80 then return (← Text.character? lead, behind)
  else if 0xC0 ≤ lead && lead < 0xE0 then
    let trail ← escapedByte? behind.rest
    if trail < 0x80 || 0xC0 ≤ trail then none
    return (← Text.character? (lead * 256 + trail), behind.advance 3)
  else none

/-- Reads characters of one kind, some of them escaped. -/
def addressPart? (accepts : Char → Bool) :
    (fuel : Nat) → (reversed : List Char) → Cursor → Option (List Char × Cursor)
  | 0, reversed, cursor => some (reversed.reverse, cursor)
  | fuel + 1, reversed, cursor =>
      match cursor.rest with
      | [] => some (reversed.reverse, cursor)
      | character :: _ =>
          if !accepts character then some (reversed.reverse, cursor)
          else if character = '%' then do
            let (escaped, behind) ← escapedCharacter? cursor
            addressPart? accepts fuel (escaped :: reversed) behind
          else addressPart? accepts fuel (character :: reversed) cursor.next

/-- Reads the longest address here. -/
def address? (accepts : Char → Bool) (cursor : Cursor) : Option (List Char × Cursor) :=
  addressPart? accepts (cursor.rest.length + 1) [] cursor

/-- Reads an exclamation mark, a name and a second exclamation mark, if there is one. -/
def handle? (cursor : Cursor) : Option (List Char × Cursor) :=
  match cursor.rest with
  | '!' :: rest =>
      let name := rest.takeWhile isNameCharacter
      let behind := cursor.advance (name.length + 1)
      if behind.rest.head? = some '!' then some ('!' :: name ++ ['!'], behind.next)
      else some ('!' :: name, behind)
  | _ => none

/-- Tells whether a handle ends with an exclamation mark of its own. -/
def isClosedHandle (handle : List Char) : Bool :=
  2 ≤ handle.length && handle.getLast? = some '!'

/-- Reads a tag with an address in angle brackets. -/
def fullTag? (cursor : Cursor) : Option (Token × Cursor) := do
  let (address, behind) ← address? isAddressCharacter (cursor.advance 2)
  if behind.rest.head? = some '>' then
    return (.tag "" (String.ofList address), behind.next)
  else none

/-- Reads a tag with a handle; one that is not closed belongs to the short name. -/
def shortTag? (cursor : Cursor) : Option (Token × Cursor) := do
  let (handle, start) ← handle? cursor
  let (address, behind) ← address? isTagCharacter start
  if isClosedHandle handle then
    if address.isEmpty then none
    else return (.tag (String.ofList handle) (String.ofList address), behind)
  else
    let name := handle.drop 1 ++ address
    if name.isEmpty then return (.tag "" "!", behind)
    else return (.tag "!" (String.ofList name), behind)

/-- Reads a tag. -/
def tag? (flow : Bool) (cursor : Cursor) : Option (Token × Cursor) := do
  let full := (cursor.rest.drop 1).head? = some '<'
  let (token, behind) ← if full then fullTag? cursor else shortTag? cursor
  if endsWord behind.rest || (flow && startsFlowMark behind.rest) then return (token, behind)
  else none

/-! ### Directives -/

/-- Moves past the number of a version, which has at most nine digits. -/
def versionNumber? (cursor : Cursor) : Option Cursor :=
  let digits := cursor.rest.takeWhile Decimal.isDigit
  if digits.isEmpty || 9 < digits.length then none else some (cursor.advance digits.length)

def versionDirective? (cursor : Cursor) : Option (Token × Cursor) := do
  let major ← versionNumber? (cursor.skipWhile isBlank)
  if major.rest.head? ≠ some '.' then none
  return (.version, ← versionNumber? major.next)

/-- Reads the address that a handle stands for. -/
def handlePath? (cursor : Cursor) : Option (List Char × Cursor) := do
  let first ← cursor.rest.head?
  if first = '!' then
    let (address, behind) ← address? isAddressCharacter cursor.next
    return (first :: address, behind)
  else if isTagCharacter first then address? isAddressCharacter cursor
  else none

def handleDirective? (cursor : Cursor) : Option (Token × Cursor) := do
  let (handle, start) ← handle? (cursor.skipWhile isBlank)
  if !isClosedHandle handle && handle ≠ ['!'] then none
  let (path, behind) ← handlePath? (start.skipWhile isBlank)
  if endsWord behind.rest then
    return (.handle (String.ofList handle) (String.ofList path), behind)
  else none

/-- Reads a directive and its line. Directives of other names are passed over, but count as one
for a handle without a name. -/
def directive? (cursor : Cursor) : Option (Token × Cursor) := do
  let name := (cursor.rest.drop 1).takeWhile isNameCharacter
  let start := cursor.advance (name.length + 1)
  if name.isEmpty || !endsWord start.rest then none
  let (token, behind) ←
    if name = "YAML".toList then versionDirective? start
    else if name = "TAG".toList then handleDirective? start
    else some (.handle "" "", start.skipLine)
  return (token, (← behind.endLine?).next)

end Backplane.Yaml
