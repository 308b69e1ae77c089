/-
This file reads YAML texts in quotes, which may run over several lines.
-/

import Backplane.Text.Hexadecimal
import Backplane.Yaml.Cursor
import Backplane.Yaml.Separation

namespace Backplane.Yaml

/-- The number of the character of an escape that is one letter. -/
def escapes : List (Char × Nat) :=
  [('0', 0), ('a', 7), ('b', 8), ('t', 9), ('\t', 9), ('n', 10), ('v', 11), ('f', 12), ('r', 13),
    ('e', 27), (' ', 32), ('"', 34), ('/', 47), ('\\', 92), ('N', 0x85), ('_', 0xA0),
    ('L', 0x2028), ('P', 0x2029)]

/-- The number of hexadecimal digits behind a letter. -/
def longEscapes : List (Char × Nat) := [('x', 2), ('u', 4), ('U', 8)]

/-- Reads what follows a backslash. -/
def escape? (cursor : Cursor) : Option (Char × Cursor) := do
  let letter ← cursor.rest.head?
  match escapes.lookup letter, longEscapes.lookup letter with
  | some number, _ => return (Char.ofNat number, cursor.next)
  | none, some count =>
      let (character, _) ← Text.hexadecimalCharacter? count (cursor.rest.drop 1)
      return (character, cursor.advance (count + 1))
  | none, none => none

/-- What ends a part of a quoted text. -/
inductive PartEnd
  | open
  | escapedBreak

/-- Reads the characters in front of a gap or of the closing quote. -/
def quotedPart? (mark : Char) :
    (fuel : Nat) → (reversed : List Char) → Cursor → Option (List Char × PartEnd × Cursor)
  | 0, _, _ => none
  | fuel + 1, reversed, cursor =>
      match cursor.rest with
      | [] => some (reversed, .open, cursor)
      | character :: rest =>
          if isBlank character || isBreak character then some (reversed, .open, cursor)
          else if character = mark then
            if mark = '\'' && rest.head? = some mark then
              quotedPart? mark fuel (character :: reversed) (cursor.advance 2)
            else some (reversed, .open, cursor)
          else if mark = '"' && character = '\\' then
            if rest.head? = some '\n' then some (reversed, .escapedBreak, cursor.advance 2)
            else do
              let (escaped, next) ← escape? cursor.next
              quotedPart? mark fuel (escaped :: reversed) next
          else quotedPart? mark fuel (character :: reversed) cursor.next

/-- Moves past a gap in a quoted text. No tab may stand in front of the column `indent`. -/
def quotedGap? (indent : Int) :
    (fuel : Nat) → Separation → Cursor → Option (Separation × Cursor)
  | 0, separation, cursor => some (separation, cursor)
  | fuel + 1, separation, cursor =>
      match cursor.rest with
      | [] => some (separation, cursor)
      | character :: _ =>
          if isBlank character then
            match separation with
            | .blanks _ => quotedGap? indent fuel (separation.addBlank character) cursor.next
            | .breaks _ _ =>
                if character = '\t' && decide ((cursor.column : Int) < indent) then none
                else quotedGap? indent fuel separation cursor.next
          else if isBreak character then quotedGap? indent fuel separation.addBreak cursor.next
          else some (separation, cursor)

/-- Reads the parts of a quoted text up to its closing quote. -/
def quotedParts? (mark : Char) (indent : Int) :
    (fuel : Nat) → (reversed : List Char) → Cursor → Option (List Char × Cursor)
  | 0, _, _ => none
  | fuel + 1, reversed, cursor => do
      if cursor.rest.isEmpty || cursor.atDocumentMark || (cursor.column : Int) < indent then none
      let (read, ending, behind) ← quotedPart? mark (cursor.rest.length + 1) reversed cursor
      if behind.rest.head? = some mark then return (read, behind.next)
      let start := match ending with
        | .open => Separation.blanks []
        | .escapedBreak => Separation.breaks true 0
      let (separation, after) ← quotedGap? indent (behind.rest.length + 1) start behind
      quotedParts? mark indent fuel (separation.text.reverse ++ read) after

/-- Tells whether the given characters may follow a quoted text; outside brackets a colon only
follows one in a single line. -/
def mayFollowQuoted (flow single : Bool) : List Char → Bool
  | [] => true
  | character :: _ =>
      isBreak character || (flow && ",]\x7d".toList.contains character) ||
        (character = ':' && (flow || single))

/-- Reads a text between quotes, the blanks and the comment behind it. -/
def quoted? (flow : Bool) (indent : Int) (cursor : Cursor) : Option (String × Cursor) := do
  let mark ← cursor.rest.head?
  let (reversed, behind) ←
    quotedParts? mark indent (cursor.rest.length + 1) [] cursor.next
  let (_, after) ← behind.skipTail?
  if mayFollowQuoted flow (after.line = cursor.line) after.rest then
    return (String.ofList reversed.reverse, after)
  else none

end Backplane.Yaml
