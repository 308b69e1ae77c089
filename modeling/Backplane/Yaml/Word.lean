/-
This file reads YAML words without quotes, which may run over several lines.
-/

import Backplane.Yaml.Cursor
import Backplane.Yaml.Separation

namespace Backplane.Yaml

/-- Tells whether the first of the given characters belongs to a word. -/
def continuesWord (flow : Bool) : List Char → Bool
  | [] => false
  | character :: rest =>
      if isBlank character || isBreak character then false
      else if character = ':' && (endsWord rest || (flow && startsFlowMark rest)) then false
      else !(flow && isFlowMark character)

/-- The characters of a word up to the next blank. -/
def wordRun (flow : Bool) : List Char → List Char
  | [] => []
  | character :: rest =>
      if continuesWord flow (character :: rest) then character :: wordRun flow rest else []

/-- Moves past the gap behind a part of a word. In front of the column `least` no tab may stand
before contents. -/
def wordGap? (least : Int) :
    (fuel : Nat) → Separation → Cursor → Option (Separation × Cursor)
  | 0, separation, cursor => some (separation, cursor)
  | fuel + 1, separation, cursor =>
      match cursor.rest with
      | [] => some (separation, cursor)
      | character :: _ =>
          if isBlank character then
            if !cursor.fresh then
              wordGap? least fuel (separation.addBlank character) cursor.next
            else if character = '\t' && decide ((cursor.column : Int) < least) then do
              wordGap? least fuel separation (← cursor.endLine?)
            else wordGap? least fuel separation cursor.next
          else if isBreak character then
            let further := if cursor.fresh then separation.addBreak else separation.endComment
            wordGap? least fuel further cursor.next
          else some (separation, cursor)

/-- Tells whether a dash stands here that could be a word only outside brackets. -/
def startsLoneDash : List Char → Bool
  | '-' :: rest => startsFlowMark rest
  | _ => false

/-- Reads the parts of a word. -/
def wordParts? (flow : Bool) (least : Int) :
    (fuel : Nat) → (reversed : List Char) → Separation → Cursor → Option (List Char × Cursor)
  | 0, _, _, _ => none
  | fuel + 1, reversed, separation, cursor => do
      if cursor.atDocumentMark || cursor.rest.head? = some '#' then return (reversed, cursor)
      if flow && startsLoneDash cursor.rest then none
      let run := wordRun flow cursor.rest
      let behind := cursor.advance run.length
      let read :=
        if run.isEmpty then reversed else run.reverse ++ separation.text.reverse ++ reversed
      match behind.rest with
      | [] => return (read, behind)
      | character :: _ =>
          if !isBlank character && !isBreak character then return (read, behind)
          let (further, after) ← wordGap? least (behind.rest.length + 1) (.blanks []) behind
          if !flow && (after.column : Int) < least then return (read, after)
          wordParts? flow least fuel read further after

/-- Reads a word; its lines are indented deeper than `indent`. -/
def word? (flow : Bool) (indent : Int) (cursor : Cursor) : Option (String × Cursor) := do
  let least := indent + 1
  if flow && (cursor.column : Int) < least then none
  let (reversed, behind) ←
    wordParts? flow least (cursor.rest.length + 1) [] (.blanks []) cursor
  if reversed.isEmpty then none else return (String.ofList reversed.reverse, behind)

end Backplane.Yaml
