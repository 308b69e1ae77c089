/-
This file moves through the lines of a YAML text, past blanks, comments and ends of lines.
-/

import Backplane.Yaml.Character

namespace Backplane.Yaml

/-- The unread characters and their place; `fresh` tells that only blanks precede them in their
line. -/
structure Cursor where
  rest : List Char
  index : Nat := 0
  line : Nat := 0
  column : Nat := 0
  fresh : Bool := true

/-- The blanks in front of the end of a line. -/
structure Blanks where
  tab : Bool
  space : Bool

namespace Cursor

/-- Moves past one character. -/
def next (cursor : Cursor) : Cursor :=
  match cursor.rest with
  | [] => cursor
  | character :: rest =>
      if isBreak character then ⟨rest, cursor.index + 1, cursor.line + 1, 0, true⟩
      else
        { cursor with
          rest
          index := cursor.index + 1
          column := cursor.column + 1
          fresh := cursor.fresh && isBlank character }

/-- Moves past the given number of characters. -/
def advance (cursor : Cursor) : (count : Nat) → Cursor
  | 0 => cursor
  | count + 1 => advance cursor.next count

/-- Moves past characters of one kind. -/
def skipWhile (cursor : Cursor) (accepts : Char → Bool) : Cursor :=
  cursor.advance (cursor.rest.takeWhile accepts).length

/-- Moves to the end of the line. -/
def skipLine (cursor : Cursor) : Cursor := cursor.skipWhile fun character => !isBreak character

/-- Tells whether the start or the end of a document is marked here. -/
def atDocumentMark (cursor : Cursor) : Bool :=
  cursor.column = 0 && startsDocumentMark cursor.rest

/-- Moves past blanks and a comment; only blanks part a comment from what precedes it. -/
def skipTail? (cursor : Cursor) : Option (Blanks × Cursor) :=
  let blanks := cursor.rest.takeWhile isBlank
  let behind := cursor.advance blanks.length
  let found := ⟨blanks.contains '\t', blanks.contains ' '⟩
  if behind.rest.head? = some '#' then
    if blanks.isEmpty then none else some (found, behind.skipLine)
  else some (found, behind)

/-- Moves to the end of the line if nothing but a comment stands in it. -/
def endLine? (cursor : Cursor) : Option Cursor := do
  let (_, behind) ← cursor.skipTail?
  if atLineEnd behind.rest then return behind else none

/-- Moves past blanks, comments and ends of lines, and tells whether a line ended. In front of
the column `least` no tab may stand before contents. -/
def gap? (least : Option Int) : (fuel : Nat) → (broken : Bool) → Cursor → Option (Bool × Cursor)
  | 0, broken, cursor => some (broken, cursor)
  | fuel + 1, broken, cursor =>
      match cursor.rest with
      | [] => some (broken, cursor)
      | character :: _ =>
          let indents := cursor.fresh && least.any fun column => (cursor.column : Int) < column
          if character = '\t' && indents then do
            gap? least fuel broken (← cursor.endLine?)
          else if isBlank character then gap? least fuel broken cursor.next
          else if isBreak character then gap? least fuel true cursor.next
          else if character = '#' then gap? least fuel broken cursor.skipLine
          else some (broken, cursor)

/-- Moves past blanks, comments and ends of lines. -/
def skipGap? (cursor : Cursor) (least : Option Int) : Option (Bool × Cursor) :=
  gap? least (cursor.rest.length + 1) false cursor

end Cursor

end Backplane.Yaml
