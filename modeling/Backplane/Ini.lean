/-
This file reads INI documents: sections of keys with texts. Keys in front of the first section
stand at the top.
-/

import Backplane.Json.Value
import Backplane.Text.Blank
import Backplane.Text.Hexadecimal

namespace Backplane.Ini

/-- The unread characters and how many precede them in their line. -/
structure Cursor where
  rest : List Char
  column : Nat := 0

namespace Cursor

/-- Moves past one character. -/
def next (cursor : Cursor) : Cursor :=
  match cursor.rest with
  | [] => cursor
  | character :: rest => ⟨rest, if character = '\n' then 0 else cursor.column + 1⟩

/-- Moves past the given number of characters. -/
def advance (cursor : Cursor) : (count : Nat) → Cursor
  | 0 => cursor
  | count + 1 => advance cursor.next count

def skipWhile (cursor : Cursor) (accepts : Char → Bool) : Cursor :=
  cursor.advance (cursor.rest.takeWhile accepts).length

end Cursor

/-- The characters of escapes that are one letter; other characters stand for themselves. -/
def escapes : List (Char × Char) :=
  [('0', '\x00'), ('a', '\x07'), ('b', '\x08'), ('t', '\t'), ('r', '\r'), ('n', '\n')]

/-- Reads what follows a backslash; an end of a line there does not count. -/
def escape? (cursor : Cursor) : Option (List Char × Cursor) :=
  match cursor.rest with
  | [] => some (['\\'], cursor)
  | '\n' :: _ => some ([], cursor.next)
  | 'x' :: rest => do
      let (character, _) ← Text.hexadecimalCharacter? 4 rest
      return ([character], cursor.advance 5)
  | letter :: _ => some ([(escapes.lookup letter).getD letter], cursor.next)

/-- Reads characters up to one that ends them; `final` tells that the end of the text does, too. -/
def until? (ends : List Char) (final : Bool) :
    (fuel : Nat) → (reversed : List Char) → Cursor → Option (List Char × Cursor)
  | 0, _, _ => none
  | fuel + 1, reversed, cursor =>
      match cursor.rest with
      | [] => if final then some (reversed.reverse, cursor) else none
      | character :: _ =>
          if ends.contains character then some (reversed.reverse, cursor)
          else if character = '\\' then do
            let (escaped, behind) ← escape? cursor.next
            until? ends final fuel (escaped.reverse ++ reversed) behind
          else until? ends final fuel (character :: reversed) cursor.next

/-- Reads all characters up to one that ends them. -/
def upTo? (ends : List Char) (final : Bool) (cursor : Cursor) : Option (List Char × Cursor) :=
  until? ends final (cursor.rest.length + 1) [] cursor

def trimEnd (characters : List Char) : List Char :=
  (characters.reverse.dropWhile Text.isBlank).reverse

/-- Reads a text in its line: parts in quotes and a last part without, whose blanks at the ends
do not count. -/
def text? : (fuel : Nat) → (read : List Char) → (first : Bool) → Cursor →
    Option (List Char × Cursor)
  | 0, _, _, _ => none
  | fuel + 1, read, first, cursor =>
      match cursor.rest with
      | [] => some (read, cursor)
      | mark :: _ =>
          if mark = '"' || mark = '\'' then do
            let (quoted, behind) ← upTo? [mark] false cursor.next
            text? fuel (read ++ quoted) false behind.next
          else do
            let (plain, behind) ← upTo? ['\n', '\r'] true cursor
            let trimmed := if first then Text.trimBlank plain else trimEnd plain
            return (read ++ trimmed, behind)

/-- A document as it is read: entries at the top, sections, and the section that is open. -/
structure Document where
  top : List (String × Json) := []
  sections : List (String × List (String × Json)) := []
  inSection : Bool := false

namespace Document

/-- Begins a section; one of the same name gives way. -/
def begin (document : Document) (name : String) : Document :=
  { document with sections := (name, []) :: document.sections, inSection := true }

/-- Adds an entry to the open section. -/
def add (document : Document) (key text : String) : Document :=
  match document.inSection, document.sections with
  | true, (name, entries) :: rest =>
      { document with sections := (name, entries ++ [(key, .string text)]) :: rest }
  | _, _ => { document with top := document.top ++ [(key, .string text)] }

def toJson (document : Document) : Json :=
  let sections := document.sections.reverse.map fun (name, entries) =>
    (name, Json.ofMembers entries)
  Json.ofMembers (document.top ++ sections)

end Document

/-- Reads lines to the end of the text; `key` is a key whose text is to follow. -/
def lines? : (fuel : Nat) → Document → (key : String) → Cursor → Option Document
  | 0, _, _, _ => none
  | fuel + 1, document, key, unread => do
      let cursor := unread.skipWhile Text.isBlank
      match cursor.rest with
      | [] => return document
      | mark :: _ =>
          if mark = ';' || mark = '#' then
            if cursor.column ≠ 0 then none
            else lines? fuel document key (cursor.skipWhile (· ≠ '\n'))
          else if mark = '[' then
            let (name, behind) ← upTo? [']'] false cursor.next
            let begun := document.begin (String.ofList (Text.trimBlank name))
            lines? fuel begun key behind.next
          else if mark = '=' || mark = ':' then
            if key.isEmpty then none
            else
              let start := cursor.next.skipWhile fun character =>
                Text.isBlank character && character ≠ '\n' && character ≠ '\r'
              let (text, behind) ← text? (start.rest.length + 1) [] true start
              lines? fuel (document.add key (String.ofList text)) "" behind
          else
            let (name, behind) ← upTo? ['=', ':'] false cursor
            lines? fuel document (String.ofList (Text.trimBlank name)) behind

/-- Reads a document. -/
def read? (text : String) : Option Json := do
  return (← lines? (text.length + 1) {} "" ⟨text.toList, 0⟩).toJson

end Backplane.Ini
