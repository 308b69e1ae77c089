/-
This file reads TOML documents.
-/

import Backplane.Toml.Scalar
import Backplane.Toml.Table

namespace Backplane.Toml

def isBlank (character : Char) : Bool := character = ' ' || character = '\t'

def skipBlanks (characters : List Char) : List Char := characters.dropWhile isBlank

/-- Characters that may not stand in comments and texts. -/
def isControl (character : Char) : Bool :=
  (character.toNat < 32 && character ≠ '\t') || character.toNat = 127

/-- Moves past blanks, a comment and the end of the line, if nothing else stands in it. -/
def endLine? (characters : List Char) : Option (List Char) :=
  let start := skipBlanks characters
  let behind := match start with
    | '#' :: rest => rest.dropWhile fun character => !isControl character
    | _ => start
  match behind with
  | [] => some []
  | '\n' :: rest => some rest
  | '\r' :: '\n' :: rest => some rest
  | _ => none

/-- Moves past blanks, comments and ends of lines. -/
def skipLines : (fuel : Nat) → List Char → List Char
  | 0, characters => characters
  | fuel + 1, characters =>
      match endLine? characters with
      | some [] => []
      | some rest => skipLines fuel rest
      | none => skipBlanks characters

def isKeyCharacter (character : Char) : Bool :=
  character.isAlphanum || character = '_' || character = '-'

/-- The characters of escapes that are one letter. -/
def escapes : List (Char × Char) :=
  [('b', '\x08'), ('t', '\t'), ('n', '\n'), ('f', '\x0c'), ('r', '\r'), ('e', '\x1b'), ('"', '"'),
    ('\\', '\\')]

/-- Reads what follows a backslash. -/
def escape? : List Char → Option (Char × List Char)
  | 'x' :: rest => Text.hexadecimalCharacter? 2 rest
  | 'u' :: rest => Text.hexadecimalCharacter? 4 rest
  | 'U' :: rest => Text.hexadecimalCharacter? 8 rest
  | letter :: rest => (escapes.lookup letter).map fun character => (character, rest)
  | [] => none

/-- Reads a text of one line behind its opening quote. -/
def lineText? (mark : Char) : (fuel : Nat) → (reversed : List Char) → List Char →
    Option (String × List Char)
  | 0, _, _ => none
  | fuel + 1, reversed, characters => do
      match characters with
      | [] => none
      | character :: rest =>
          if character = mark then return (String.ofList reversed.reverse, rest)
          else if isControl character then none
          else if mark = '"' && character = '\\' then
            let (escaped, tail) ← escape? rest
            lineText? mark fuel (escaped :: reversed) tail
          else lineText? mark fuel (character :: reversed) rest

/-- Moves past blanks and ends of lines. -/
def skipBreaks : List Char → List Char
  | '\r' :: '\n' :: rest => skipBreaks rest
  | character :: rest =>
      if isBlank character || character = '\n' then skipBreaks rest else character :: rest
  | [] => []

/-- Moves past a backslash's end of line and the blanks behind it. -/
def joinedLine? (characters : List Char) : Option (List Char) :=
  match skipBlanks characters with
  | '\n' :: rest => some (skipBreaks rest)
  | '\r' :: '\n' :: rest => some (skipBreaks rest)
  | _ => none

/-- Reads a text of several lines behind its opening quotes. Up to two quotes may stand in front
of the closing ones. -/
def blockText? (mark : Char) : (fuel : Nat) → (reversed : List Char) → List Char →
    Option (String × List Char)
  | 0, _, _ => none
  | fuel + 1, reversed, characters => do
      match characters with
      | [] => none
      | character :: rest =>
          if character = mark then
            let quotes := (characters.takeWhile (· = mark)).length
            if 3 ≤ quotes then
              let extra := min (quotes - 3) 2
              return (String.ofList (reversed.reverse ++ List.replicate extra mark),
                characters.drop (extra + 3))
            else blockText? mark fuel (character :: reversed) rest
          else if mark = '"' && character = '\\' then
            match joinedLine? rest with
            | some tail => blockText? mark fuel reversed tail
            | none => do
                let (escaped, tail) ← escape? rest
                blockText? mark fuel (escaped :: reversed) tail
          else if character = '\n' then blockText? mark fuel (character :: reversed) rest
          else if character = '\r' && rest.head? = some '\n' then
            blockText? mark fuel (character :: reversed) rest
          else if isControl character then none
          else blockText? mark fuel (character :: reversed) rest

/-- Drops the end of the line that follows opening quotes at once. -/
def dropFirstBreak : List Char → List Char
  | '\n' :: rest => rest
  | '\r' :: '\n' :: rest => rest
  | characters => characters

/-- Reads one name of a key. -/
def name? (characters : List Char) : Option (String × List Char) :=
  match characters with
  | '"' :: rest => lineText? '"' (rest.length + 1) [] rest
  | '\'' :: rest => lineText? '\'' (rest.length + 1) [] rest
  | _ =>
      let name := characters.takeWhile isKeyCharacter
      if name.isEmpty then none else some (String.ofList name, characters.drop name.length)

/-- Reads the names of a key between points. -/
def names? : (fuel : Nat) → List Char → Option (List String × List Char)
  | 0, _ => none
  | fuel + 1, characters => do
      let (name, rest) ← name? (skipBlanks characters)
      match skipBlanks rest with
      | '.' :: tail => do
          let (names, after) ← names? fuel tail
          return (name :: names, after)
      | tail => return ([name], tail)

/-- The number of arrays and tables that may enclose one another. -/
def depthLimit : Nat := 80

/-- Reads a key with points. -/
def path? (characters : List Char) : Option (List String × List Char) := do
  let (names, rest) ← names? (characters.length + 1) characters
  if depthLimit < names.length then none else return (names, rest)

def endsWord (character : Char) : Bool :=
  isBlank character || ",]\x7d#\n\r".toList.contains character

/-- Tells whether a time follows a date and a blank. -/
def startsTime : List Char → Bool
  | ' ' :: first :: second :: ':' :: _ => Decimal.isDigit first && Decimal.isDigit second
  | _ => false

/-- Reads a word without quotes. -/
def takeWord? (characters : List Char) : Option (Json × List Char) := do
  let first := characters.takeWhile fun character => !endsWord character
  let behind := characters.drop first.length
  let word :=
    if isDate first && startsTime behind then
      first ++ [' '] ++ (behind.drop 1).takeWhile fun character => !endsWord character
    else first
  return (← word? word, characters.drop word.length)

mutual

/-- Reads a value; `depth` more arrays and tables may enclose one another. -/
def value? : (fuel depth : Nat) → List Char → Option (Json × List Char)
  | 0, _, _ => none
  | fuel + 1, depth, characters => do
      match characters with
      | '"' :: '"' :: '"' :: rest =>
          let (text, after) ← blockText? '"' (rest.length + 1) [] (dropFirstBreak rest)
          return (.string text, after)
      | '\'' :: '\'' :: '\'' :: rest =>
          let (text, after) ← blockText? '\'' (rest.length + 1) [] (dropFirstBreak rest)
          return (.string text, after)
      | '"' :: rest =>
          let (text, after) ← lineText? '"' (rest.length + 1) [] rest
          return (.string text, after)
      | '\'' :: rest =>
          let (text, after) ← lineText? '\'' (rest.length + 1) [] rest
          return (.string text, after)
      | '[' :: rest => if depth = 0 then none else elements? fuel (depth - 1) [] rest
      | '{' :: rest => if depth = 0 then none else entries? fuel (depth - 1) [] rest
      | _ => takeWord? characters

/-- Reads the elements of an array behind its bracket. -/
def elements? : (fuel depth : Nat) → (reversed : List Json) → List Char →
    Option (Json × List Char)
  | 0, _, _, _ => none
  | fuel + 1, depth, reversed, characters => do
      match skipLines characters.length characters with
      | ']' :: after => return (.array reversed.reverse, after)
      | start =>
          let (element, rest) ← value? fuel depth start
          match skipLines rest.length rest with
          | ',' :: after => elements? fuel depth (element :: reversed) after
          | ']' :: after => return (.array (element :: reversed).reverse, after)
          | _ => none

/-- Reads the entries of a table behind its brace. -/
def entries? : (fuel depth : Nat) → (table : Table) → List Char → Option (Json × List Char)
  | 0, _, _, _ => none
  | fuel + 1, depth, table, characters => do
      match skipLines characters.length characters with
      | '}' :: after => return (Json.ofMembers (entriesToJson table), after)
      | start =>
          let (path, rest) ← path? start
          match skipLines rest.length rest with
          | '=' :: tail =>
              let (value, behind) ← value? fuel depth (skipLines tail.length tail)
              let next ← table.assign value path
              match skipLines behind.length behind with
              | ',' :: after => entries? fuel depth next after
              | '}' :: after => return (Json.ofMembers (entriesToJson next), after)
              | _ => none
          | _ => none

end

/-- The tables read so far and the path of the one that is open. -/
structure Document where
  tables : Table := []
  opened : List String := []

/-- Reads a header behind its bracket. -/
def header? (document : Document) (characters : List Char) :
    Option (Document × List Char) := do
  let (many, start) := match characters with
    | '[' :: rest => (true, rest)
    | _ => (false, characters)
  let (path, rest) ← path? start
  let behind ← match many, rest with
    | true, ']' :: ']' :: after => some after
    | false, ']' :: after => some after
    | _, _ => none
  let last ← path.getLast?
  let change := if many then Table.append last else Table.begin last
  let tables ← document.tables.within change path.dropLast
  return (⟨tables, path⟩, behind)

/-- Reads an assignment. -/
def assignment? (document : Document) (characters : List Char) :
    Option (Document × List Char) := do
  let (path, rest) ← path? characters
  match rest with
  | '=' :: tail =>
      let (value, behind) ← value? (2 * tail.length + 2) depthLimit (skipBlanks tail)
      let tables ← document.tables.within (Table.assign value path) document.opened
      return ({ document with tables }, behind)
  | _ => none

/-- Reads lines to the end of the text. -/
def lines? : (fuel : Nat) → Document → List Char → Option Document
  | 0, _, _ => none
  | fuel + 1, document, characters => do
      let start := skipLines characters.length characters
      match start with
      | [] => return document
      | '[' :: rest =>
          let (next, behind) ← header? document rest
          lines? fuel next (← endLine? behind)
      | _ =>
          let (next, behind) ← assignment? document start
          lines? fuel next (← endLine? behind)

/-- Reads a document. -/
def read? (text : String) : Option Json := do
  let characters := match text.toList with
    | '\ufeff' :: rest => rest
    | rest => rest
  let document ← lines? (characters.length + 1) {} characters
  return Json.ofMembers (entriesToJson document.tables)

end Backplane.Toml
