/-
This file tells which texts are patterns that the value of a field can be searched for.
-/

import Backplane.Text.Alphanumeric
import Backplane.Text.Blank
import Backplane.Text.Fields
import Backplane.Text.Hexadecimal

namespace Backplane.Log.Pattern

/-- How a part of a pattern is read: as characters or as bytes, and with or without blanks and
comments that do not count. -/
structure Mode where
  unicode : Bool := true
  spaced : Bool := false

/-- Moves past what does not count. -/
def Mode.skip (mode : Mode) : (comment : Bool) → List Char → List Char
  | _, [] => []
  | comment, character :: rest =>
      if !mode.spaced then character :: rest
      else if comment then skip mode (character ≠ '\n') rest
      else if Text.isBlank character then skip mode false rest
      else if character = '#' then skip mode true rest
      else character :: rest

/-- A part of a pattern that needs no further parts. -/
inductive Atom
  /-- A character; one written as a byte has a number of two digits. -/
  | character (value : Char) (byte : Bool)
  | any
  /-- Characters of a kind, or all others. -/
  | kind (negated : Bool)
  | property
  /-- An end of the text or of a line. -/
  | edge
  /-- An end of a word. -/
  | boundary

/-- Tells whether an atom has a meaning. Bytes alone must be ASCII, and ends of words are found
only among bytes. -/
def Atom.isValid (mode : Mode) : Atom → Bool
  | .character value byte => mode.unicode || !byte || value.toNat < 128
  | .any => mode.unicode
  | .kind negated => mode.unicode || !negated
  | .property => mode.unicode
  | .edge => true
  | .boundary => !mode.unicode

/-- Tells whether an atom may stand in a class. -/
def Atom.isValidInClass (mode : Mode) : Atom → Bool
  | .character value _ => mode.unicode || value.toNat < 128
  | .kind negated => mode.unicode || !negated
  | .property => mode.unicode
  | _ => false

/-- Reads so many hexadecimal digits. -/
def digits? (mode : Mode) : (count : Nat) → List Char → Option (List Char × List Char)
  | 0, characters => some ([], characters)
  | count + 1, characters =>
      match mode.skip false characters with
      | [] => none
      | digit :: rest => do
          let (digits, behind) ← digits? mode count rest
          return (digit :: digits, behind)

/-- Reads a character by its number. -/
def numbered? (mode : Mode) (count : Nat) (characters : List Char) :
    Option (Atom × List Char) := do
  let (digits, behind) ← digits? mode count characters
  return (.character (← Text.character? (← Text.digitsIn? 16 digits)) (count = 2), behind)

/-- Letters of the large kinds of characters. -/
def isPropertyLetter (character : Char) : Bool := "clmnpszCLMNPSZ".toList.contains character

/-- Characters that stand for themselves behind a backslash. -/
def isEscapable (character : Char) : Bool :=
  character.toNat < 128 && !character.isAlphanum && character ≠ '<' && character ≠ '>'

/-- Reads what follows a backslash. -/
def escape? (mode : Mode) : List Char → Option (Atom × List Char)
  | [] => none
  | letter :: rest =>
      match letter with
      | 'x' => numbered? mode 2 rest
      | 'u' => numbered? mode 4 rest
      | 'U' => numbered? mode 8 rest
      | _ =>
          if letter = 'p' || letter = 'P' then
            match mode.skip false rest with
            | [] => none
            | kind :: behind => if isPropertyLetter kind then some (.property, behind) else none
          else if "dsw".toList.contains letter then some (.kind false, rest)
          else if "DSW".toList.contains letter then some (.kind true, rest)
          else if isEscapable letter || "aftnrv".toList.contains letter then
            some (.character letter false, rest)
          else if letter = 'A' || letter = 'z' then some (.edge, rest)
          else if "bB<>".toList.contains letter then some (.boundary, rest)
          else none

/-- Reads an atom. -/
def atom? (mode : Mode) : List Char → Option (Atom × List Char)
  | [] => none
  | '\\' :: rest => escape? mode rest
  | '.' :: rest => some (.any, rest)
  | '^' :: rest => some (.edge, rest)
  | '$' :: rest => some (.edge, rest)
  | character :: rest => some (.character character false, rest)

/-! ### Classes -/

/-- The names of kinds of characters. -/
def kindNames : List String :=
  ["alnum", "alpha", "ascii", "blank", "cntrl", "digit", "graph", "lower", "print", "punct",
    "space", "upper", "word", "xdigit"]

/-- Reads a named kind behind its bracket; the flag tells that all others are meant. -/
def namedKind? (characters : List Char) : Option (Bool × List Char) := do
  let start ← [':'].isPrefixOf? characters
  let (negated, body) := match start with
    | '^' :: rest => (true, rest)
    | _ => (false, start)
  let name := body.takeWhile (· ≠ ':')
  let behind ← [':', ']'].isPrefixOf? (body.drop name.length)
  if kindNames.contains (String.ofList name) then return (negated, behind) else none

/-- Reads an atom of a class; only backslashes have a meaning. -/
def classAtom? (mode : Mode) : List Char → Option (Atom × List Char)
  | [] => none
  | '\\' :: rest => do
      let (atom, behind) ← escape? mode rest
      if atom.isValidInClass mode then return (atom, behind) else none
  | character :: rest =>
      let atom := Atom.character character false
      if atom.isValidInClass mode then some (atom, rest) else none

/-- Reads an atom or a range of a class. -/
def classRange? (mode : Mode) (characters : List Char) : Option (List Char) := do
  let (first, behind) ← classAtom? mode characters
  match mode.skip false behind with
  | '-' :: rest =>
      match mode.skip false rest with
      | ']' :: _ => return behind
      | '-' :: _ => return behind
      | start =>
          let (last, after) ← classAtom? mode start
          match first, last with
          | .character low _, .character high _ => if low ≤ high then return after else none
          | _, _ => none
  | _ => return behind

/-- Moves past dashes. -/
def skipDashes (mode : Mode) : (fuel : Nat) → List Char → List Char
  | 0, characters => characters
  | fuel + 1, characters =>
      match mode.skip false characters with
      | '-' :: rest => skipDashes mode fuel rest
      | start => start

/-- Reads the start of a class behind its bracket: a bracket at once stands for itself. -/
def classStart? (mode : Mode) (characters : List Char) : Option (List Char) :=
  let start := mode.skip false characters
  let (negated, body) := match start with
    | '^' :: rest => (true, mode.skip false rest)
    | _ => (false, start)
  if negated && !mode.unicode then none
  else
    match body with
    | ']' :: rest => some rest
    | _ => some (skipDashes mode body.length body)

/-- Reads a class to its end; `depth` more classes are open around it. -/
def classRest? (mode : Mode) : (fuel depth : Nat) → List Char → Option (List Char)
  | 0, _, _ => none
  | fuel + 1, depth, characters =>
      match mode.skip false characters with
      | [] => none
      | '[' :: rest =>
          match namedKind? rest with
          | some (negated, behind) =>
              if negated && !mode.unicode then none else classRest? mode fuel depth behind
          | none => do classRest? mode fuel (depth + 1) (← classStart? mode rest)
      | ']' :: rest => if depth = 0 then some rest else classRest? mode fuel (depth - 1) rest
      | '&' :: '&' :: rest => classRest? mode fuel depth rest
      | '-' :: '-' :: rest => classRest? mode fuel depth rest
      | '~' :: '~' :: rest => classRest? mode fuel depth rest
      | start => do classRest? mode fuel depth (← classRange? mode start)

/-! ### Groups -/

/-- What an opening bracket begins: a change of the mode, or a group in a mode. -/
inductive Opening
  | change (mode : Mode)
  | group (mode : Mode) (name : Option (List Char))

/-- The mode that flags lead to; no flag and no dash occurs twice, and a dash is not the last. -/
def flags? : (mode : Mode) → (seen : List Char) → List Char → Option Mode
  | mode, seen, [] => if seen.head? = some '-' then none else some mode
  | mode, seen, flag :: rest =>
      if seen.contains flag || !"-imsUuRx".toList.contains flag then none
      else
        let value := !seen.contains '-'
        let changed :=
          if flag = 'u' then { mode with unicode := value }
          else if flag = 'x' then { mode with spaced := value }
          else mode
        flags? changed (flag :: seen) rest

/-- Tells whether a text may name a group. -/
def isGroupName : List Char → Bool
  | [] => false
  | first :: rest =>
      (first = '_' || (Text.isAlphanumeric first && !Decimal.isDigit first)) &&
        rest.all fun character => "_.[]".toList.contains character || Text.isAlphanumeric character

/-- Reads the name of a group; nothing may be looked for around a place instead. -/
def named? (mode : Mode) (characters : List Char) : Option (Opening × List Char) :=
  let name := characters.takeWhile (· ≠ '>')
  match characters.drop name.length with
  | _ :: behind => if isGroupName name then some (.group mode (some name), behind) else none
  | [] => none

/-- Reads what follows an opening bracket. -/
def opening? (mode : Mode) (characters : List Char) : Option (Opening × List Char) :=
  match mode.skip false characters with
  | '?' :: 'P' :: '<' :: rest => named? mode rest
  | '?' :: '<' :: rest => named? mode rest
  | '?' :: rest =>
      let flags := rest.takeWhile fun character => character ≠ ':' && character ≠ ')'
      match rest.drop flags.length, flags? mode [] flags with
      | ':' :: behind, some changed => some (.group changed none, behind)
      | ')' :: behind, some changed =>
          if flags.isEmpty then none else some (.change changed, behind)
      | _, _ => none
  | start => some (.group mode none, start)

/-- Tells whether the rest of a pattern is well formed, given the modes around the open groups,
their names so far, and whether a part that may be repeated comes before it. -/
def isRest : (fuel : Nat) → Mode → (outer : List Mode) → (names : List (List Char)) →
    (repeatable : Bool) → List Char → Bool
  | 0, _, _, _, _, _ => false
  | fuel + 1, mode, outer, names, repeatable, characters =>
      match mode.skip false characters with
      | [] => outer.isEmpty
      | '(' :: rest =>
          match opening? mode rest with
          | some (.change changed, behind) => isRest fuel changed outer names false behind
          | some (.group inner none, behind) =>
              isRest fuel inner (mode :: outer) names false behind
          | some (.group inner (some name), behind) =>
              !names.contains name &&
                isRest fuel inner (mode :: outer) (name :: names) false behind
          | none => false
      | ')' :: rest =>
          match outer with
          | around :: others => isRest fuel around others names true rest
          | [] => false
      | '[' :: rest =>
          match (classStart? mode rest).bind (classRest? mode (rest.length + 1) 0) with
          | some behind => isRest fuel mode outer names true behind
          | none => false
      | start@(first :: rest) =>
          if first = '|' then isRest fuel mode outer names false rest
          else if "?*+".toList.contains first then
            let behind := if rest.head? = some '?' then rest.drop 1 else rest
            repeatable && isRest fuel mode outer names true behind
          else if first = '\x7b' then false
          else
            match atom? mode start with
            | some (atom, behind) =>
                atom.isValid mode && isRest fuel mode outer names true behind
            | none => false

/-- Tells whether a text is a pattern. It holds no closing brace, so counted repetition is never
complete. -/
def isPattern (text : String) : Bool :=
  isRest (text.length + 1) {} [] [] false text.toList

end Backplane.Log.Pattern
