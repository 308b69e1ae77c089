/-
This file cuts a text at separators.
-/

namespace Backplane.Text

/-- Cuts at every separator; there is always at least one field. -/
def fields (separator : Char) : List Char → List (List Char)
  | [] => [[]]
  | character :: rest =>
      if character = separator then [] :: fields separator rest
      else
        match fields separator rest with
        | [] => [[character]]
        | field :: others => (character :: field) :: others

/-- The part before the first separator, or the whole text. -/
def beforeFirst (separator : Char) (characters : List Char) : List Char :=
  characters.takeWhile (· ≠ separator)

/-- The part after the last separator, if there is one. -/
def afterLast? (separator : Char) : List Char → Option (List Char)
  | [] => none
  | character :: rest =>
      match afterLast? separator rest with
      | some tail => some tail
      | none => if character = separator then some rest else none

/-- The parts before and after the first occurrence of a pattern. -/
def cutFirst? (pattern : List Char) : List Char → Option (List Char × List Char)
  | [] => (pattern.isPrefixOf? []).map fun rest => ([], rest)
  | character :: rest =>
      match pattern.isPrefixOf? (character :: rest) with
      | some tail => some ([], tail)
      | none => (cutFirst? pattern rest).map fun (before, after) => (character :: before, after)

end Backplane.Text
