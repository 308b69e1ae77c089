/-
This file reads YAML texts that are blocks of lines.
-/

import Backplane.Decimal.Read
import Backplane.Yaml.Cursor

namespace Backplane.Yaml

/-- What becomes of the ends of lines behind a block. -/
inductive Chomp
  | strip
  | clip
  | keep
deriving DecidableEq, Repr

/-- The marks behind the sign of a block: what becomes of its end and how deep it is indented. -/
structure BlockMarks where
  chomp : Chomp := .clip
  depth : Option Nat := none

def chomp? : List Char → Option Chomp
  | '+' :: _ => some .keep
  | '-' :: _ => some .strip
  | _ => none

/-- Reads the digit of a depth, if there is one; it is not zero. -/
def blockDepth? (cursor : Cursor) : Option (Option Nat × Cursor) :=
  match cursor.rest with
  | [] => some (none, cursor)
  | character :: _ =>
      if !Decimal.isDigit character then some (none, cursor)
      else if character = '0' then none
      else some (some (Decimal.digitValue character), cursor.next)

/-- Reads the marks of a block in either order. -/
def blockMarks? (cursor : Cursor) : Option (BlockMarks × Cursor) := do
  match chomp? cursor.rest with
  | some chomp =>
      let (depth, behind) ← blockDepth? cursor.next
      return (⟨chomp, depth⟩, behind)
  | none =>
      let (depth, behind) ← blockDepth? cursor
      match depth, chomp? behind.rest with
      | some _, some chomp => return (⟨chomp, depth⟩, behind.next)
      | _, _ => return (⟨.clip, depth⟩, behind)

/-- Moves past empty lines and the spaces in front of the next one, up to the column `most` if
it is given. Counts the ends of lines, and finds the deepest column. -/
def skipIndentation (most : Option Nat) :
    (fuel breaks deepest : Nat) → Cursor → Nat × Nat × Cursor
  | 0, breaks, deepest, cursor => (breaks, deepest, cursor)
  | fuel + 1, breaks, deepest, cursor =>
      let spaces := (cursor.rest.takeWhile (· = ' ')).length
      let wanted := match most with
        | some column => min spaces (column - cursor.column)
        | none => spaces
      let behind := cursor.advance wanted
      let deeper := max deepest behind.column
      if behind.rest.head?.any isBreak then
        skipIndentation most fuel (breaks + 1) deeper behind.next
      else (breaks, deeper, behind)

/-- Lines of a block that are read: their text, whether the last one ended, the ends of empty
lines behind it, and whether it started with a blank. -/
structure BlockText where
  reversed : List Char := []
  ended : Bool := false
  further : Nat := 0
  blank : Bool := false

namespace BlockText

/-- Ends of lines in front of a further line. In a folded block a single one becomes a space,
unless a line at it starts with a blank. -/
def gap (text : BlockText) (folded blank : Bool) : List Char :=
  if folded && text.ended && !text.blank && !blank then
    if text.further = 0 then [' '] else List.replicate text.further '\n'
  else List.replicate ((if text.ended then 1 else 0) + text.further) '\n'

/-- Adds a line that ended, with the ends of empty lines behind it. -/
def addLine (text : BlockText) (folded : Bool) (line : List Char) (ended : Bool)
    (further : Nat) : BlockText :=
  let blank := line.head?.any isBlank
  ⟨line.reverse ++ (text.gap folded blank).reverse ++ text.reversed, ended, further, blank⟩

/-- The text with what becomes of its end; `last` tells that it ends the document within a line
that is indented as the block is. -/
def finish (text : BlockText) (chomp : Chomp) (last : Bool) : String :=
  let ending := match chomp with
    | .strip => 0
    | .clip => (if text.ended then 1 else 0) + if last then 1 else 0
    | .keep => (if text.ended then 1 else 0) + (if last then 1 else 0) + text.further
  String.ofList (text.reversed.reverse ++ List.replicate ending '\n')

end BlockText

/-- Reads the lines of a block whose contents start in the column `depth`. -/
def blockLines (folded : Bool) (depth : Nat) :
    (fuel : Nat) → BlockText → Cursor → BlockText × Cursor
  | 0, text, cursor => (text, cursor)
  | fuel + 1, text, cursor =>
      let ends := depth = 0 && startsMark "..." cursor.rest
      if cursor.column = depth && !cursor.rest.isEmpty && !ends then
        let line := cursor.rest.takeWhile fun character => !isBreak character
        let behind := cursor.advance line.length
        if behind.rest.isEmpty then (text.addLine folded line false 0, behind)
        else
          let (further, _, next) :=
            skipIndentation (some depth) behind.rest.length 0 0 behind.next
          blockLines folded depth fuel (text.addLine folded line true further) next
      else (text, cursor)

/-- A block without contents, given whether its first line ended and the ends of further ones. -/
def emptyBlock (chomp : Chomp) (ended : Bool) (further : Nat) : String :=
  match chomp with
  | .strip => ""
  | .clip => if ended then "\n" else ""
  | .keep => if ended then String.ofList (List.replicate (max further 1) '\n') else ""

/-- Reads a block behind its sign; its lines are indented deeper than `indent`. -/
def block? (folded : Bool) (indent : Int) (cursor : Cursor) : Option (String × Cursor) := do
  let (marks, header) ← blockMarks? cursor
  let start ← header.endLine?
  let first := start.next
  if first.rest.head? = some '\t' then none
  let given := marks.depth.map fun more => (max indent 0).toNat + more
  let (breaks, deepest, contents) :=
    skipIndentation given (first.rest.length + 1) 0 0 first
  let depth := given.getD (max deepest (max (indent + 1).toNat (if 0 < indent then 1 else 0)))
  if contents.rest.isEmpty then
    return (emptyBlock marks.chomp (contents.line ≠ cursor.line) breaks, contents)
  if contents.column < depth && indent < contents.column then none
  let (text, behind) :=
    blockLines folded depth (contents.rest.length + 1) ⟨[], false, breaks, false⟩ contents
  let last := behind.rest.isEmpty && max depth 1 ≤ behind.column
  return (text.finish marks.chomp last, behind)

end Backplane.Yaml
