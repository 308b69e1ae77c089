/-
This file reads the tokens of a YAML text. Blocks end where the indentation of their lines does,
and a key is known by the colon behind it only.
-/

import Backplane.Yaml.Block
import Backplane.Yaml.Quoted
import Backplane.Yaml.Tag
import Backplane.Yaml.Word

namespace Backplane.Yaml

/-- A step of indentation: the column of the one around it, and whether a block stands there. -/
structure Level where
  outer : Int
  block : Bool

/-- The place of a token that a colon may turn into a key; a required one must become a key. -/
structure Candidate where
  possible : Bool := false
  required : Bool := false
  token : Nat := 0
  index : Nat := 0
  line : Nat := 0
  column : Nat := 0

/-- The tokens read so far and what decides how the rest is read. There is a candidate at every
level of brackets, with the innermost in front. -/
structure Lexer where
  cursor : Cursor
  tokens : Array Token := #[]
  indent : Int := -1
  levels : List Level := []
  candidate : Candidate := {}
  outerCandidates : List Candidate := []
  /-- A key may start here. -/
  keyAllowed : Bool := true
  /-- A mapping in braces, or with a marked key, has begun. -/
  braced : Bool := false
  /-- For every sequence in brackets, whether a single pair without braces is open in it. -/
  pairs : List Bool := []
  /-- The place where a colon may stand directly behind its key. -/
  adjacent : Nat := 0

namespace Lexer

/-- The number of brackets around the place. -/
def depth (lexer : Lexer) : Nat := lexer.outerCandidates.length

def inFlow (lexer : Lexer) : Bool := lexer.depth ≠ 0

def emit (lexer : Lexer) (token : Token) : Lexer :=
  { lexer with tokens := lexer.tokens.push token }

/-- Adds a token at the end, or in front of the one with the given number. -/
def place (lexer : Lexer) (position : Option Nat) (token : Token) : Lexer :=
  match position with
  | none => lexer.emit token
  | some number => { lexer with tokens := lexer.tokens.insertIdxIfInBounds number token }

/-! ### Indentation -/

/-- Leaves the levels deeper than a column; counts the blocks among them. -/
def leaveLevels (column : Int) : (indent : Int) → List Level → Nat × Int × List Level
  | indent, [] => (0, indent, [])
  | indent, level :: rest =>
      if column < indent then
        let (ended, left) := leaveLevels column level.outer rest
        (ended + if level.block then 1 else 0, left)
      else (0, indent, level :: rest)

/-- Ends the blocks deeper than a column. -/
def leave (lexer : Lexer) (column : Int) : Lexer :=
  if lexer.inFlow then lexer
  else
    let (ended, indent, levels) := leaveLevels column lexer.indent lexer.levels
    let tokens := lexer.tokens ++ Array.replicate ended Token.blockEnd
    { lexer with tokens, indent, levels }

/-- Leaves a level without a block, unless it is deeper than the given column. -/
def leaveBare (lexer : Lexer) (column : Int) : Lexer :=
  match lexer.levels with
  | ⟨outer, false⟩ :: levels =>
      if lexer.indent ≤ column then { lexer with indent := outer, levels } else lexer
  | _ => lexer

/-- Begins a block in a column that is deeper than the present one. -/
def enter (lexer : Lexer) (column : Nat) (position : Option Nat) (token : Token) : Lexer :=
  if lexer.inFlow then lexer
  else
    let bare := lexer.leaveBare column
    if bare.indent < column then
      { bare with
        indent := column
        levels := ⟨bare.indent, true⟩ :: bare.levels }.place position token
    else bare

/-- Asks for contents that are indented deeper than the block. -/
def deepen (lexer : Lexer) : Lexer :=
  if !lexer.inFlow && lexer.levels.head?.any Level.block then
    { lexer with indent := lexer.indent + 1, levels := ⟨lexer.indent, false⟩ :: lexer.levels }
  else lexer

/-- The levels around the innermost block, and the column there. -/
def blockLevels : (indent : Int) → List Level → Int × List Level
  | indent, [] => (indent, [])
  | indent, level :: rest =>
      if level.block then (indent, level :: rest) else blockLevels level.outer rest

/-- Leaves the levels without a block. -/
def toBlock (lexer : Lexer) : Lexer :=
  let (indent, levels) := blockLevels lexer.indent lexer.levels
  { lexer with indent, levels }

/-! ### Keys -/

/-- Makes the next token a candidate for a key. -/
def markKey (lexer : Lexer) : Lexer :=
  if lexer.keyAllowed then
    let cursor := lexer.cursor
    let required :=
      !lexer.inFlow && decide (lexer.indent = cursor.column) && lexer.levels.head?.any Level.block
    { lexer with
      candidate :=
        ⟨true, required, lexer.tokens.size, cursor.index, cursor.line, cursor.column⟩ }
  else lexer

/-- Gives up the candidate, unless it is required. -/
def dropKey? (lexer : Lexer) : Option Lexer :=
  if lexer.candidate.possible && lexer.candidate.required then none
  else some { lexer with candidate := { lexer.candidate with possible := false } }

/-- The number of characters that a key may take. -/
def longestKey : Nat := 1024

/-- Gives up the candidate if it is in an earlier line or too far back. -/
def dropStaleKey? (lexer : Lexer) : Option Lexer :=
  let candidate := lexer.candidate
  let cursor := lexer.cursor
  let stale := candidate.line < cursor.line || candidate.index + longestKey < cursor.index
  if !lexer.inFlow && candidate.possible && stale then lexer.dropKey? else some lexer

/-! ### Marks -/

/-- Moves past blanks, comments and ends of lines; a key may start in a new line. -/
def skipGap? (lexer : Lexer) : Option Lexer := do
  let least := if lexer.levels.isEmpty then none else some lexer.indent
  let (broken, cursor) ← lexer.cursor.skipGap? least
  return { lexer with cursor, keyAllowed := lexer.keyAllowed || (broken && !lexer.inFlow) }

/-- Moves past a mark, blanks and a comment. -/
def pastMark? (lexer : Lexer) : Option Lexer := do
  let (_, cursor) ← lexer.cursor.next.skipTail?
  return { lexer with cursor }

/-- Ends the single pair that is open in a sequence. -/
def endPair (lexer : Lexer) : Lexer :=
  match lexer.pairs with
  | true :: pairs => { lexer with braced := false, pairs := false :: pairs }.emit .flowMappingEnd
  | _ => lexer

/-- The greatest number of brackets around a place. -/
def depthLimit : Nat := 255

/-- Reads an opening bracket or brace. -/
def openFlow? (lexer : Lexer) (token : Token) : Option Lexer := do
  let marked := lexer.markKey.deepen
  if depthLimit ≤ marked.depth then none
  let inside :=
    { marked with
      candidate := {}
      outerCandidates := marked.candidate :: marked.outerCandidates
      keyAllowed := true }
  let opened :=
    if token = .flowMappingStart then { inside with braced := true }
    else { inside with pairs := false :: inside.pairs }
  return (← opened.pastMark?).emit token

/-- Reads a closing bracket or brace. -/
def closeFlow? (lexer : Lexer) (token : Token) : Option Lexer := do
  let ready ← lexer.dropKey?
  let outside := match ready.outerCandidates with
    | [] => ready
    | candidate :: outerCandidates => { ready with candidate, outerCandidates }
  let closed :=
    if token = .flowSequenceEnd then
      let ended := outside.endPair
      { ended with pairs := ended.pairs.drop 1 }
    else outside
  let behind ← { closed with keyAllowed := false }.pastMark?
  let adjacent := if behind.inFlow then behind.cursor.index else behind.adjacent
  return { behind with adjacent }.emit token

/-- Reads a comma in brackets. -/
def flowEntry? (lexer : Lexer) : Option Lexer := do
  let ready ← lexer.dropKey?
  return (← { ready with keyAllowed := true }.endPair.pastMark?).emit .flowEntry

/-- Tells whether a dash that is an entry comes next. -/
def startsEntry : List Char → Bool
  | '-' :: rest => endsWord rest
  | _ => false

/-- Reads the dash of an entry. -/
def blockEntry? (lexer : Lexer) : Option Lexer := do
  if lexer.inFlow || !lexer.keyAllowed then none
  let entered := lexer.enter lexer.cursor.column none .blockSequenceStart
  let (blanks, cursor) ← lexer.cursor.next.skipTail?
  if blanks.tab && startsEntry cursor.rest then none
  let behind := { entered with cursor }
  let bare := cursor.rest.head?.any fun character => isBreak character || isFlowMark character
  let ready ← (if bare then behind.deepen else behind).dropKey?
  return { ready with keyAllowed := true }.emit .blockEntry

/-- Moves past spaces, comments and ends of lines behind a marked key, and tells whether a line
ended. A space or the end of a line must follow the mark. -/
def keyGap? : (fuel : Nat) → (parted broken : Bool) → Cursor → Option (Bool × Cursor)
  | 0, _, _, _ => none
  | fuel + 1, parted, broken, cursor =>
      match cursor.rest with
      | ' ' :: _ => keyGap? fuel true broken cursor.next
      | '\n' :: _ => keyGap? fuel true true cursor.next
      | '#' :: _ => keyGap? fuel parted broken cursor.skipLine
      | '\t' :: _ => none
      | _ => if parted then some (broken, cursor) else none

/-- Reads the mark of a key. -/
def key? (lexer : Lexer) : Option Lexer := do
  if !lexer.inFlow && !lexer.keyAllowed then none
  let entered :=
    if lexer.inFlow then { lexer with braced := true }
    else lexer.enter lexer.cursor.column none .blockMappingStart
  let ready ← entered.dropKey?
  let (_, cursor) ← keyGap? (lexer.cursor.rest.length + 1) false false lexer.cursor.next
  return { ready with cursor, keyAllowed := !ready.inFlow }.emit .key

/-- Moves past the tabs behind a colon; a word or a dash must be parted from it by a space. -/
def colonGap? (cursor : Cursor) : Option Cursor :=
  if cursor.rest.head? = some '\t' then do
    let (blanks, behind) ← cursor.skipTail?
    if !blanks.space && behind.rest.head?.any isNameCharacter then none else return behind
  else some cursor

/-- Turns the candidate into a key in front of its colon. -/
def keyBefore? (lexer : Lexer) (single : Bool) (line : Nat) : Option Lexer := do
  let key := lexer.candidate
  if single && key.line < line then none
  let marked := lexer.place (some key.token) .key
  let opened := if single then marked.place (some key.token) .flowMappingStart else marked
  let entered := (opened.enter key.column (some key.token) .blockMappingStart).deepen
  return { entered with candidate := { key with possible := false }, keyAllowed := false }

/-- Prepares a colon without a key in front of it. -/
def valueAlone? (lexer : Lexer) (single : Bool) (column : Nat) : Option Lexer := do
  if !lexer.inFlow && !lexer.keyAllowed then none
  let opened := if single then lexer.emit .flowMappingStart else lexer
  let entered := (opened.enter column none .blockMappingStart).deepen
  return { entered with keyAllowed := !entered.inFlow }

/-- Reads the colon in front of a value. In brackets without braces it opens a single pair. -/
def value? (lexer : Lexer) : Option Lexer := do
  let start := lexer.cursor
  let single := !lexer.pairs.isEmpty && !lexer.braced
  let pairs := if single then true :: lexer.pairs.drop 1 else lexer.pairs
  let behind := { lexer with cursor := ← colonGap? start.next, pairs }
  let ready ←
    if behind.candidate.possible then behind.keyBefore? single start.line
    else behind.valueAlone? single start.column
  return ready.emit .value

/-- Reads a colon in brackets that no blank follows. -/
def tightValue? (lexer : Lexer) : Option Lexer :=
  let opens := (lexer.cursor.rest.drop 1).head?.any fun mark => mark = '[' || mark = '{'
  if lexer.cursor.index ≠ lexer.adjacent && opens then none else lexer.value?

/-! ### Names and texts -/

/-- Reads a name behind its mark. -/
def name? (lexer : Lexer) (token : String → Token) : Option Lexer :=
  let marked := lexer.markKey
  let name := (marked.cursor.rest.drop 1).takeWhile isAnchorCharacter
  if name.isEmpty then none
  else
    let cursor := marked.cursor.advance (name.length + 1)
    some ({ marked with cursor, keyAllowed := false }.emit (token (String.ofList name)))

def readTag? (lexer : Lexer) : Option Lexer := do
  let marked := lexer.markKey
  let (token, cursor) ← tag? marked.inFlow marked.cursor
  return { marked with cursor, keyAllowed := false }.emit token

def readQuoted? (lexer : Lexer) : Option Lexer := do
  let marked := lexer.markKey
  let (text, cursor) ← quoted? marked.inFlow marked.indent marked.cursor
  let behind ← { marked with cursor, keyAllowed := false }.skipGap?
  return { behind with adjacent := behind.cursor.index }.emit (.scalar false text)

def readWord? (lexer : Lexer) : Option Lexer := do
  let bare := lexer.markKey.toBlock
  let (text, cursor) ← word? bare.inFlow bare.indent bare.cursor
  return { bare with cursor, keyAllowed := cursor.fresh }.emit (.scalar true text)

def readBlock? (lexer : Lexer) (folded : Bool) : Option Lexer := do
  let bare := lexer.markKey.toBlock
  let (text, cursor) ← block? folded bare.indent bare.cursor.next
  return { bare with cursor, keyAllowed := true }.emit (.scalar false text)

/-! ### Documents -/

/-- Ends all blocks in front of a document or a directive. -/
def endBlocks? (lexer : Lexer) : Option Lexer := do
  return { ← (lexer.leave (-1)).dropKey? with keyAllowed := false }

def documentMark? (lexer : Lexer) (token : Token) : Option Lexer := do
  let ended ← lexer.endBlocks?
  return { ended with cursor := ended.cursor.advance 3 }.emit token

def documentEnd? (lexer : Lexer) : Option Lexer := do
  let marked ← lexer.documentMark? .documentEnd
  return { marked with cursor := ← marked.cursor.endLine? }

def readDirective? (lexer : Lexer) : Option Lexer := do
  let ended ← lexer.endBlocks?
  let (token, cursor) ← directive? ended.cursor
  return { ended with cursor }.emit token

/-- Ends the text; no required key may be without its colon. -/
def finish? (lexer : Lexer) : Option (Array Token) :=
  let candidates := lexer.candidate :: lexer.outerCandidates
  if candidates.any fun candidate => candidate.possible && candidate.required then none
  else some (lexer.leave (-1)).tokens

/-- Reads one token by its first character. -/
def contents? (lexer : Lexer) : Option Lexer :=
  match lexer.cursor.rest with
  | [] => none
  | character :: rest =>
      let parted := endsWord rest
      let tight := lexer.inFlow &&
        (startsFlowMark rest || lexer.cursor.index = lexer.adjacent)
      match character with
      | '[' => lexer.openFlow? .flowSequenceStart
      | '{' => lexer.openFlow? .flowMappingStart
      | ']' => lexer.closeFlow? .flowSequenceEnd
      | '}' => lexer.closeFlow? .flowMappingEnd
      | ',' => lexer.flowEntry?
      | '*' => lexer.name? .alias
      | '&' => lexer.name? .anchor
      | '!' => lexer.readTag?
      | '"' => lexer.readQuoted?
      | '\'' => lexer.readQuoted?
      | '%' => none
      | '@' => none
      | '\x60' => none
      | '-' => if parted then lexer.blockEntry? else lexer.readWord?
      | '?' => if parted then lexer.key? else lexer.readWord?
      | ':' =>
          if parted then lexer.value?
          else if tight then lexer.tightValue?
          else lexer.readWord?
      | '|' => if lexer.inFlow then lexer.readWord? else lexer.readBlock? false
      | '>' => if lexer.inFlow then lexer.readWord? else lexer.readBlock? true
      | _ => lexer.readWord?

/-- Reads one token; marks of documents and directives stand at the start of a line. -/
def token? (lexer : Lexer) : Option Lexer :=
  let cursor := lexer.cursor
  let first := cursor.column = 0
  if first && cursor.rest.head? = some '%' then lexer.readDirective?
  else if first && startsMark "---" cursor.rest then lexer.documentMark? .documentStart
  else if first && startsMark "..." cursor.rest then lexer.documentEnd?
  else if cursor.column < lexer.indent then none
  else lexer.contents?

/-- Reads tokens to the end of the text. -/
def tokensFrom? (lexer : Lexer) : (fuel : Nat) → Option (Array Token)
  | 0 => none
  | fuel + 1 => do
      let start ← (← lexer.skipGap?).dropStaleKey?
      let ready := start.leave start.cursor.column
      if ready.cursor.rest.isEmpty then ready.finish?
      else tokensFrom? (← ready.token?) fuel

end Lexer

/-- The tokens of a text. -/
def tokens? (characters : List Char) : Option (List Token) :=
  let start : Lexer := { cursor := { rest := characters } }
  (start.tokensFrom? (characters.length + 1)).map Array.toList

end Backplane.Yaml
