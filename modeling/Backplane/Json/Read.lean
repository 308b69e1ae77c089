/-
This file reads JSON documents. An error names its cause and its place in the text.
-/

import Backplane.Bits
import Backplane.Json.Value
import Backplane.Text.Hexadecimal

namespace Backplane.Json

/-- Why a text is no JSON document. -/
inductive Cause
  | endInList
  | endInObject
  | endInString
  | endInValue
  | expectedColon
  | expectedListCommaOrEnd
  | expectedObjectCommaOrEnd
  | expectedWord
  | expectedValue
  | invalidEscape
  | invalidNumber
  | numberOutOfRange
  | controlCharacter
  | nameNotString
  | loneSurrogate
  | trailingComma
  | trailingCharacters
  | unfinishedSurrogate
  | tooDeep
deriving DecidableEq, Repr

def Cause.message : Cause → String
  | .endInList => "EOF while parsing a list"
  | .endInObject => "EOF while parsing an object"
  | .endInString => "EOF while parsing a string"
  | .endInValue => "EOF while parsing a value"
  | .expectedColon => "expected \x60:\x60"
  | .expectedListCommaOrEnd => "expected \x60,\x60 or \x60]\x60"
  | .expectedObjectCommaOrEnd => "expected \x60,\x60 or \x60\x7d\x60"
  | .expectedWord => "expected ident"
  | .expectedValue => "expected value"
  | .invalidEscape => "invalid escape"
  | .invalidNumber => "invalid number"
  | .numberOutOfRange => "number out of range"
  | .controlCharacter => "control character (\\u0000-\\u001F) found while parsing a string"
  | .nameNotString => "key must be a string"
  | .loneSurrogate => "lone leading surrogate in hex escape"
  | .trailingComma => "trailing comma"
  | .trailingCharacters => "trailing characters"
  | .unfinishedSurrogate => "unexpected end of hex escape"
  | .tooDeep => "recursion limit exceeded"

/-- A cause and the number of bytes before its place. -/
structure Failure where
  cause : Cause
  offset : Nat
deriving DecidableEq, Repr

/-- A place counted from line one and column zero, columns in bytes. -/
structure Place where
  line : Nat
  column : Nat
deriving DecidableEq, Repr

/-- The place behind the first `offset` bytes. -/
def Place.behind (offset : Nat) : (characters : List Char) → (passed : Nat) → Place → Place
  | [], passed, place => ⟨place.line, place.column + (offset - passed)⟩
  | character :: rest, passed, place =>
      let next := passed + character.utf8Size
      if offset < next then ⟨place.line, place.column + (offset - passed)⟩
      else if character = '\n' then behind offset rest next ⟨place.line + 1, 0⟩
      else behind offset rest next ⟨place.line, place.column + character.utf8Size⟩

/-- What is wrong with `text` and where. -/
def Failure.message (text : String) (failure : Failure) : String :=
  let place := Place.behind failure.offset text.toList 0 ⟨1, 0⟩
  failure.cause.message ++ " at line " ++ toString place.line ++
    " column " ++ toString place.column

/-- The unread characters and the number of bytes before them. -/
structure Cursor where
  rest : List Char
  offset : Nat

def Cursor.advance (cursor : Cursor) : Cursor :=
  match cursor.rest with
  | [] => cursor
  | character :: rest => ⟨rest, cursor.offset + character.utf8Size⟩

/-- A failure at the place already read. -/
def Cursor.fail (cursor : Cursor) (cause : Cause) : Except Failure α :=
  .error ⟨cause, cursor.offset⟩

/-- A failure at the next byte, if there is one. -/
def Cursor.failNext (cursor : Cursor) (cause : Cause) : Except Failure α :=
  .error ⟨cause, if cursor.rest.isEmpty then cursor.offset else cursor.offset + 1⟩

def isSpace (character : Char) : Bool :=
  character = ' ' || character = '\n' || character = '\t' || character = '\r'

def Cursor.skipSpace (cursor : Cursor) : Cursor :=
  ⟨cursor.rest.dropWhile isSpace, cursor.offset + (cursor.rest.takeWhile isSpace).length⟩

/-- Reads the rest of a word whose first letter is read. -/
def word : (expected : List Char) → Cursor → Except Failure Cursor
  | [], cursor => .ok cursor
  | letter :: expected, cursor =>
      match cursor.rest with
      | [] => cursor.fail .endInValue
      | character :: _ =>
          if character = letter then word expected cursor.advance
          else cursor.failNext .expectedWord

/-- Reads four hexadecimal digits. -/
def fourDigits (cursor : Cursor) : Except Failure (Nat × Cursor) :=
  let first := cursor.rest.take 4
  let size := first.foldl (fun size character => size + character.utf8Size) 0
  if size < 4 then
    .error ⟨.endInString, cursor.offset + size⟩
  else
    match first.mapM Text.hexadecimalDigit? with
    | some digits =>
        .ok (digits.foldl (fun value digit => value * 16 + digit) 0,
          ⟨cursor.rest.drop 4, cursor.offset + 4⟩)
    | none => .error ⟨.invalidEscape, cursor.offset + 4⟩

/-- Reads the second half of a surrogate pair whose first half is `lead`. -/
def secondHalf (lead : Nat) (cursor : Cursor) : Except Failure (Char × Cursor) := do
  match cursor.rest with
  | [] => cursor.fail .endInString
  | '\\' :: [] => cursor.advance.fail .endInString
  | '\\' :: 'u' :: _ =>
      let (trail, next) ← fourDigits cursor.advance.advance
      if trail < 0xDC00 ∨ 0xDFFF < trail then next.fail .loneSurrogate
      else
        .ok (Char.ofNat (0x10000 + (lead - 0xD800) * 0x400 + (trail - 0xDC00)), next)
  | '\\' :: _ :: _ => .error ⟨.unfinishedSurrogate, cursor.offset + 2⟩
  | _ :: _ => .error ⟨.unfinishedSurrogate, cursor.offset + 1⟩

/-- Reads what follows a backslash. -/
def escape (cursor : Cursor) : Except Failure (Char × Cursor) := do
  match cursor.rest with
  | [] => cursor.fail .endInString
  | '"' :: _ => .ok ('"', cursor.advance)
  | '\\' :: _ => .ok ('\\', cursor.advance)
  | '/' :: _ => .ok ('/', cursor.advance)
  | 'b' :: _ => .ok (Char.ofNat 8, cursor.advance)
  | 'f' :: _ => .ok (Char.ofNat 12, cursor.advance)
  | 'n' :: _ => .ok ('\n', cursor.advance)
  | 'r' :: _ => .ok ('\r', cursor.advance)
  | 't' :: _ => .ok ('\t', cursor.advance)
  | 'u' :: _ =>
      let (lead, next) ← fourDigits cursor.advance
      if 0xDC00 ≤ lead ∧ lead ≤ 0xDFFF then next.fail .loneSurrogate
      else if 0xD800 ≤ lead ∧ lead ≤ 0xDBFF then secondHalf lead next
      else .ok (Char.ofNat lead, next)
  | _ :: _ => .error ⟨.invalidEscape, cursor.offset + 1⟩

/-- Reads a string behind its opening quote; `reversed` holds what is read so far. -/
def stringBody : (fuel : Nat) → Cursor → (reversed : List Char) →
    Except Failure (String × Cursor)
  | 0, cursor, _ => cursor.fail .endInString
  | fuel + 1, cursor, reversed =>
      match cursor.rest with
      | [] => cursor.fail .endInString
      | '"' :: _ => .ok (String.ofList reversed.reverse, cursor.advance)
      | '\\' :: _ => do
          let (character, next) ← escape cursor.advance
          stringBody fuel next (character :: reversed)
      | character :: _ =>
          if character.toNat < 32 then cursor.advance.fail .controlCharacter
          else stringBody fuel cursor.advance (character :: reversed)

def largestWord : Nat := Bits.most 64

/-- Multiplies or divides by powers of ten in double arithmetic, at most `10 ^ 308` at a time. -/
def scaleByTen : (fuel : Nat) → Float → Int → Option Float
  | 0, _, _ => some 0.0
  | fuel + 1, number, exponent =>
      if exponent.natAbs ≤ 308 then
        let power := Float.ofScientific 1 false exponent.natAbs
        if 0 ≤ exponent then
          let product := number * power
          if product == 1.0 / 0.0 then none else some product
        else some (number / power)
      else if number == 0.0 then some 0.0
      else if 0 ≤ exponent then none
      else scaleByTen fuel (number / 1e308) (exponent + 308)

/-- The float with the given leading digits, decimal exponent and sign. -/
def floatOf (cursor : Cursor) (positive : Bool) (digits : Nat) (exponent : Int) :
    Except Failure (Json × Cursor) :=
  match scaleByTen 8 (Float.ofNat digits) exponent with
  | some number => .ok (.float (if positive then number else -number), cursor)
  | none => cursor.fail .numberOutOfRange

/-- Reads digits into `value` up to `most`; the flag tells that a digit did not fit. -/
def takeDigits (most : Nat) : (characters : List Char) → (value count : Nat) → Nat × Nat × Bool
  | [], value, count => (value, count, false)
  | character :: rest, value, count =>
      if Decimal.isDigit character then
        let next := value * 10 + Decimal.digitValue character
        if most < next then (value, count, true) else takeDigits most rest next (count + 1)
      else (value, count, false)

def Cursor.skipDigits (cursor : Cursor) : Cursor :=
  ⟨cursor.rest.dropWhile Decimal.isDigit,
    cursor.offset + (cursor.rest.takeWhile Decimal.isDigit).length⟩

/-- The largest exponent that is read to its end. -/
def largestExponent : Nat := Bits.most 31

/-- Reads an exponent behind its mark. -/
def exponentTail (positive : Bool) (digits : Nat) (exponent : Int) (cursor : Cursor) :
    Except Failure (Json × Cursor) :=
  let (raised, start) := match cursor.rest with
    | '+' :: _ => (true, cursor.advance)
    | '-' :: _ => (false, cursor.advance)
    | _ => (true, cursor)
  match start.rest with
  | [] => start.fail .endInValue
  | character :: _ =>
      if Decimal.isDigit character then
        let (value, count, full) := takeDigits largestExponent start.rest 0 0
        if full then
          if digits ≠ 0 ∧ raised then .error ⟨.numberOutOfRange, start.offset + count + 1⟩
          else .ok (.float (if positive then 0.0 else -0.0), start.skipDigits)
        else
          floatOf start.skipDigits positive digits
            (exponent + if raised then (value : Int) else -value)
      else start.failNext .invalidNumber

/-- Reads what may follow the digits of a float. -/
def afterFraction (positive : Bool) (digits : Nat) (exponent : Int) (cursor : Cursor) :
    Except Failure (Json × Cursor) :=
  match cursor.rest with
  | 'e' :: _ => exponentTail positive digits exponent cursor.advance
  | 'E' :: _ => exponentTail positive digits exponent cursor.advance
  | _ => floatOf cursor positive digits exponent

/-- Reads the digits behind the point. -/
def fractionTail (positive : Bool) (digits : Nat) (exponent : Int) (cursor : Cursor) :
    Except Failure (Json × Cursor) :=
  let (value, count, full) := takeDigits largestWord cursor.rest digits 0
  let read : Cursor := ⟨cursor.rest.drop count, cursor.offset + count⟩
  if full then afterFraction positive value (exponent - count) read.skipDigits
  else if count = 0 then
    read.failNext (if read.rest.isEmpty then .endInValue else .invalidNumber)
  else afterFraction positive value (exponent - count) read

/-- The integer with the given digits; minus zero and integers too small become floats. -/
def integerOf (positive : Bool) (digits : Nat) : Json :=
  if positive then .integer digits
  else if digits = 0 ∨ Bits.size 63 < digits then .float (-(Float.ofNat digits))
  else .integer (-(digits : Int))

/-- Reads a number behind its sign. -/
def number (positive : Bool) (cursor : Cursor) : Except Failure (Json × Cursor) :=
  let after (digits : Nat) (next : Cursor) : Except Failure (Json × Cursor) :=
    match next.rest with
    | '.' :: _ => fractionTail positive digits 0 next.advance
    | 'e' :: _ => exponentTail positive digits 0 next.advance
    | 'E' :: _ => exponentTail positive digits 0 next.advance
    | _ => .ok (integerOf positive digits, next)
  match cursor.rest with
  | [] => cursor.fail .endInValue
  | '0' :: rest =>
      match rest with
      | character :: _ =>
          if Decimal.isDigit character then cursor.advance.failNext .invalidNumber
          else after 0 cursor.advance
      | [] => after 0 cursor.advance
  | character :: _ =>
      if Decimal.isDigit character then
        let (value, count, full) := takeDigits largestWord cursor.rest 0 0
        let read : Cursor := ⟨cursor.rest.drop count, cursor.offset + count⟩
        if full then
          let skipped := read.skipDigits
          let exponent : Int := skipped.offset - read.offset
          match skipped.rest with
          | '.' :: _ => fractionTail positive value exponent skipped.advance
          | 'e' :: _ => exponentTail positive value exponent skipped.advance
          | 'E' :: _ => exponentTail positive value exponent skipped.advance
          | _ => floatOf skipped positive value exponent
        else after value read
      else cursor.failNext .invalidNumber

mutual

/-- Reads one value; `depth` more levels of nesting are allowed. -/
def value : (fuel depth : Nat) → Cursor → Except Failure (Json × Cursor)
  | 0, _, cursor => cursor.fail .tooDeep
  | fuel + 1, depth, unread => do
      let cursor := unread.skipSpace
      match cursor.rest with
      | [] => cursor.failNext .endInValue
      | 'n' :: _ => return (.null, ← word ['u', 'l', 'l'] cursor.advance)
      | 't' :: _ => return (.boolean true, ← word ['r', 'u', 'e'] cursor.advance)
      | 'f' :: _ => return (.boolean false, ← word ['a', 'l', 's', 'e'] cursor.advance)
      | '-' :: _ => number false cursor.advance
      | '"' :: _ =>
          let (text, next) ← stringBody (cursor.rest.length + 1) cursor.advance []
          return (.string text, next)
      | '[' :: _ =>
          if depth ≤ 1 then cursor.failNext .tooDeep
          else elements fuel (depth - 1) cursor.advance true []
      | '{' :: _ =>
          if depth ≤ 1 then cursor.failNext .tooDeep
          else members fuel (depth - 1) cursor.advance true []
      | character :: _ =>
          if Decimal.isDigit character then number true cursor
          else cursor.failNext .expectedValue

/-- Reads the elements of an array behind its bracket. -/
def elements : (fuel depth : Nat) → Cursor → (first : Bool) → (reversed : List Json) →
    Except Failure (Json × Cursor)
  | 0, _, cursor, _, _ => cursor.fail .tooDeep
  | fuel + 1, depth, unread, first, reversed => do
      let cursor := unread.skipSpace
      match cursor.rest with
      | [] => cursor.failNext .endInList
      | ']' :: _ => return (.array reversed.reverse, cursor.advance)
      | character :: _ =>
          if first then
            let (element, next) ← value fuel depth cursor
            elements fuel depth next false (element :: reversed)
          else if character = ',' then
            let afterComma := cursor.advance.skipSpace
            match afterComma.rest with
            | [] => afterComma.failNext .endInValue
            | ']' :: _ => afterComma.failNext .trailingComma
            | _ :: _ =>
                let (element, next) ← value fuel depth afterComma
                elements fuel depth next false (element :: reversed)
          else cursor.failNext .expectedListCommaOrEnd

/-- Reads the members of an object behind its brace. -/
def members : (fuel depth : Nat) → Cursor → (first : Bool) → (placed : List (String × Json)) →
    Except Failure (Json × Cursor)
  | 0, _, cursor, _, _ => cursor.fail .tooDeep
  | fuel + 1, depth, unread, first, placed => do
      let cursor := unread.skipSpace
      match cursor.rest with
      | [] => cursor.failNext .endInObject
      | '}' :: _ => return (.object placed, cursor.advance)
      | character :: _ =>
          let start := if first then cursor else cursor.advance.skipSpace
          if !first && character ≠ ',' then cursor.failNext .expectedObjectCommaOrEnd
          else
            match start.rest with
            | [] => start.failNext .endInValue
            | '"' :: _ =>
                let (name, afterName) ← stringBody (start.rest.length + 1) start.advance []
                let colon := afterName.skipSpace
                match colon.rest with
                | [] => colon.failNext .endInObject
                | ':' :: _ =>
                    let (element, next) ← value fuel depth colon.advance
                    members fuel depth next false (Entries.insert name element placed)
                | _ :: _ => colon.failNext .expectedColon
            | '}' :: _ => start.failNext .trailingComma
            | _ :: _ => start.failNext .nameNotString

end

/-- The number of arrays and objects that may enclose one another, plus one. -/
def depthLimit : Nat := 128

/-- Reads a text that is one document and nothing else. -/
def read (text : String) : Except Failure Json := do
  let characters := text.toList
  let (document, next) ← value (2 * characters.length + 2) depthLimit ⟨characters, 0⟩
  let last := next.skipSpace
  if last.rest.isEmpty then return document else last.failNext .trailingCharacters

end Backplane.Json
