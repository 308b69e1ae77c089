/-
This file reads RON documents: structures in round brackets, maps in braces and sequences in
square ones.
-/

import Backplane.Bits
import Backplane.Json.Value
import Backplane.Text.Alphanumeric
import Backplane.Text.Fields
import Backplane.Text.Hexadecimal

namespace Backplane.Ron

def isSpace (character : Char) : Bool :=
  ['\t', '\n', '\x0b', '\x0c', '\r', ' ', '\u0085', '\u200e', '\u200f', '\u2028',
    '\u2029'].contains character

/-- Moves past a comment between signs, which may hold others; `depth` more are open. -/
def skipComment? : (depth : Nat) → List Char → Option (List Char)
  | _, [] => none
  | depth, '*' :: '/' :: rest =>
      match depth with
      | 0 => some rest
      | less + 1 => skipComment? less rest
  | depth, '/' :: '*' :: rest => skipComment? (depth + 1) rest
  | depth, _ :: rest => skipComment? depth rest

/-- Moves past blanks and comments. -/
def skip : (fuel : Nat) → List Char → List Char
  | 0, characters => characters
  | fuel + 1, characters =>
      match characters.dropWhile isSpace with
      | '/' :: '/' :: rest => skip fuel (rest.dropWhile (· ≠ '\n'))
      | '/' :: '*' :: rest =>
          match skipComment? 0 rest with
          | some behind => skip fuel behind
          | none => '/' :: '*' :: rest
      | start => start

/-- Moves past all blanks and comments. -/
def skipGap (characters : List Char) : List Char := skip (characters.length + 1) characters

/-- Characters of names. -/
def isNamePart (character : Char) : Bool := character = '_' || Text.isAlphanumeric character

/-- Reads a name; it does not start with a digit. -/
def name? (characters : List Char) : Option (String × List Char) :=
  let name := characters.takeWhile isNamePart
  match name with
  | [] => none
  | first :: _ =>
      if Decimal.isDigit first then none
      else some (String.ofList name, characters.drop name.length)

/-! ### Texts -/

/-- The characters of escapes that are one letter. -/
def escapes : List (Char × Char) :=
  [('\'', '\''), ('"', '"'), ('\\', '\\'), ('n', '\n'), ('r', '\r'), ('t', '\t'), ('0', '\x00')]

/-- Reads what follows a backslash. -/
def escape? : List Char → Option (Char × List Char)
  | 'x' :: rest => Text.hexadecimalCharacter? 2 rest
  | 'u' :: '{' :: rest => do
      let digits := rest.takeWhile (· ≠ '}')
      if 6 < digits.length then none
      let character ← Text.character? (← Text.digitsIn? 16 digits)
      match rest.drop digits.length with
      | _ :: behind => return (character, behind)
      | [] => none
  | letter :: rest => (escapes.lookup letter).map fun character => (character, rest)
  | [] => none

/-- Reads a text behind its opening quote. -/
def textBody? : (fuel : Nat) → (reversed : List Char) → List Char → Option (String × List Char)
  | 0, _, _ => none
  | fuel + 1, reversed, characters =>
      match characters with
      | [] => none
      | '"' :: rest => some (String.ofList reversed.reverse, rest)
      | '\\' :: rest => do
          let (escaped, behind) ← escape? rest
          textBody? fuel (escaped :: reversed) behind
      | character :: rest => textBody? fuel (character :: reversed) rest

/-- Reads a text behind its opening quote. -/
def text? (characters : List Char) : Option (String × List Char) :=
  textBody? (characters.length + 1) [] characters

/-- Reads a text without escapes behind its letter: it ends with as many signs as it starts. -/
def rawText? (characters : List Char) : Option (String × List Char) := do
  let signs := characters.takeWhile (· = '#')
  match characters.drop signs.length with
  | '"' :: rest =>
      let (body, behind) ← Text.cutFirst? ('"' :: signs) rest
      return (String.ofList body, behind)
  | _ => none

/-- Reads a single character behind its quote. -/
def character? (characters : List Char) : Option (Char × List Char) := do
  let (character, rest) ← match characters with
    | '\\' :: rest => escape? rest
    | character :: rest => if character = '\'' then none else some (character, rest)
    | [] => none
  match rest with
  | '\'' :: behind => return (character, behind)
  | _ => none

/-! ### Numbers -/

/-- Characters that may belong to a number. -/
def isNumberPart (character : Char) : Bool :=
  character.isAlphanum || ['_', '.', '+', '-'].contains character

/-- The base that a mark in front of digits stands for, and the digits. -/
def splitBase : List Char → Nat × List Char
  | '0' :: 'x' :: rest => (16, rest)
  | '0' :: 'o' :: rest => (8, rest)
  | '0' :: 'b' :: rest => (2, rest)
  | characters => (10, characters)

/-- The integer that a word stands for; underscores between its digits do not count. -/
def integer? (word : List Char) : Option Int := do
  let (negative, body) := match word with
    | '-' :: rest => (true, rest)
    | '+' :: rest => (false, rest)
    | _ => (false, word)
  let (base, digits) := splitBase body
  if digits.head? = some '_' then none
  let magnitude ← Text.digitsIn? base (digits.filter (· ≠ '_'))
  return if negative then -(magnitude : Int) else magnitude

/-- The number that a word stands for; an integer that is too large is a float. -/
def number? (word : List Char) : Option Json :=
  let decimal := Decimal.float? (String.ofList (word.filter (· ≠ '_')))
  match integer? word with
  | some value => if Bits.leastSigned 64 ≤ value ∧ value ≤ Bits.most 64 then some (.integer value)
    else decimal.map Json.float
  | none => decimal.map Json.float

/-! ### Documents -/

/-- Words for values. -/
def words : List (String × Json) :=
  [("true", .boolean true), ("false", .boolean false), ("None", .null),
    ("inf", .float (1.0 / 0.0)), ("NaN", .float (0.0 / 0.0))]

/-- Tells whether a structure with names starts behind an opening bracket. -/
def startsField (characters : List Char) : Bool :=
  match name? characters with
  | some (_, rest) => (skipGap rest).head? = some ':'
  | none => false

mutual

def value? : (fuel : Nat) → List Char → Option (Json × List Char)
  | 0, _ => none
  | fuel + 1, characters => do
      match characters with
      | '(' :: ')' :: rest => return (.null, rest)
      | '(' :: rest => structure? fuel rest
      | '[' :: rest => elements? fuel ']' [] rest
      | '{' :: rest => entries? fuel [] rest
      | '"' :: rest =>
          let (text, behind) ← text? rest
          return (.string text, behind)
      | '\'' :: rest =>
          let (character, behind) ← character? rest
          return (.string (String.singleton character), behind)
      | 'r' :: '"' :: rest =>
          let (text, behind) ← rawText? ('"' :: rest)
          return (.string text, behind)
      | 'r' :: '#' :: rest =>
          let (text, behind) ← rawText? ('#' :: rest)
          return (.string text, behind)
      | _ =>
          match name? characters with
          | some (name, rest) => named? fuel name rest
          | none =>
              let word := characters.takeWhile isNumberPart
              return (← number? word, characters.drop word.length)

/-- Reads what follows a name: the name of a structure stands for nothing of its own. -/
def named? : (fuel : Nat) → (name : String) → List Char → Option (Json × List Char)
  | 0, _, _ => none
  | fuel + 1, name, characters =>
      match words.lookup name, skipGap characters with
      | some value, _ => some (value, characters)
      | none, '(' :: rest =>
          if name = "Some" then do
            let (value, behind) ← value? fuel (skipGap rest)
            match skipGap behind with
            | ')' :: after => return (value, after)
            | ',' :: more =>
                match skipGap more with
                | ')' :: after => return (value, after)
                | _ => none
            | _ => none
          else structure? fuel rest
      | none, _ => if name = "Some" then none else some (.null, characters)

/-- Reads what follows the round bracket of a structure: fields or elements. -/
def structure? : (fuel : Nat) → List Char → Option (Json × List Char)
  | 0, _ => none
  | fuel + 1, characters =>
      let start := skipGap characters
      if startsField start then fields? fuel [] start else elements? fuel ')' [] start

/-- Reads the elements of a sequence behind its bracket or a comma. -/
def elements? : (fuel : Nat) → (closing : Char) → (reversed : List Json) → List Char →
    Option (Json × List Char)
  | 0, _, _, _ => none
  | fuel + 1, closing, reversed, characters => do
      let start := skipGap characters
      if start.head? = some closing then return (.array reversed.reverse, start.drop 1)
      let (element, rest) ← value? fuel start
      match skipGap rest with
      | ',' :: behind => elements? fuel closing (element :: reversed) behind
      | mark :: behind =>
          if mark = closing then return (.array (element :: reversed).reverse, behind) else none
      | [] => none

/-- Reads the fields of a structure behind its bracket or a comma. -/
def fields? : (fuel : Nat) → (reversed : List (String × Json)) → List Char →
    Option (Json × List Char)
  | 0, _, _ => none
  | fuel + 1, reversed, characters => do
      match skipGap characters with
      | ')' :: rest => return (Json.ofMembers reversed.reverse, rest)
      | start =>
          let (name, afterName) ← name? start
          let (value, rest) ← match skipGap afterName with
            | ':' :: tail => value? fuel (skipGap tail)
            | _ => none
          match skipGap rest with
          | ',' :: behind => fields? fuel ((name, value) :: reversed) behind
          | ')' :: behind => return (Json.ofMembers ((name, value) :: reversed).reverse, behind)
          | _ => none

/-- Reads the entries of a map behind its brace or a comma; its keys are texts. -/
def entries? : (fuel : Nat) → (reversed : List (String × Json)) → List Char →
    Option (Json × List Char)
  | 0, _, _ => none
  | fuel + 1, reversed, characters => do
      match skipGap characters with
      | '}' :: rest => return (Json.ofMembers reversed.reverse, rest)
      | start =>
          let (key, afterKey) ← value? fuel start
          let name ← match key with
            | .string text => some text
            | _ => none
          let (value, rest) ← match skipGap afterKey with
            | ':' :: tail => value? fuel (skipGap tail)
            | _ => none
          match skipGap rest with
          | ',' :: behind => entries? fuel ((name, value) :: reversed) behind
          | '}' :: behind => return (Json.ofMembers ((name, value) :: reversed).reverse, behind)
          | _ => none

end

/-- Moves past the attributes in front of a document. -/
def skipAttributes : (fuel : Nat) → List Char → List Char
  | 0, characters => characters
  | fuel + 1, characters =>
      match "#![enable(".toList.isPrefixOf? characters with
      | some rest =>
          match Text.cutFirst? [')', ']'] rest with
          | some (_, behind) => skipAttributes fuel (skipGap behind)
          | none => characters
      | none => characters

/-- Reads a text that is one document and nothing else. -/
def read? (text : String) : Option Json := do
  let start := skipAttributes text.length (skipGap text.toList)
  let (document, behind) ← value? (3 * start.length + 3) start
  if (skipGap behind).isEmpty then return document else none

end Backplane.Ron
