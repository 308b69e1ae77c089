/-
This file reads JSON5 documents: JSON with comments, names without quotes, other numbers and
commas at the ends of lists.
-/

import Backplane.Bits
import Backplane.Json.Value
import Backplane.Text.Alphanumeric
import Backplane.Text.Fields
import Backplane.Text.Hexadecimal

namespace Backplane.Json5

def isLineEnd (character : Char) : Bool := ['\n', '\r', '\u2028', '\u2029'].contains character

def isSpace (character : Char) : Bool :=
  isLineEnd character ||
    ['\t', '\x0b', '\x0c', ' ', '\u00a0', '\ufeff', '\u1680', '\u202f', '\u205f',
      '\u3000'].contains character ||
    ('\u2000' ≤ character && character ≤ '\u200a')

/-- Moves past blanks and comments. -/
def skip : (fuel : Nat) → List Char → List Char
  | 0, characters => characters
  | fuel + 1, characters =>
      match characters.dropWhile isSpace with
      | '/' :: '/' :: rest => skip fuel (rest.dropWhile fun character => !isLineEnd character)
      | '/' :: '*' :: rest =>
          match Text.cutFirst? ['*', '/'] rest with
          | some (_, behind) => skip fuel behind
          | none => '/' :: '*' :: rest
      | start => start

/-- Moves past all blanks and comments. -/
def skipGap (characters : List Char) : List Char := skip (characters.length + 1) characters

/-! ### Texts -/

/-- The characters of escapes that are one letter. -/
def escapes : List (Char × Char) :=
  [('b', '\x08'), ('f', '\x0c'), ('n', '\n'), ('r', '\r'), ('t', '\t'), ('v', '\x0b'),
    ('0', '\x00')]

/-- Reads four hexadecimal digits. -/
def fourDigits? (characters : List Char) : Option (Nat × List Char) := do
  let digits := characters.take 4
  if digits.length < 4 then none
  return (← Text.digitsIn? 16 digits, characters.drop 4)

/-- Reads the number of a character, which may be split into halves. -/
def unicode? (characters : List Char) : Option (Char × List Char) := do
  let (lead, rest) ← fourDigits? characters
  if 0xD800 ≤ lead && lead < 0xDC00 then
    let (trail, behind) ← fourDigits? (← ['\\', 'u'].isPrefixOf? rest)
    if trail < 0xDC00 || 0xE000 ≤ trail then none
    return (← Text.character? (0x10000 + (lead - 0xD800) * 0x400 + (trail - 0xDC00)), behind)
  else return (← Text.character? lead, rest)

/-- Reads what follows a backslash; an end of a line there does not count. -/
def escape? : List Char → Option (List Char × List Char)
  | [] => none
  | '\r' :: '\n' :: rest => some ([], rest)
  | 'x' :: rest => (Text.hexadecimalCharacter? 2 rest).map fun (read, behind) => ([read], behind)
  | 'u' :: rest => (unicode? rest).map fun (read, behind) => ([read], behind)
  | character :: rest =>
      if isLineEnd character then some ([], rest)
      else
        match escapes.lookup character with
        | some escaped => some ([escaped], rest)
        | none => if Decimal.isDigit character then none else some ([character], rest)

/-- Reads a text behind its opening quote. -/
def textBody? (mark : Char) : (fuel : Nat) → (reversed : List Char) → List Char →
    Option (String × List Char)
  | 0, _, _ => none
  | fuel + 1, reversed, characters =>
      match characters with
      | [] => none
      | character :: rest =>
          if character = mark then some (String.ofList reversed.reverse, rest)
          else if character = '\\' then do
            let (escaped, behind) ← escape? rest
            textBody? mark fuel (escaped.reverse ++ reversed) behind
          else if isLineEnd character then none
          else textBody? mark fuel (character :: reversed) rest

def text? (mark : Char) (characters : List Char) : Option (String × List Char) :=
  textBody? mark (characters.length + 1) [] characters

def isNameStart (character : Char) : Bool :=
  character = '$' || character = '_' ||
    (Text.isAlphanumeric character && !Decimal.isDigit character)

def isNamePart (character : Char) : Bool :=
  isNameStart character || Decimal.isDigit character || character = '\u200c' ||
    character = '\u200d'

/-- Reads a name without quotes. -/
def nameBody? : (fuel : Nat) → (reversed : List Char) → List Char → Option (String × List Char)
  | 0, _, _ => none
  | fuel + 1, reversed, characters =>
      match characters with
      | '\\' :: 'u' :: rest => do
          let (number, behind) ← fourDigits? rest
          nameBody? fuel ((← Text.character? number) :: reversed) behind
      | character :: rest =>
          if isNameStart character || (!reversed.isEmpty && isNamePart character) then
            nameBody? fuel (character :: reversed) rest
          else if reversed.isEmpty then none
          else some (String.ofList reversed.reverse, characters)
      | [] => if reversed.isEmpty then none else some (String.ofList reversed.reverse, [])

/-- Reads the name of a member. -/
def name? (characters : List Char) : Option (String × List Char) :=
  match characters with
  | '"' :: rest => text? '"' rest
  | '\'' :: rest => text? '\'' rest
  | _ => nameBody? (characters.length + 1) [] characters

/-! ### Numbers -/

/-- Reads an exponent, if there is one. -/
def exponent (characters : List Char) : List Char :=
  match characters with
  | mark :: rest =>
      if mark = 'e' || mark = 'E' then
        let sign := rest.take 1 |>.filter fun character => character = '+' || character = '-'
        let digits := (rest.drop sign.length).takeWhile Decimal.isDigit
        if digits.isEmpty then [] else mark :: sign ++ digits
      else []
  | [] => []

/-- The longest decimal number without a sign at the start of a text. -/
def decimal (characters : List Char) : List Char :=
  let digits := characters.takeWhile Decimal.isDigit
  let whole := if digits.head? = some '0' then ['0'] else digits
  match characters.drop whole.length with
  | '.' :: rest =>
      let fraction := rest.takeWhile Decimal.isDigit
      if whole.isEmpty && fraction.isEmpty then []
      else whole ++ '.' :: fraction ++ exponent (rest.drop fraction.length)
  | rest => if whole.isEmpty then [] else whole ++ exponent rest

/-- The number that a decimal stands for; without a point and an exponent it is an integer. -/
def decimalValue? (characters : List Char) : Option Json :=
  let text := String.ofList characters
  if characters.any fun character => ['.', 'e', 'E'].contains character then
    ((Decimal.float? text).filter Float.isFinite).map Json.float
  else (Decimal.int64? text).map Json.integer

/-- Words for infinities and for no number. -/
def specialNumbers : List (String × Float) :=
  [("Infinity", 1.0 / 0.0), ("-Infinity", -1.0 / 0.0), ("NaN", 0.0 / 0.0), ("-NaN", 0.0 / 0.0)]

/-- Reads a number. Hexadecimal numbers have 32 bits and no sign. -/
def number? (characters : List Char) : Option (Json × List Char) :=
  let special := specialNumbers.find? fun (word, _) =>
    word.toList.isPrefixOf characters
  match special, characters with
  | some (word, value), _ => some (.float value, characters.drop word.length)
  | none, '0' :: mark :: rest =>
      if mark = 'x' || mark = 'X' then
        let digits := rest.takeWhile (Text.isDigitIn 16)
        ((Text.digitsIn? 16 digits).filter (· < Bits.size 32)).map fun value =>
          (.integer value, rest.drop digits.length)
      else
        let word := decimal characters
        (decimalValue? word).map fun value => (value, characters.drop word.length)
  | none, _ =>
      let sign := characters.take 1 |>.filter fun character => character = '+' || character = '-'
      let word := decimal (characters.drop sign.length)
      if word.isEmpty then none
      else
        (decimalValue? (sign ++ word)).map fun value =>
          (value, characters.drop (sign.length + word.length))

/-! ### Documents -/

/-- Words for values. -/
def words : List (String × Json) :=
  [("null", .null), ("true", .boolean true), ("false", .boolean false)]

mutual

def value? : (fuel : Nat) → List Char → Option (Json × List Char)
  | 0, _ => none
  | fuel + 1, characters =>
      match characters with
      | '[' :: rest => elements? fuel [] rest
      | '{' :: rest => members? fuel [] rest
      | '"' :: rest => (text? '"' rest).map fun (text, behind) => (.string text, behind)
      | '\'' :: rest => (text? '\'' rest).map fun (text, behind) => (.string text, behind)
      | _ =>
          match words.find? fun (word, _) => word.toList.isPrefixOf characters with
          | some (word, value) => some (value, characters.drop word.length)
          | none => number? characters

/-- Reads the elements of an array behind its bracket or a comma. -/
def elements? : (fuel : Nat) → (reversed : List Json) → List Char → Option (Json × List Char)
  | 0, _, _ => none
  | fuel + 1, reversed, characters => do
      match skipGap characters with
      | ']' :: rest => return (.array reversed.reverse, rest)
      | start =>
          let (element, behind) ← value? fuel start
          match skipGap behind with
          | ',' :: rest => elements? fuel (element :: reversed) rest
          | ']' :: rest => return (.array (element :: reversed).reverse, rest)
          | _ => none

/-- Reads the members of an object behind its brace or a comma. -/
def members? : (fuel : Nat) → (reversed : List (String × Json)) → List Char →
    Option (Json × List Char)
  | 0, _, _ => none
  | fuel + 1, reversed, characters => do
      match skipGap characters with
      | '}' :: rest => return (Json.ofMembers reversed.reverse, rest)
      | start =>
          let (name, afterName) ← name? start
          let (value, behind) ← match skipGap afterName with
            | ':' :: rest => value? fuel (skipGap rest)
            | _ => none
          match skipGap behind with
          | ',' :: rest => members? fuel ((name, value) :: reversed) rest
          | '}' :: rest => return (Json.ofMembers ((name, value) :: reversed).reverse, rest)
          | _ => none

end

/-- Reads a text that is one document and nothing else. -/
def read? (text : String) : Option Json := do
  let start := skipGap text.toList
  let (document, behind) ← value? (2 * start.length + 2) start
  if (skipGap behind).isEmpty then return document else none

end Backplane.Json5
