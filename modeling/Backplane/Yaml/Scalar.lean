/-
This file defines YAML values without parts, and what plain words stand for.
-/

import Backplane.Bits
import Backplane.Json.Value
import Backplane.Text.Hexadecimal

namespace Backplane.Yaml

/-- A value without parts. A real number keeps its text. -/
inductive Scalar
  | null
  | boolean (value : Bool)
  | integer (value : Int)
  | real (text : String)
  | string (text : String)
deriving DecidableEq, Repr

namespace Scalar

/-- A signed integer of 64 bits in another base. -/
def integerIn? (base : Nat) (characters : List Char) : Option Int :=
  let signed := match characters with
    | '-' :: rest => (Text.digitsIn? base rest).map fun value => -(value : Int)
    | '+' :: rest => (Text.digitsIn? base rest).map Int.ofNat
    | _ => (Text.digitsIn? base characters).map Int.ofNat
  signed.filter fun value => Bits.leastSigned 64 ≤ value && value ≤ Bits.mostSigned 64

/-- The integer that a word stands for; a further sign may follow a plus sign. -/
def integer? (word : String) : Option Int :=
  match word.toList with
  | '0' :: 'x' :: rest => integerIn? 16 rest
  | '0' :: 'o' :: rest => integerIn? 8 rest
  | '+' :: rest => Decimal.int64? (String.ofList rest)
  | _ => Decimal.int64? word

/-- Words for infinities and for no number. -/
def specialReals : List String :=
  [".inf", ".Inf", ".INF", "+.inf", "+.Inf", "+.INF", "-.inf", "-.Inf", "-.INF", ".nan", ".NaN",
    ".NAN"]

def isReal (word : String) : Bool :=
  specialReals.contains word ||
    (word.toList.any Decimal.isDigit && (Decimal.float? word).isSome)

def boolean? (word : String) : Option Bool :=
  if word = "true" ∨ word = "True" ∨ word = "TRUE" then some true
  else if word = "false" ∨ word = "False" ∨ word = "FALSE" then some false
  else none

/-- What a word without quotes stands for. -/
def ofWord (word : String) : Scalar :=
  match integer? word, boolean? word with
  | some value, _ => .integer value
  | none, some value => .boolean value
  | none, none =>
      if word = "" ∨ word = "~" ∨ word = "null" then .null
      else if isReal word then .real word
      else .string word

/-- What the addresses of the kinds below start with. -/
def kindPath : String := "tag:yaml.org,2002:"

/-- What a word of a declared kind stands for; nothing if it is not of that kind. -/
def ofTagged? (path kind word : String) : Option Scalar :=
  if path ≠ kindPath then some (.string word)
  else
    match kind with
    | "bool" => (boolean? word).map Scalar.boolean
    | "int" => (Decimal.int64? word).map Scalar.integer
    | "float" => if isReal word then some (.real word) else none
    | "null" => if word = "~" ∨ word = "null" then some .null else none
    | _ => some (.string word)

/-- The name that a key stands for; not every scalar is a name. -/
def name? : Scalar → Option String
  | .null => none
  | .boolean value => some (if value then "true" else "false")
  | .integer value => some (toString value)
  | .real text => some text
  | .string text => some text

/-- The document of a scalar; a real number must be written as a decimal. -/
def toJson? : Scalar → Option Json
  | .null => some .null
  | .boolean value => some (.boolean value)
  | .integer value => some (.integer value)
  | .real text => (Decimal.float? text).map Json.float
  | .string text => some (.string text)

end Scalar

end Backplane.Yaml
