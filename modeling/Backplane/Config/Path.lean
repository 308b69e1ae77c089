/-
This file reads keys such as `a.b[0]` and finds or replaces the value at one.
-/

import Backplane.Bits
import Backplane.Config.Value
import Backplane.Decimal.Read

namespace Backplane.Config

/-- One step below a value. A negative index counts from the end. -/
inductive Step
  | key (name : String)
  | index (position : Int)
deriving DecidableEq, Repr

/-- A name at the top and the steps below it. -/
structure Path where
  root : String
  steps : List Step
deriving DecidableEq, Repr

namespace Path

/-- Characters of a name in a path. -/
def isNameCharacter (character : Char) : Bool :=
  character.isAlphanum || character = '_' || character = '-'

/-- A name at the start of a text, and the rest. -/
def takeName? (characters : List Char) : Option (String × List Char) :=
  let name := characters.takeWhile isNameCharacter
  if name.isEmpty then none
  else some (String.ofList name, characters.dropWhile isNameCharacter)

def isGap (character : Char) : Bool := character = ' ' || character = '\t'

/-- The smallest and the largest index. -/
def indexRange : Int × Int := (Bits.leastSigned 64, Bits.mostSigned 64)

/-- An index and its closing bracket at the start of a text, and the rest. -/
def takeIndex? (characters : List Char) : Option (Int × List Char) :=
  let start := characters.dropWhile isGap
  let (negative, body) := match start with
    | '-' :: rest => (true, rest)
    | _ => (false, start)
  let digits := body.takeWhile Decimal.isDigit
  match (body.dropWhile Decimal.isDigit).dropWhile isGap with
  | ']' :: rest =>
      if digits.isEmpty then none
      else
        let magnitude : Int := Decimal.digitsValue digits
        let value := if negative then -magnitude else magnitude
        if indexRange.1 ≤ value ∧ value ≤ indexRange.2 then some (value, rest) else none
  | _ => none

/-- Reads steps to the end of the text. -/
def takeSteps? : (fuel : Nat) → List Char → Option (List Step)
  | _, [] => some []
  | 0, _ :: _ => none
  | fuel + 1, '.' :: rest => do
      let (name, tail) ← takeName? rest
      return .key name :: (← takeSteps? fuel tail)
  | fuel + 1, '[' :: rest => do
      let (position, tail) ← takeIndex? rest
      return .index position :: (← takeSteps? fuel tail)
  | _ + 1, _ :: _ => none

/-- The path that a text spells, if it spells one. -/
def read? (text : String) : Option Path := do
  let (root, rest) ← takeName? text.toList
  return ⟨root, ← takeSteps? rest.length rest⟩

/-- The place of an index in an array of the given length; below the start, how far below. -/
def place (index : Int) (length : Nat) : Except Nat Nat :=
  if 0 ≤ index then .ok index.toNat
  else if index.natAbs ≤ length then .ok (length - index.natAbs)
  else .error (index.natAbs - length)

/-- Follows steps below a value. -/
def follow? : List Step → Value → Option Value
  | [], value => some value
  | .key name :: steps, value => do follow? steps (← Entries.get? name value.entries)
  | .index index :: steps, value =>
      match place index value.elements.length with
      | .ok position => do follow? steps (← value.elements[position]?)
      | .error _ => none

/-- The value at a path. -/
def get? (path : Path) (root : Value) : Option Value :=
  follow? (.key path.root :: path.steps) root

/-- The elements of an array, long enough to have one at the given place. -/
def padded (position : Nat) (elements : List Value) : List Value :=
  elements ++ List.replicate (position + 1 - elements.length) .nothing

/-- Changes the value behind some steps; what is missing on the way is made. -/
def changeAt (change : Value → Value) : List Step → Value → Value
  | [], value => change value
  | .key name :: steps, value =>
      let old := (Entries.get? name value.entries).getD .nothing
      let entries := Entries.insert name (changeAt change steps old) value.entries
      match value with
      | .mk origin (.table _) => .mk origin (.table entries)
      | _ => .mk none (.table entries)
  | .index index :: steps, value =>
      let (position, elements) := match place index value.elements.length with
        | .ok position => (position, padded position value.elements)
        | .error missing => (0, List.replicate missing Value.nothing ++ value.elements)
      let old := (elements[position]?).getD .nothing
      let changed := elements.set position (changeAt change steps old)
      match value with
      | .mk origin (.array _) => .mk origin (.array changed)
      | _ => .mk none (.array changed)

/-- Lays a value over the one at a path. -/
def set (path : Path) (value root : Value) : Value :=
  changeAt value.overlay (.key path.root :: path.steps) root

end Path

/-- Lays a value over the one at a key; a key that is no path is a single name. -/
def Value.setKey (key : String) (value root : Value) : Value :=
  ((Path.read? key).getD ⟨key, []⟩).set value root

end Backplane.Config
