/-
This file fills the verbs `%s`, `%d`, `%v` and `%f` of a template, one argument each, in order.
-/

import Backplane.Decimal.Layout

namespace Backplane.Template

/-- A value that can be put into a template. -/
inductive Argument
  | text (value : String)
  | boolean (value : Bool)
  | integer (value : Int)
  | float (value : Float)
  | character (value : Char)

def Argument.write : Argument → String
  | .text value => value
  | .boolean value => if value then "true" else "false"
  | .integer value => toString value
  | .float value => Decimal.plain value
  | .character value => String.singleton value

def isVerb (character : Char) : Bool :=
  character = 's' || character = 'd' || character = 'v' || character = 'f'

/-- Two percent signs stand for one; a verb without an argument stays as it is. -/
def fillCharacters : (template : List Char) → (arguments : List (List Char)) → List Char
  | [], _ => []
  | '%' :: '%' :: rest, arguments => '%' :: fillCharacters rest arguments
  | '%' :: verb :: rest, arguments =>
      if isVerb verb then
        match arguments with
        | argument :: others => argument ++ fillCharacters rest others
        | [] => '%' :: verb :: fillCharacters rest []
      else '%' :: fillCharacters (verb :: rest) arguments
  | character :: rest, arguments => character :: fillCharacters rest arguments

def fill (template : String) (arguments : List Argument) : String :=
  String.ofList
    (fillCharacters template.toList (arguments.map fun argument => argument.write.toList))

end Backplane.Template
