/-
This file defines what a translator is meant to say: at most one text for each key in each language.
A message file lays its leaves over the texts of its language.
-/

import Backplane.Translator

namespace Backplane

namespace Json

mutual

/-- The leaves of a document in order, each with the names that lead to it. -/
def leaves : Json → List (List String × Json)
  | .object members => leavesOfMembers members
  | leaf => [([], leaf)]

def leavesOfMembers : List (String × Json) → List (List String × Json)
  | [] => []
  | (name, value) :: rest =>
      (leaves value).map (fun (path, leaf) => (name :: path, leaf)) ++ leavesOfMembers rest

end

end Json

/-- The message of each key in each language. -/
abbrev Catalogue := Language → String → Option String

namespace Catalogue

/-- The key of a path: its names with points between them, without empty names in front. -/
def pathKey (path : List String) : String := ".".intercalate (path.dropWhile String.isEmpty)

/-- The text of a leaf; under the empty key only a text has one. -/
def leafText? (key : String) : Json → Option String
  | .string text => some text
  | leaf => if key.isEmpty then none else some leaf.write

/-- The text of a key in a document: that of the last leaf there. -/
def message? (document : Json) (key : String) : Option String :=
  document.leaves.reverse.findSome? fun (path, leaf) =>
    if pathKey path = key then leafText? key leaf else none

/-- The document of a language in a directory, if its file can be read as one. -/
@[irreducible] def document? (files : Files) (directory : String) (language : Language) :
    Option Json := do
  let bytes ← (files.read (Files.join directory (language.code ++ ".json"))).toOption
  let text ← Text.ofUtf8? bytes
  (Json.read text).toOption

def empty : Catalogue := fun _ _ => none

/-- Sets the text of one key. -/
def set (catalogue : Catalogue) (language : Language) (key text : String) : Catalogue :=
  fun other name => if other = language ∧ name = key then some text else catalogue other name

/-- Lays the documents of a directory over the texts of their languages. -/
def load (catalogue : Catalogue) (files : Files) (directory : String) : Catalogue :=
  fun language key =>
    match document? files directory language with
    | some document => (message? document key).or (catalogue language key)
    | none => catalogue language key

def step (catalogue : Catalogue) : Translator.Call → Catalogue
  | .insert language key text => catalogue.set language key text
  | .setLanguage _ => catalogue
  | .load files directory => catalogue.load files directory

/-- The texts after a run of calls. -/
def ofCalls (calls : List Translator.Call) : Catalogue := calls.foldl step empty

/-- The text of a key in a language, else in the fallback language, with its verbs filled if there
are arguments; the key if there is no text. -/
def say (catalogue : Catalogue) (fallback language : Language) (key : String)
    (arguments : List Template.Argument) : String :=
  match (catalogue language key).or (catalogue fallback key) with
  | none => key
  | some text =>
      match arguments with
      | [] => text
      | _ => Template.fill text arguments

/-- The language that a call sets. -/
def setBy? : Translator.Call → Option Language
  | .setLanguage language => some language
  | _ => none

/-- The language that a run of calls sets last. -/
def lastLanguage (first : Language) (calls : List Translator.Call) : Language :=
  (calls.filterMap setBy?).getLast?.getD first

end Catalogue

end Backplane
