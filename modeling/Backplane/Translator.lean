/-
This file looks up messages by language and key. Message files are nested documents whose inner
names are joined by points.
-/

import Backplane.Fault
import Backplane.Files
import Backplane.Json.Read
import Backplane.Language
import Backplane.Template
import Std.Data.TreeMap

namespace Backplane

/-- The messages of one language by key. -/
abbrev Messages := Std.TreeMap String String

namespace Messages

/-- The key of a member below a key. -/
def joinKey (above name : String) : String :=
  if above.isEmpty then name else above ++ "." ++ name

mutual

/-- The messages of a document below a key. A text counts under any key, other leaves only
under one that is not empty. -/
def flatten (key : String) : Json → List (String × String)
  | .object members => flattenMembers key members
  | .string text => [(key, text)]
  | document => if key.isEmpty then [] else [(key, document.write)]

def flattenMembers (key : String) : List (String × Json) → List (String × String)
  | [] => []
  | (name, value) :: rest => flatten (joinKey key name) value ++ flattenMembers key rest

end

/-- Adds messages one after the other. -/
def addAll (messages : Messages) (entries : List (String × String)) : Messages :=
  entries.foldl (fun all (key, text) => all.insert key text) messages

/-- The messages in a file. -/
@[irreducible] def readFile (files : Files) (path : String) :
    Except Fault (List (String × String)) :=
  match files.readText path with
  | .error error => .error (.input error)
  | .ok text =>
      match Json.read text with
      | .error failure => .error (.serialization (failure.message text))
      | .ok document => .ok (flatten "" document)

end Messages

/-- The messages of every language, the language in use and the one to fall back to. -/
structure Translator where
  language : Language
  fallback : Language
  messages : Language → Messages

namespace Translator

/-- A translator without messages. -/
def new (language : Language) : Translator :=
  { language, fallback := .usual, messages := fun _ => ∅ }

def withFallback (translator : Translator) (fallback : Language) : Translator :=
  { translator with fallback }

def setLanguage (translator : Translator) (language : Language) : Translator :=
  { translator with language }

/-- Adds messages to one language. -/
def addAll (translator : Translator) (language : Language) (entries : List (String × String)) :
    Translator :=
  { translator with
    messages := fun other =>
      if other = language then (translator.messages other).addAll entries
      else translator.messages other }

def insert (translator : Translator) (language : Language) (key text : String) : Translator :=
  translator.addAll language [(key, text)]

def contains (translator : Translator) (language : Language) (key : String) : Bool :=
  (translator.messages language).contains key

/-- The message of a key in a language, else in the fallback language. -/
def find? (translator : Translator) (language : Language) (key : String) : Option String :=
  match (translator.messages language)[key]? with
  | some text => some text
  | none =>
      if language = translator.fallback then none
      else (translator.messages translator.fallback)[key]?

/-- The message with its verbs filled; without arguments as it stands; the key if there is
none. -/
def translateIn (translator : Translator) (language : Language) (key : String)
    (arguments : List Template.Argument) : String :=
  match translator.find? language key with
  | none => key
  | some text => if arguments.isEmpty then text else Template.fill text arguments

def translate (translator : Translator) (key : String) (arguments : List Template.Argument) :
    String :=
  translator.translateIn translator.language key arguments

/-- The file of a language in a directory. -/
def messageFile (directory : String) (language : Language) : String :=
  Files.join directory (language.code ++ ".json")

/-- The failure of the file that must be there. -/
def fallbackFault (path : String) (fault : Fault) : Fault :=
  .invalidArgument ("failed to load default language file " ++ path ++ ": " ++ fault.message)

/-- Adds the files of the given languages; only the one to fall back to must be readable. -/
def loadEach (files : Files) (directory : String) :
    List Language → Translator → Translator × Except Fault Unit
  | [], translator => (translator, .ok ())
  | language :: rest, translator =>
      let path := messageFile directory language
      match Messages.readFile files path with
      | .ok entries => loadEach files directory rest (translator.addAll language entries)
      | .error fault =>
          if language = translator.fallback then (translator, .error (fallbackFault path fault))
          else loadEach files directory rest translator

/-- Adds the message files of a directory, one for each language. -/
def load (translator : Translator) (files : Files) (directory : String) :
    Translator × Except Fault Unit :=
  loadEach files directory Language.all translator

/-- A call that changes what a translator says. -/
inductive Call
  | insert (language : Language) (key text : String)
  | setLanguage (language : Language)
  | load (files : Files) (directory : String)

/-- Carries a call out. -/
def step (translator : Translator) : Call → Translator × Except Fault Unit
  | .insert language key text => (translator.insert language key text, .ok ())
  | .setLanguage language => (translator.setLanguage language, .ok ())
  | .load files directory => translator.load files directory

/-- Carries calls out one after the other. -/
def run : Translator → List Call → Translator × List (Except Fault Unit)
  | translator, [] => (translator, [])
  | translator, call :: calls =>
      let (next, result) := translator.step call
      let (last, results) := next.run calls
      (last, result :: results)

end Translator

end Backplane
