/-
This file defines the supported languages and picks one from a tag or a preference list.
-/

import Backplane.Text.Blank
import Backplane.Text.Fields

namespace Backplane

inductive Language
  | english
  | chinese
  | japanese
  | korean
deriving DecidableEq, Repr, Inhabited

namespace Language

/-- Every supported language, in the order in which tags are tried. -/
def all : List Language := [.english, .chinese, .japanese, .korean]

/-- The language of a request or a key without one. -/
def usual : Language := .english

def codeCharacters : Language → List Char
  | .english => ['e', 'n']
  | .chinese => ['z', 'h']
  | .japanese => ['j', 'a']
  | .korean => ['k', 'o']

def code (language : Language) : String := String.ofList language.codeCharacters

/-- The first language whose code begins the tag, without regard to blanks around and case. -/
def ofTagCharacters? (tag : List Char) : Option Language :=
  let letters := (Text.trimBlank tag).map Char.toLower
  all.find? fun language => language.codeCharacters.isPrefixOf letters

def ofTag? (tag : String) : Option Language := ofTagCharacters? tag.toList

/-- The language whose code the text is, without regard to blanks around and case. -/
def ofCode? (text : String) : Option Language :=
  let letters := (Text.trimBlank text.toList).map Char.toLower
  all.find? fun language => language.codeCharacters = letters

/-- The complaint about a text that is no language code. -/
def unsupported (text : String) : String := "unsupported language: " ++ text

/-- The first entry of a preference list that names a language; weights do not count. -/
def preferredCharacters? (header : List Char) : Option Language :=
  (Text.fields ',' header).findSome? fun entry => ofTagCharacters? (Text.beforeFirst ';' entry)

def preferred? (header : String) : Option Language := preferredCharacters? header.toList

/-- The preferred language, or the usual one. -/
def preferred (header : String) : Language := (preferred? header).getD usual

end Language

end Backplane
