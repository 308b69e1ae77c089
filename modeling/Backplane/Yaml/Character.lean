/-
This file tells apart the characters of YAML texts.
-/

import Backplane.Text.Fields

namespace Backplane.Yaml

def isBlank (character : Char) : Bool := character = ' ' || character = '\t'

def isBreak (character : Char) : Bool := character = '\n'

/-- Marks of collections in brackets. -/
def isFlowMark (character : Char) : Bool := ",[]\x7b\x7d".toList.contains character

/-- Characters of the names of directives and of handles. -/
def isNameCharacter (character : Char) : Bool :=
  character.isAlphanum || character = '_' || character = '-'

/-- Characters of the address of a kind. -/
def isAddressCharacter (character : Char) : Bool :=
  character.isAlphanum || "-#;/?:@&=+$,_.!~*'()[]%".toList.contains character

/-- Characters of the short name of a kind. -/
def isTagCharacter (character : Char) : Bool :=
  isAddressCharacter character && !isFlowMark character && character ≠ '!'

/-- Characters of the name of a node. -/
def isAnchorCharacter (character : Char) : Bool :=
  !isBlank character && !isBreak character && !isFlowMark character && character ≠ '\ufeff'

/-- Tells whether nothing more stands in the line. -/
def atLineEnd : List Char → Bool
  | [] => true
  | character :: _ => isBreak character

/-- Tells whether a word or a mark ends before the given characters. -/
def endsWord : List Char → Bool
  | [] => true
  | character :: _ => isBlank character || isBreak character

/-- Tells whether the given characters start with a mark of collections. -/
def startsFlowMark : List Char → Bool
  | [] => false
  | character :: _ => isFlowMark character

/-- Tells whether a mark that ends as a word does comes first. -/
def startsMark (mark : String) (characters : List Char) : Bool :=
  match mark.toList.isPrefixOf? characters with
  | some rest => endsWord rest
  | none => false

/-- Tells whether the start or the end of a document is marked here. -/
def startsDocumentMark (characters : List Char) : Bool :=
  startsMark "---" characters || startsMark "..." characters

/-- Ends of lines are written in one way. -/
def unifyBreaks : List Char → List Char
  | [] => []
  | '\r' :: '\n' :: rest => '\n' :: unifyBreaks rest
  | '\r' :: rest => '\n' :: unifyBreaks rest
  | character :: rest => character :: unifyBreaks rest

end Backplane.Yaml
