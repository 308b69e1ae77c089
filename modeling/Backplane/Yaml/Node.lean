/-
This file defines YAML documents and what they stand for.
-/

import Backplane.Yaml.Scalar

namespace Backplane.Yaml

/-- A document or a part of one. A part is absent if its text is not of its declared kind. -/
inductive Node
  | absent
  | scalar (value : Scalar)
  | sequence (elements : List Node)
  | mapping (entries : List (Node × Node))
deriving Inhabited

namespace Node

/-- What stands where a node is left out. -/
def null : Node := .scalar .null

def isAbsent : Node → Bool
  | .absent => true
  | _ => false

mutual

/-- Tells whether two nodes have the same contents in the same order. -/
def same : Node → Node → Bool
  | .absent, .absent => true
  | .scalar left, .scalar right => left = right
  | .sequence left, .sequence right => sameElements left right
  | .mapping left, .mapping right => sameEntries left right
  | _, _ => false

def sameElements : List Node → List Node → Bool
  | [], [] => true
  | left :: lefts, right :: rights => same left right && sameElements lefts rights
  | _, _ => false

def sameEntries : List (Node × Node) → List (Node × Node) → Bool
  | [], [] => true
  | (key, value) :: lefts, (otherKey, otherValue) :: rights =>
      same key otherKey && same value otherValue && sameEntries lefts rights
  | _, _ => false

end

/-- The mapping of keys and values in turn; no key occurs twice. A key that is absent is
replaced by the node behind it, and a last key without a value is left out. -/
def entriesOf? : (reversed : List (Node × Node)) → (key : Node) → List Node →
    Option (List (Node × Node))
  | reversed, _, [] => some reversed.reverse
  | reversed, key, node :: rest =>
      if key.isAbsent then entriesOf? reversed node rest
      else if reversed.any fun (other, _) => same key other then none
      else entriesOf? ((key, node) :: reversed) .absent rest

/-- The name that a key stands for; only scalars are names. -/
def name? : Node → Option String
  | .scalar value => value.name?
  | _ => none

mutual

/-- The document that a node stands for. -/
def toJson? : Node → Option Json
  | .absent => some .null
  | .scalar value => value.toJson?
  | .sequence elements => Json.array <$> elementsToJson? elements
  | .mapping entries => Json.ofMembers <$> entriesToJson? entries

def elementsToJson? : List Node → Option (List Json)
  | [] => some []
  | element :: rest => do return (← toJson? element) :: (← elementsToJson? rest)

def entriesToJson? : List (Node × Node) → Option (List (String × Json))
  | [] => some []
  | (key, value) :: rest => do
      return (← key.name?, ← toJson? value) :: (← entriesToJson? rest)

end

end Node

end Backplane.Yaml
