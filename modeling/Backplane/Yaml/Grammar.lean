/-
This file builds the nodes that YAML tokens spell, remembers the nodes that have names, and reads
whole texts.
-/

import Backplane.Yaml.Lexer
import Backplane.Yaml.Node

namespace Backplane.Yaml

/-- The unread tokens, the handles of kinds, and the named nodes: names stand for numbers, and
numbers for nodes that are complete. -/
structure Reading where
  tokens : List Token
  handles : List (String × String) := []
  names : List (String × Nat) := []
  nodes : List (Nat × Node) := []

/-- What a node is declared to be: the number behind its name, and its kind. -/
structure Properties where
  number : Option Nat := none
  kind : Option (String × String) := none

/-- A step that reads tokens, if they spell what it reads. -/
abbrev Reader := StateT Reading Option

namespace Reader

def peek : Reader (Option Token) := return (← get).tokens.head?

def skip : Reader Unit := modify fun reading => { reading with tokens := reading.tokens.drop 1 }

/-- Reads one of the given tokens, if it comes next. -/
def accept (expected : List Token) : Reader Bool := do
  match ← peek with
  | some token => if expected.contains token then skip *> return true else return false
  | none => return false

/-- Tells whether one of the given tokens comes next. -/
def sees (expected : List Token) : Reader Bool := return (← peek).any expected.contains

/-- Reads the comma between two parts; none stands in front of the first. -/
def separator (first : Bool) : Reader Unit := do
  if first then return
  if ← accept [.flowEntry] then return else failure

/-- The path of a handle and the name of a kind. Handles that are not closed need no path. -/
def kindOf? (handles : List (String × String)) (handle ending : String) :
    Option (String × String) :=
  match handles.lookup handle with
  | some path => some (path, ending)
  | none =>
      if handle = "!!" then some (Scalar.kindPath, ending)
      else if 2 ≤ handle.length && handle.startsWith "!" && handle.endsWith "!" then none
      else some (handle, ending)

/-- Gives a name its number. -/
def name (anchor : String) : Reader Nat := do
  let number := (← get).names.length
  modify fun reading => { reading with names := (anchor, number) :: reading.names }
  return number

def readAnchor : Reader (Option Nat) := do
  match ← peek with
  | some (.anchor anchor) => skip *> some <$> name anchor
  | _ => return none

def readKind : Reader (Option (String × String)) := do
  match ← peek with
  | some (.tag handle ending) =>
      skip
      some <$> kindOf? (← get).handles handle ending
  | _ => return none

/-- Reads a name and a kind in either order. -/
def properties : Reader Properties := do
  match ← readAnchor with
  | some number => return ⟨some number, ← readKind⟩
  | none =>
      match ← readKind with
      | some kind => return ⟨← readAnchor, some kind⟩
      | none => return {}

/-- Completes a node that may have a name. -/
def complete (number : Option Nat) (node : Node) : Reader Node := do
  match number with
  | some number =>
      modify fun reading => { reading with nodes := (number, node) :: reading.nodes }
  | none => pure ()
  return node

/-- The node of a name; one that is not complete is absent. -/
def named (anchor : String) : Reader Node := do
  let reading ← get
  let number ← reading.names.lookup anchor
  return (reading.nodes.lookup number).getD .absent

/-- The node of a text; texts in quotes and blocks are of no other kind. -/
def scalarNode (kind : Option (String × String)) (plain : Bool) (text : String) : Node :=
  if !plain then .scalar (.string text)
  else
    match kind with
    | some (path, ending) => (Scalar.ofTagged? path ending text).elim .absent Node.scalar
    | none => .scalar (.ofWord text)

/-- The mapping of keys and values in turn. -/
def mappingOf (parts : List Node) : Reader Node := do
  return .mapping (← Node.entriesOf? [] .absent parts)

mutual

/-- Reads a node. Blocks stand only where `block` allows them, and entries without a block of
their own only where `bare` does. -/
def node : (fuel : Nat) → (block bare : Bool) → Reader Node
  | 0, _, _ => failure
  | fuel + 1, block, bare => do
      match ← peek with
      | some (.alias anchor) => skip *> named anchor
      | _ =>
          let declared ← properties
          complete declared.number (← contents fuel block bare declared)

/-- Reads what stands behind the properties of a node. -/
def contents : (fuel : Nat) → (block bare : Bool) → Properties → Reader Node
  | 0, _, _, _ => failure
  | fuel + 1, block, bare, declared => do
      match ← peek with
      | some (.scalar plain text) => skip *> return scalarNode declared.kind plain text
      | some .flowSequenceStart => skip *> .sequence <$> flowElements fuel true
      | some .flowMappingStart => skip *> flowEntries fuel true >>= mappingOf
      | token =>
          if bare && token = some .blockEntry then return .sequence (← bareElements fuel)
          else if block && token = some .blockSequenceStart then
            skip *> .sequence <$> elements fuel
          else if block && token = some .blockMappingStart then
            skip *> entries fuel >>= mappingOf
          else if declared.number.isSome || declared.kind.isSome then
            return scalarNode declared.kind true ""
          else failure

/-- Reads a node, unless one of the given tokens shows that it is left out. -/
def nodeBefore : (fuel : Nat) → (block bare : Bool) → (ends : List Token) → Reader Node
  | 0, _, _, _ => failure
  | fuel + 1, block, bare, ends => do
      if ← sees ends then return .null else node fuel block bare

/-- Reads the entries of a block of dashes. -/
def elements : (fuel : Nat) → Reader (List Node)
  | 0 => failure
  | fuel + 1 => do
      if ← accept [.blockEnd] then return []
      else if ← accept [.blockEntry] then
        let element ← nodeBefore fuel true false [.blockEntry, .blockEnd]
        return element :: (← elements fuel)
      else failure

/-- Reads entries whose dashes are not indented. -/
def bareElements : (fuel : Nat) → Reader (List Node)
  | 0 => failure
  | fuel + 1 => do
      if ← accept [.blockEntry] then
        let element ← nodeBefore fuel true false [.blockEntry, .key, .value, .blockEnd]
        return element :: (← bareElements fuel)
      else return []

/-- Reads the keys and values of a block in turn. -/
def entries : (fuel : Nat) → Reader (List Node)
  | 0 => failure
  | fuel + 1 => do
      let ends := [.key, .value, .blockEnd]
      if ← accept [.blockEnd] then return []
      let key ←
        if ← accept [.key] then nodeBefore fuel true true ends
        else if ← sees [.value] then pure .null
        else failure
      let value ← if ← accept [.value] then nodeBefore fuel true true ends else pure .null
      return key :: value :: (← entries fuel)

/-- Reads the elements of a sequence in brackets. -/
def flowElements : (fuel : Nat) → (first : Bool) → Reader (List Node)
  | 0, _ => failure
  | fuel + 1, first => do
      if ← accept [.flowSequenceEnd] then return []
      separator first
      if ← accept [.flowSequenceEnd] then return []
      let element ←
        if ← accept [.key] then mappingOf (← pair fuel) else node fuel false false
      return element :: (← flowElements fuel false)

/-- Reads the key and the value of a single pair in brackets. A key that is left out takes the
mark behind it along. -/
def pair : (fuel : Nat) → Reader (List Node)
  | 0 => failure
  | fuel + 1 => do
      let key ←
        if ← accept [.value, .flowEntry, .flowSequenceEnd] then pure .null
        else node fuel false false
      let value ←
        if ← accept [.value] then nodeBefore fuel false false [.flowEntry, .flowSequenceEnd]
        else pure .null
      return [key, value]

/-- Reads the keys and values of a mapping in braces in turn. -/
def flowEntries : (fuel : Nat) → (first : Bool) → Reader (List Node)
  | 0, _ => failure
  | fuel + 1, first => do
      if ← accept [.flowMappingEnd] then return []
      separator first
      if ← accept [.flowMappingEnd] then return []
      let (key, paired) ←
        if ← accept [.key] then
          pure (← nodeBefore fuel false false [.value, .flowEntry, .flowMappingEnd], true)
        else if ← sees [.value] then pure (.null, true)
        else pure (← node fuel false false, false)
      let valued ← if paired then accept [.value] else pure false
      let value ←
        if valued then nodeBefore fuel false false [.flowEntry, .flowMappingEnd]
        else pure .null
      return key :: value :: (← flowEntries fuel false)

end

/-! ### Documents -/

/-- Reads directives; only the last one counts, and a version is given once. -/
def directives : (fuel : Nat) → (version : Bool) → Reader Unit
  | 0, _ => failure
  | fuel + 1, version => do
      match ← peek with
      | some .version =>
          if version then failure
          else
            modify fun reading => { reading with handles := [] }
            skip *> directives fuel true
      | some (.handle name path) =>
          modify fun reading => { reading with handles := [(name, path)] }
          skip *> directives fuel version
      | _ => return

/-- Skips the marks of ends of documents. -/
def skipEnds : Reader Unit :=
  modify fun reading =>
    { reading with tokens := reading.tokens.dropWhile (· = .documentEnd) }

/-- Reads the only document; nothing if there is none. -/
def document (fuel : Nat) : Reader (Option Node) := do
  skipEnds
  match ← peek with
  | none => return none
  | some first =>
      directives fuel false
      let marked ← accept [.documentStart]
      let directed := first = .version || first matches .handle _ _
      if directed && !marked then failure
      let root ←
        if marked && ((← peek).isNone || (← sees [.documentStart, .documentEnd, .version])) then
          pure Node.null
        else node fuel true false
      skipEnds
      if (← peek).isSome then failure
      return some root

end Reader

/-- The only document of the given tokens. -/
def document? (tokens : List Token) : Option (Option Node) :=
  ((Reader.document (4 * tokens.length + 8)).run { tokens }).map Prod.fst

/-- Reads a text with at most one document; without one it stands for an empty object. A text
ends at a character of number zero. -/
def read? (text : String) : Option Json := do
  let characters := unifyBreaks (text.toList.takeWhile fun character => character.toNat ≠ 0)
  match ← document? (← tokens? characters) with
  | none => return .object []
  | some root => root.toJson?

end Backplane.Yaml
