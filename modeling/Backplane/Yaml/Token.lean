/-
This file defines the tokens between a YAML text and its nodes.
-/

namespace Backplane.Yaml

/-- A mark, a name or a text. Blocks and single pairs get tokens for marks that are not
written. -/
inductive Token
  | version
  | handle (name path : String)
  | documentStart
  | documentEnd
  | blockSequenceStart
  | blockMappingStart
  | blockEnd
  | blockEntry
  | flowSequenceStart
  | flowSequenceEnd
  | flowMappingStart
  | flowMappingEnd
  | flowEntry
  | key
  | value
  | alias (name : String)
  | anchor (name : String)
  | tag (handle ending : String)
  | scalar (plain : Bool) (text : String)
deriving DecidableEq, Repr

end Backplane.Yaml
