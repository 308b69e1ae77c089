/-
This file defines what stands between two parts of a text that may run over several lines.
-/

namespace Backplane.Yaml

/-- Blanks in a line, or ends of lines. Behind an escaped end of a line only the further ones
count. -/
inductive Separation
  | blanks (reversed : List Char)
  | breaks (escaped : Bool) (further : Nat)
deriving DecidableEq, Repr

namespace Separation

/-- The text that the parts are joined by: a single end of a line becomes a space. -/
def text : Separation → List Char
  | .blanks reversed => reversed.reverse
  | .breaks false 0 => [' ']
  | .breaks _ further => List.replicate further '\n'

/-- A further blank counts only before the first end of a line. -/
def addBlank (character : Char) : Separation → Separation
  | .blanks reversed => .blanks (character :: reversed)
  | separation => separation

def addBreak : Separation → Separation
  | .blanks _ => .breaks false 0
  | .breaks escaped further => .breaks escaped (further + 1)

/-- The end of a line that holds more than blanks. -/
def endComment : Separation → Separation
  | .blanks _ => .breaks false 0
  | separation => separation

end Separation

end Backplane.Yaml
