/-
This file defines configuration values. Every value may name the source it came from.
-/

import Backplane.Config.Error
import Backplane.Entries
import Backplane.Json.Value

namespace Backplane.Config

mutual

/-- A value and the source it came from. -/
inductive Value
  | mk (origin : Option String) (content : Content)

/-- What a value is; integers have 64 bits, with or without a sign. -/
inductive Content
  | nothing
  | boolean (value : Bool)
  | integer (value : Int)
  | float (value : Float)
  | string (text : String)
  | table (entries : List (String × Value))
  | array (elements : List Value)

end

instance : Inhabited Value := ⟨.mk none .nothing⟩

namespace Value

def origin : Value → Option String
  | .mk origin _ => origin

def content : Value → Content
  | .mk _ content => content

/-- A value without content or source. -/
def nothing : Value := .mk none .nothing

/-- A table without entries or source. -/
def emptyTable : Value := .mk none (.table [])

/-- The entries of a table; other values have none. -/
def entries : Value → List (String × Value)
  | .mk _ (.table entries) => entries
  | _ => []

/-- The elements of an array; other values have none. -/
def elements : Value → List Value
  | .mk _ (.array elements) => elements
  | _ => []

mutual

/-- The value of a document read from a source. -/
def ofJson (origin : Option String) : Json → Value
  | .null => .mk origin .nothing
  | .boolean value => .mk origin (.boolean value)
  | .integer value => .mk origin (.integer value)
  | .float value => .mk origin (.float value)
  | .string text => .mk origin (.string text)
  | .array elements => .mk origin (.array (ofElements origin elements))
  | .object members => .mk origin (.table (ofMembers origin members))

def ofElements (origin : Option String) : List Json → List Value
  | [] => []
  | element :: rest => ofJson origin element :: ofElements origin rest

def ofMembers (origin : Option String) : List (String × Json) → List (String × Value)
  | [] => []
  | (name, value) :: rest => (name, ofJson origin value) :: ofMembers origin rest

end

mutual

/-- Lays `incoming` over a value: tables are merged entry by entry, all else is replaced. -/
def overlay : (incoming : Value) → (target : Value) → Value
  | .mk _ (.table incoming), .mk origin (.table entries) =>
      .mk origin (.table (overlayEntries incoming entries))
  | .mk _ (.table incoming), _ => .mk none (.table (overlayEntries incoming []))
  | incoming, _ => incoming

def overlayEntries : (incoming : List (String × Value)) → (entries : List (String × Value)) →
    List (String × Value)
  | [], entries => entries
  | (name, value) :: rest, entries =>
      let old := (Entries.get? name entries).getD nothing
      overlayEntries rest (Entries.insert name (overlay value old) entries)

end

end Value

end Backplane.Config
