/-
This file builds TOML tables entry by entry. A table may be extended only in the way in which it
was begun.
-/

import Backplane.Json.Value

namespace Backplane.Toml

/-- How a table was begun. -/
inductive Origin
  /-- On the way to another table. -/
  | implied
  /-- By a header of its own. -/
  | header
  /-- By a key with points. -/
  | dotted
deriving DecidableEq, Repr

/-- What a key stands for. -/
inductive Item
  | closed (value : Json)
  | table (origin : Origin) (entries : List (String × Item))
  | tables (elements : List (List (String × Item)))

abbrev Table := List (String × Item)

namespace Table

/-- Changes the item of a key, which may be absent; no other item changes. -/
def alter (key : String) (change : Option Item → Option Item) : Table → Option Table
  | [] => do return [(key, ← change none)]
  | (name, item) :: rest =>
      if name = key then do return (name, ← change (some item)) :: rest
      else do return (name, item) :: (← alter key change rest)

/-- Changes the last table of an array of tables. -/
def alterLast (change : Table → Option Table) : List Table → Option (List Table)
  | [] => none
  | [table] => do return [← change table]
  | table :: rest => do return table :: (← alterLast change rest)

/-- Assigns a value to a new key; tables on the way are begun by it. -/
def assign (value : Json) : (path : List String) → Table → Option Table
  | [], _ => none
  | [key], table =>
      table.alter key fun
        | none => some (.closed value)
        | some _ => none
  | key :: path, table =>
      table.alter key fun
        | none => Item.table .dotted <$> assign value path []
        | some (.table .header _) => none
        | some (.table origin entries) => Item.table origin <$> assign value path entries
        | some _ => none

/-- Changes the table at a path; tables on the way are implied by it. -/
def within (change : Table → Option Table) : (path : List String) → Table → Option Table
  | [], table => change table
  | key :: path, table =>
      table.alter key fun
        | none => Item.table .implied <$> within change path []
        | some (.table origin entries) => Item.table origin <$> within change path entries
        | some (.tables elements) => Item.tables <$> alterLast (within change path) elements
        | some (.closed _) => none

/-- Begins a table by its header. -/
def begin (key : String) (table : Table) : Option Table :=
  table.alter key fun
    | none => some (.table .header [])
    | some (.table .implied entries) => some (.table .header entries)
    | some _ => none

/-- Adds an empty table to an array of tables. -/
def append (key : String) (table : Table) : Option Table :=
  table.alter key fun
    | none => some (.tables [[]])
    | some (.tables elements) => some (.tables (elements ++ [[]]))
    | some _ => none

end Table

mutual

def Item.toJson : Item → Json
  | .closed value => value
  | .table _ entries => Json.ofMembers (entriesToJson entries)
  | .tables elements => .array (tablesToJson elements)

def entriesToJson : List (String × Item) → List (String × Json)
  | [] => []
  | (name, item) :: rest => (name, item.toJson) :: entriesToJson rest

def tablesToJson : List (List (String × Item)) → List Json
  | [] => []
  | entries :: rest => Json.ofMembers (entriesToJson entries) :: tablesToJson rest

end

end Backplane.Toml
