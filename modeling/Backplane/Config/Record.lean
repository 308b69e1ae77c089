/-
This file turns tables and arrays into records and into maps from names.
-/

import Backplane.Config.Scalar

namespace Backplane.Config

/-- A field of a record: its names, the first of them preferred, and what a value for it does. -/
structure Field (α : Type) where
  name : String
  second : Option String := none
  required : Bool := false
  store : Value → α → Except Error α

/-- A record: its name in complaints, its fields in order and its value before any is stored. -/
structure Record (α : Type) where
  name : String
  fields : List (Field α)
  initial : α

namespace Field

/-- A field that is stored by replacing a part of the record. -/
def of (name : String) (convert : Value → Except Error β) (put : β → α → α) : Field α :=
  { name, store := fun value record => return put (← convert value) record }

/-- A field with a second name. -/
def orAlias (field : Field α) (second : String) : Field α :=
  { field with second := some second }

/-- A field that must be there. -/
def needed (field : Field α) : Field α := { field with required := true }

def isNamed (field : Field α) (key : String) : Bool :=
  field.name = key || field.second = some key

end Field

namespace Record

/-- Stores the entries of a table; names of no field are passed over. -/
def storeEntries (record : Record α) :
    (entries : List (String × Value)) → (seen : List String) → (value : α) →
    Except Error (α × List String)
  | [], seen, value => .ok (value, seen)
  | (key, entry) :: rest, seen, value =>
      match record.fields.find? fun field => field.isNamed key with
      | none => storeEntries record rest seen value
      | some field =>
          if seen.contains field.name then
            .error (.message ("duplicate field " ++ marked field.name))
          else
            match field.store entry value with
            | .ok next => storeEntries record rest (field.name :: seen) next
            | .error error => .error (error.within (prependName key))

/-- The first required field that is not among those seen. -/
def absentField? (record : Record α) (seen : List String) : Option String :=
  (record.fields.find? fun field => field.required && !seen.contains field.name).map Field.name

/-- Stores the elements of an array in the order of the fields. -/
def storeElements (kind : String) :
    (fields : List (Field α)) → (elements : List Value) → (index : Nat) → (value : α) →
    Except Error α
  | [], _, _, value => .ok value
  | field :: fields, [], index, value =>
      if field.required then
        .error (.message ("invalid length " ++ toString index ++ ", expected " ++ kind))
      else storeElements kind fields [] (index + 1) value
  | field :: fields, element :: elements, index, value =>
      match field.store element value with
      | .ok next => storeElements kind fields elements (index + 1) next
      | .error error => .error (error.within (prependIndex index))

/-- The record that a value stands for. -/
def convert (record : Record α) (value : Value) : Except Error α :=
  match value.content with
  | .table entries => do
      let (stored, seen) ← record.storeEntries entries [] record.initial
      match record.absentField? seen with
      | some name => .error (.absent name)
      | none => return stored
  | .array elements =>
      let count := record.fields.length
      let kind := "struct " ++ record.name ++ " with " ++ toString count ++
        (if count = 1 then " element" else " elements")
      storeElements kind record.fields elements 0 record.initial
  | content =>
      .error (.message
        ("invalid type: " ++ content.describe ++ ", expected struct " ++ record.name))

end Record

/-- Converts the values of a table. -/
def convertEntries (convert : Value → Except Error α) :
    List (String × Value) → Except Error (Entries α)
  | [] => .ok []
  | (name, value) :: rest =>
      match convert value with
      | .error error => .error (error.within (prependName name))
      | .ok converted => do
          return Entries.insert name converted (← convertEntries convert rest)

/-- A map from names. -/
def Value.toMap (convert : Value → Except Error α) (value : Value) : Except Error (Entries α) :=
  match value.content with
  | .table entries => convertEntries convert entries
  | content => .error (.message ("invalid type: " ++ content.describe ++ ", expected a map"))

end Backplane.Config
