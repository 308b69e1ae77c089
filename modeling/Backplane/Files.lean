/-
This file defines a tree of files by their paths, for everything that reads files.
-/

import Backplane.Entries
import Backplane.SystemError
import Backplane.Text.Fields
import Backplane.Text.Utf8

namespace Backplane

/-- Files by tidy paths; a directory is a path with files below it. -/
structure Files where
  contents : Entries ByteArray

namespace Files

/-- The names on a path; an empty one stands for the root. Names that stay in place are left
out. -/
def names (path : String) : List String :=
  let fields := (Text.fields '/' path.toList).map String.ofList
  let stays (name : String) : Bool := name.isEmpty || name = "."
  fields.take 1 |>.filter (· ≠ ".") |>.append ((fields.drop 1).filter fun name => !stays name)

def ofNames (names : List String) : String := "/".intercalate names

/-- The path without names that stay in place. -/
def tidy (path : String) : String := ofNames (names path)

/-- Tells whether a path can only be that of a directory. -/
def endsInDirectory (path : String) : Bool := path.endsWith "/" || path.endsWith "/."

/-- Tells whether a path is that of a directory, by its names. -/
def hasDirectory (files : Files) (place : List String) : Bool :=
  place.isEmpty || files.contents.any fun (name, _) => name.startsWith (ofNames place ++ "/")

/-- Follows names below a place; the way leads through directories only. -/
def follow (files : Files) : (place : List String) → List String →
    Except InputError (List String)
  | place, [] => .ok place
  | place, name :: rest =>
      if !files.hasDirectory place then
        .error (if (files.contents.get? (ofNames place)).isSome then .system 20 else .absent)
      else if name = ".." then follow files place.dropLast rest
      else follow files (place ++ [name]) rest

def read (files : Files) (path : String) : Except InputError ByteArray := do
  let place ← files.follow [] (names path)
  match files.contents.get? (ofNames place) with
  | some bytes => if endsInDirectory path then .error (.system 20) else return bytes
  | none => if files.hasDirectory place then .error (.system 21) else .error .absent

def isFile (files : Files) (path : String) : Bool := (files.read path).isOk

/-- Reads a file that must be well-formed text. -/
def readText (files : Files) (path : String) : Except InputError String := do
  match Text.ofUtf8? (← files.read path) with
  | some text => return text
  | none => .error .notUtf8

/-- A name below a directory; a path from the root stands for itself. -/
def join (directory name : String) : String :=
  if name.startsWith "/" || directory.isEmpty then name
  else if directory.endsWith "/" then directory ++ name
  else directory ++ "/" ++ name

/-- The place that a path leads to if every name on it is that of a directory. -/
def straighten (path : String) : String :=
  ofNames ((names path).foldl
    (fun place name => if name = ".." then place.dropLast else place ++ [name]) [])

/-- Files by the paths at which they are written; of two at one place the last counts. -/
def ofList (contents : List (String × ByteArray)) : Files :=
  ⟨Entries.ofList (contents.map fun (path, bytes) => (straighten path, bytes))⟩

end Files

end Backplane
