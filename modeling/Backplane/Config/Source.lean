/-
This file gathers a configuration from a file and from environment variables. A variable wins
over the file, and both win over what is set from the start.
-/

import Backplane.Config.Path
import Backplane.Config.Scalar
import Backplane.Files
import Backplane.Ini
import Backplane.Json.Read
import Backplane.Json5
import Backplane.Ron
import Backplane.Toml.Read
import Backplane.Yaml.Grammar

namespace Backplane.Config

/-- The formats of configuration files. -/
inductive Format
  | json
  | toml
  | yaml
  | ini
  | ron
  | json5
deriving DecidableEq, Repr

namespace Format

/-- The endings of file names, in the order in which they are tried. -/
def extensions : List (String × Format) :=
  [("toml", .toml), ("json", .json), ("yaml", .yaml), ("yml", .yaml), ("ini", .ini),
    ("ron", .ron), ("json5", .json5)]

def ofExtension? (extension : String) : Option Format := extensions.lookup extension

/-- The document that a text stands for. -/
def read? : Format → String → Option Json
  | .json, text => (Json.read text).toOption
  | .toml, text => Toml.read? text
  | .yaml, text => Yaml.read? text
  | .ini, text => Ini.read? text
  | .ron, text => Ron.read? text
  | .json5, text => Json5.read? text

end Format

/-- Reads the entries at the top of a text that comes from a source. -/
def readEntries (format : Format) (origin : Option String) (text : String) :
    Except Error (List (String × Value)) :=
  match format.read? text with
  | some (.object members) => .ok (Value.ofJson origin (.object members)).entries
  | _ => .error .fileContents

/-- Lays entries over a configuration; their names are paths. -/
def layEntries (entries : List (String × Value)) (root : Value) : Value :=
  entries.foldl (fun laid (key, value) => Value.setKey key value laid) root

/-- The configuration of one text. -/
def ofText (format : Format) (text : String) : Except Error Value := do
  return layEntries (← readEntries format none text) .emptyTable

/-! ### Files -/

/-- The ending of the last name in a path; a point at its start begins no ending. -/
def extension? (path : String) : Option String := do
  let name := (← (Files.names path).getLast?).toList
  let ending ← Text.afterLast? '.' name
  if name = "..".toList || ending.length + 1 = name.length then none
  else return String.ofList ending

/-- The paths with the known endings added, in order; only a name can have one. -/
def candidates (path : String) : List (String × Format) :=
  if (Files.names path).getLast?.all fun name => name = ".." || name.isEmpty then []
  else Format.extensions.map fun (ending, format) => (Files.tidy path ++ "." ++ ending, format)

/-- The file that a path stands for: itself, or the first with a known ending added. -/
def locate (files : Files) (path : String) : Except Error (String × Format) :=
  if files.isFile path then
    match (extension? path).bind Format.ofExtension? with
    | some format => .ok (Files.tidy path, format)
    | none => .error .fileAbsent
  else
    match (candidates path).find? fun (candidate, _) => files.isFile candidate with
    | some found => .ok found
    | none => .error .fileAbsent

/-- The bytes without the mark of their encoding in front. -/
def dropMark (bytes : ByteArray) : ByteArray :=
  if bytes.toList.take 3 = [0xEF, 0xBB, 0xBF] then bytes.extract 3 bytes.size else bytes

/-- Reads the entries of the file that a path stands for. -/
def readFile (files : Files) (path : String) : Except Error (List (String × Value)) := do
  let (found, format) ← locate files path
  match files.read found with
  | .ok bytes => readEntries format (some found) (Text.ofUtf8Lossy (dropMark bytes))
  | .error _ => .error .fileAbsent

/-! ### Variables -/

/-- What the names of variables for the configuration start with. -/
def variableMark : String := "vgo__"

/-- The source of what variables set. -/
def variableOrigin : String := "the environment"

/-- Writes points for pairs of underscores. -/
def pointed : List Char → List Char
  | '_' :: '_' :: rest => '.' :: pointed rest
  | character :: rest => character :: pointed rest
  | [] => []

/-- The key that a variable sets. -/
def variableKey? (name : String) : Option String :=
  (variableMark.toList.isPrefixOf? (Text.lower name).toList).map fun rest =>
    String.ofList (pointed rest)

/-- A variable holds a truth value, an integer, a number or else a text. -/
def variableContent (text : String) : Content :=
  let word := Text.lower text
  if word = "true" then .boolean true
  else if word = "false" then .boolean false
  else
    match Decimal.int64? text, Decimal.float? text with
    | some number, _ => .integer number
    | none, some number => .float number
    | none, none => .string text

/-- The entries that variables set; of two for one key the last counts. -/
def readVariables (environment : List (String × String)) : List (String × Value) :=
  Entries.ofList (environment.filterMap fun (name, text) =>
    (variableKey? name).map fun key =>
      (key, Value.mk (some variableOrigin) (variableContent text)))

/-! ### The whole -/

/-- What is set from the start. -/
def initial : Value :=
  Value.setKey "environment" (.mk none (.string "development")) .emptyTable

/-- The configuration of a file and of variables. -/
def load (files : Files) (path : String) (environment : List (String × String)) :
    Except Error Value := do
  let entries ← readFile files path
  return layEntries (readVariables environment) (layEntries entries initial)

/-- The path of the configuration file, given the variable that names it. -/
def filePath (named : Option String) : String := named.getD "config/config"

/-- The text at a key. -/
def getText (root : Value) (key : String) : Except Error String :=
  match Path.read? key with
  | none => .error .path
  | some path =>
      match path.get? root with
      | none => .error (.absent key)
      | some value => value.toText.mapError (Error.about key)

end Backplane.Config
