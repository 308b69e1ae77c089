/-
This file reads filters of log events. A filter is a list of directives such as `target=level`
or `target[span{field}]=level`, and the most specific one that applies to an event decides.
-/

import Backplane.Bits
import Backplane.Decimal.Layout
import Backplane.Decimal.Read
import Backplane.Log.Event
import Backplane.Log.Pattern

namespace Backplane.Log

/-- The least severe level that passes; nothing passes if there is none. -/
abbrev Threshold := Option Level

namespace Threshold

/-- Every threshold, each at the place of its number. -/
def all : List (String × Threshold) :=
  [("off", none), ("error", some .error), ("warn", some .warn), ("info", some .info),
    ("debug", some .debug), ("trace", some .trace)]

def write : Threshold → String
  | none => "off"
  | some .error => "error"
  | some .warn => "warn"
  | some .info => "info"
  | some .debug => "debug"
  | some .trace => "trace"

/-- The threshold of a number or a name. -/
def read? (characters : List Char) : Option Threshold :=
  match Decimal.unsigned? (Bits.most 64) characters with
  | some number => (all[number]?).map Prod.snd
  | none => all.lookup (String.ofList (characters.map Char.toLower))

end Threshold

/-- The value that a field must have; a text is a pattern that it must match. -/
inductive FieldValue
  | boolean (value : Bool)
  | real (value : Float)
  | notNumber
  | unsigned (value : Nat)
  | signed (value : Int)
  | pattern (text : String)
deriving Repr

/-- A field that an event's span must have, with its value if that counts. -/
structure FieldMatch where
  name : String
  value : Option FieldValue
deriving Repr

/-- A rule of a filter. -/
structure Directive where
  target : Option String
  span : Option String
  fields : List FieldMatch
  threshold : Threshold
deriving Repr

/-- Rules, the most specific first; those about spans are kept apart. -/
structure Filter where
  targets : List Directive
  spans : List Directive
deriving Repr

namespace FieldValue

def write : FieldValue → String
  | .boolean value => if value then "true" else "false"
  | .real value => Decimal.plain value
  | .notNumber => "NaN"
  | .unsigned value => toString value
  | .signed value => toString value
  | .pattern text => text

/-- Reads a value; what is no other value must be a pattern. -/
def read? (text : String) : Option FieldValue :=
  if text = "true" then some (.boolean true)
  else if text = "false" then some (.boolean false)
  else
    match Decimal.uint64? text, Decimal.int64? text, Decimal.float? text with
    | some number, _, _ => some (.unsigned number)
    | none, some number, _ => some (.signed number)
    | none, none, some number => some (if number.isNaN then .notNumber else .real number)
    | none, none, none => if Pattern.isPattern text then some (.pattern text) else none

/-- The place of a kind of values among the others. -/
def rank : FieldValue → Nat
  | .boolean _ => 0
  | .real _ => 1
  | .notNumber => 2
  | .unsigned _ => 3
  | .signed _ => 4
  | .pattern _ => 5

def compareReals (left right : Float) : Ordering :=
  if left < right then .lt else if right < left then .gt else .eq

def compare : FieldValue → FieldValue → Ordering
  | .boolean left, .boolean right => Ord.compare left right
  | .real left, .real right => compareReals left right
  | .unsigned left, .unsigned right => Ord.compare left right
  | .signed left, .signed right => Ord.compare left right
  | .pattern left, .pattern right => Ord.compare left right
  | left, right => Ord.compare left.rank right.rank

end FieldValue

namespace FieldMatch

def write (field : FieldMatch) : String :=
  match field.value with
  | some value => field.name ++ "=" ++ value.write
  | none => field.name

/-- Reads a field; a second equals sign ends its value. -/
def read? (characters : List Char) : Option FieldMatch :=
  match Text.fields '=' characters with
  | name :: value :: _ => do
      return ⟨String.ofList name, some (← FieldValue.read? (String.ofList value))⟩
  | _ => some ⟨String.ofList characters, none⟩

def compareValues : Option FieldValue → Option FieldValue → Ordering
  | some left, some right => left.compare right
  | left, right => Ord.compare left.isSome right.isSome

/-- Fields with a value come after those without. -/
def compare (left right : FieldMatch) : Ordering :=
  (Ord.compare left.value.isSome right.value.isSome).then
    ((Ord.compare left.name right.name).then (compareValues left.value right.value))

end FieldMatch

namespace Directive

def write (directive : Directive) : String :=
  let inner := directive.span.getD "" ++
    if directive.fields.isEmpty then ""
    else "\x7b" ++ ",".intercalate (directive.fields.map FieldMatch.write) ++ "\x7d"
  let scope :=
    if directive.span.isSome || !directive.fields.isEmpty then "[" ++ inner ++ "]" else ""
  let mark := if directive.target.isSome || !scope.isEmpty then "=" else ""
  directive.target.getD "" ++ scope ++ mark ++ directive.threshold.write

/-- Compares how specific two rules are. -/
def compare (left right : Directive) : Ordering :=
  (Ord.compare (left.target.map String.utf8ByteSize) (right.target.map String.utf8ByteSize)).then
    ((Ord.compare left.span.isSome right.span.isSome).then
      ((Ord.compare left.fields.length right.fields.length).then
        ((Ord.compare left.target right.target).then
          ((Ord.compare left.span right.span).then
            (List.compareLex FieldMatch.compare left.fields right.fields)))))

/-- Puts a rule in its place, the most specific first; an equally specific one gives way. -/
def place (directive : Directive) : List Directive → List Directive
  | [] => [directive]
  | other :: rest =>
      match compare directive other with
      | .gt => directive :: other :: rest
      | .eq => directive :: rest
      | .lt => other :: place directive rest

/-- Tells whether a rule depends on the spans around an event. -/
def isAboutSpans (directive : Directive) : Bool :=
  directive.span.isSome || !directive.fields.isEmpty

/-- The part of a rule that can be decided without the spans around an event. -/
def aboutTarget? (directive : Directive) : Option Directive :=
  if directive.span.isSome || directive.fields.any fun field => field.value.isSome then none
  else some directive

/-- The characters that start in the bytes from `start` up to `stop`. -/
def slice (start : Nat) (stop : Option Nat) : (position : Nat) → List Char → List Char
  | _, [] => []
  | position, character :: rest =>
      let others := slice start stop (position + character.utf8Size) rest
      if start ≤ position && stop.all (position < ·) then character :: others else others

/-- The first character of some kind, the number of bytes before it and what follows it. -/
def find? (wanted : Char → Bool) : (position : Nat) → List Char → Option (Nat × Char × List Char)
  | _, [] => none
  | position, character :: rest =>
      if wanted character then some (position, character, rest)
      else find? wanted (position + character.utf8Size) rest

def startsTarget (character : Char) : Bool :=
  character = '-' || character = ':' || character = '_' || Text.isAlphanumeric character

/-- The threshold in the part of a rule; an empty part lets everything pass. -/
def thresholdPart? (part : List Char) : Option Threshold :=
  if part.isEmpty then some (some .trace) else Threshold.read? part

/-- The part of a text between two places, counted in bytes; the places are those of the text
without the blanks around it, but the text is the whole. -/
def part (whole : List Char) (start : Nat) (stop : Option Nat) : List Char :=
  slice start stop 0 whole

/-- Reads what follows the closing bracket at a place. -/
def afterScope? (whole : List Char) (directive : Directive) (position : Nat) :
    List Char → Option Directive
  | [] => some directive
  | '=' :: _ => do
      return { directive with threshold := ← thresholdPart? (part whole (position + 1) none) }
  | _ => none

/-- Reads a span and fields behind the opening bracket before a place. -/
def scope? (whole : List Char) (target : Option String) (start : Nat) (rest : List Char) :
    Option Directive := do
  let (stop, mark, after) ←
    find? (fun character => character = ']' || character = '\x7b') start rest
  let name := String.ofList (part whole start (some stop))
  if mark = ']' then
    afterScope? whole ⟨target, some name, [], some .trace⟩ (stop + 1) after
  else
    let (fieldStop, _, afterField) ← find? (· = '\x7d') (stop + 1) after
    let field := part whole (stop + 1) (some fieldStop)
    let span := if name.isEmpty then none else some name
    match field, afterField with
    | _ :: _, ']' :: remaining =>
        let read ← FieldMatch.read? field
        afterScope? whole ⟨target, span, [read], some .trace⟩ (fieldStop + 2) remaining
    | _, _ => none

/-- Reads one rule. -/
def read? (whole : List Char) : Option Directive := do
  let trimmed := Text.trimBlank whole
  match trimmed with
  | [] => none
  | '[' :: rest => scope? whole none 1 rest
  | first :: _ =>
      if !startsTarget first then none
      else
        match find? (fun character => character = '=' || character = '[') 0 trimmed with
        | none =>
            match Threshold.read? whole with
            | some threshold => some ⟨none, none, [], threshold⟩
            | none => some ⟨some (String.ofList whole), none, [], some .trace⟩
        | some (stop, mark, rest) =>
            let target := String.ofList (part whole 0 (some stop))
            if mark = '[' then scope? whole (some target) (stop + 1) rest
            else
              return ⟨some target, none, [], ← thresholdPart? (part whole (stop + 1) none)⟩

end Directive

namespace Filter

def ofDirectives (directives : List Directive) : Filter :=
  let spans := directives.filter Directive.isAboutSpans
  let plain := directives.filter fun directive => !directive.isAboutSpans
  { targets :=
      (plain ++ spans.filterMap Directive.aboutTarget?).foldl (fun all next => next.place all) []
    spans := spans.foldl (fun all next => next.place all) [] }

/-- Reads rules between commas; empty ones are passed over. -/
def read? (text : String) : Option Filter := do
  let parts := (Text.fields ',' text.toList).filter fun part => !part.isEmpty
  return ofDirectives (← parts.mapM Directive.read?)

/-- Lets events pass from the usual level on. -/
def usual : Filter := ⟨[⟨none, none, [], some .info⟩], []⟩

/-- The filter that a text describes; the usual one if it describes none. -/
def ofText (text : String) : Filter := (read? text).getD usual

def write (filter : Filter) : String :=
  ",".intercalate ((filter.targets ++ filter.spans).map Directive.write)

end Filter

end Backplane.Log
