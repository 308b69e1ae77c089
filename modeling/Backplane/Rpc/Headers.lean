/-
This file defines the headers of calls and replies. A name may have several values, which are
bytes; the first of them counts where one is asked for.
-/

import Backplane.Text.Quoted
import Backplane.Text.Utf8

namespace Backplane.Rpc

abbrev Bytes := List UInt8

/-- Named values in order; names are in lower case. -/
abbrev Headers := List (String × Bytes)

namespace Headers

/-- A name in lower case. -/
def usualName (name : String) : String := String.ofList (name.toList.map Char.toLower)

/-- The first value of a name. -/
def first? (headers : Headers) (name : String) : Option Bytes := headers.lookup name

def has (headers : Headers) (name : String) : Bool := (headers.first? name).isSome

/-- Adds a value behind those that the name has. -/
def append (headers : Headers) (name : String) (value : Bytes) : Headers :=
  headers ++ [(usualName name, value)]

/-- All values of a name. -/
def values (headers : Headers) (name : String) : List Bytes :=
  (headers.filter fun header => header.1 = name).map Prod.snd

/-- Puts a value in the place of all that the name has. -/
def put (headers : Headers) (name : String) (value : Bytes) : Headers :=
  headers.filter (fun header => header.1 ≠ name) ++ [(name, value)]

/-- Tells whether a byte is a visible character, a blank or a tab. -/
def isVisible (byte : UInt8) : Bool := (32 ≤ byte && byte < 127) || byte == 9

/-- The text of a value, if it has nothing but visible characters. -/
def textOf? (value : Bytes) : Option String :=
  if value.all isVisible then some (String.ofList (value.map fun byte => Char.ofNat byte.toNat))
  else none

/-- The first value of a name as a text. -/
def text? (headers : Headers) (name : String) : Option String :=
  (headers.first? name).bind textOf?

/-- Tells whether values of a name are bytes by their kind and never texts. -/
def isBinaryName (name : String) : Bool := name.endsWith "-bin"

/-- The first value of a name as a text; names of bytes have none. -/
def field? (headers : Headers) (name : String) : Option String :=
  if isBinaryName (usualName name) then none else headers.text? (usualName name)

/-- The headers with all values of a name behind the first of them. -/
def grouped (headers : Headers) : Headers :=
  (headers.map Prod.fst).eraseDups.flatMap fun name =>
    headers.filter fun header => header.1 = name

def quotedByte (byte : UInt8) : String :=
  if byte = 34 then "\\\""
  else if isVisible byte then String.singleton (Char.ofNat byte.toNat)
  else "\\x" ++ Text.hexadecimal byte.toNat

/-- A value between double quotes. -/
def quotedValue (value : Bytes) : String :=
  "\"" ++ String.join (value.map quotedByte) ++ "\""

/-- The headers as they stand in log lines. -/
def write (headers : Headers) : String :=
  "\x7b" ++ ", ".intercalate (headers.grouped.map fun header =>
    Text.quoted header.1 ++ ": " ++ quotedValue header.2) ++ "\x7d"

/-- The bytes of a text. -/
def bytes (text : String) : Bytes := text.toUTF8.data.toList

/-- The name of the header with the number of a request. -/
def requestName : String := "request-id"

/-- The number of a request, where there is one. -/
def request (headers : Headers) : String := (headers.field? requestName).getD "unknown"

end Headers

end Backplane.Rpc
