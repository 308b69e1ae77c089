/-
This file reads the addresses of remote calls: a scheme, an authority, a path and a query. A
fragment is dropped.
-/

import Backplane.Text.Fields

namespace Backplane.Rpc

/-- An address. One without a scheme is an authority alone or a path alone. -/
structure Uri where
  scheme : Option String := none
  authority : String := ""
  path : String := ""
  query : Option String := none
deriving DecidableEq, Repr

namespace Uri

/-- The most bytes of an address. -/
def longest : Nat := 65534

/-- The most characters of a scheme. -/
def longestScheme : Nat := 64

/-- Tells whether a character may stand in the name of a scheme. -/
def isSchemeCharacter (character : Char) : Bool :=
  character.isAlphanum || ['+', '-', '.', '~'].contains character

/-- Tells whether a character may stand in an authority as itself. -/
def isPlain (character : Char) : Bool :=
  character.isAlphanum || "!$&'()*+,-.;=_~".toList.contains character

/-- Tells whether a character ends an authority. -/
def endsAuthority (character : Char) : Bool := ['/', '?', '#'].contains character

/-- Tells whether a character may stand in a path. -/
def isPathCharacter (character : Char) : Bool :=
  33 ≤ character.toNat && !(['#', '<', '>', '?', '\x60'].contains character)

/-- Tells whether a character may stand in a query. -/
def isQueryCharacter (character : Char) : Bool :=
  33 ≤ character.toNat && !(['"', '#', '<', '>'].contains character)

/-- The scheme in front of a text and what follows it; the usual two are in lower case. -/
def splitScheme? (text : List Char) : Option (Option String × List Char) :=
  let usual (scheme : String) : Bool :=
    (text.take (scheme.length + 3)).map Char.toLower = scheme.toList ++ "://".toList
  if usual "http" then some (some "http", text.drop 7)
  else if usual "https" then some (some "https", text.drop 8)
  else
    let name := text.takeWhile isSchemeCharacter
    let rest := text.drop name.length
    if 3 < text.length && "://".toList.isPrefixOf rest then
      if longestScheme < name.length then none
      else some (some (String.ofList name), rest.drop 3)
    else some (none, text)

/-- What has been seen of an authority since its last `@`. -/
structure Seen where
  colons : Nat := 0
  opened : Bool := false
  closed : Bool := false
  percent : Bool := false

/-- The most colons that may follow each other's parts. -/
def mostColons : Nat := 8

def Seen.next? (seen : Seen) (character : Char) : Option Seen :=
  match character with
  | ':' => if mostColons ≤ seen.colons then none else some { seen with colons := seen.colons + 1 }
  | '[' => if seen.percent || seen.opened then none else some { seen with opened := true }
  | ']' =>
      if !seen.opened || seen.closed then none
      else some { seen with closed := true, colons := 0, percent := false }
  | '@' => some { seen with colons := 0, percent := false }
  | '%' => some { seen with percent := true }
  | _ => if isPlain character then some seen else none

/-- Tells whether a text is an authority; it may be empty. -/
def isAuthority (text : List Char) : Bool :=
  match text.foldlM Seen.next? {} with
  | none => false
  | some seen =>
      seen.opened == seen.closed && seen.colons ≤ 1 && text.getLast? != some '@' && !seen.percent

/-- The path and the query of a text. -/
def splitPath? (text : List Char) : Option (String × Option String) :=
  let whole := text.takeWhile (· ≠ '#')
  let path := whole.takeWhile (· ≠ '?')
  let query := (whole.drop path.length).drop 1
  if !path.all isPathCharacter || !query.all isQueryCharacter then none
  else
    some (String.ofList path,
      if path.length < whole.length then some (String.ofList query) else none)

/-- Reads an address. -/
def parse? (text : String) : Option Uri :=
  if longest < text.utf8ByteSize then none
  else
    match text.toList with
    | [] => none
    | ['*'] => some { path := "*" }
    | '/' :: rest =>
        (splitPath? ('/' :: rest)).map fun (path, query) => { path, query }
    | characters => do
        let (scheme, rest) ← splitScheme? characters
        let authority := rest.takeWhile fun character => !endsAuthority character
        let after := rest.drop authority.length
        if !isAuthority authority then none
        else
          match scheme with
          | none =>
              if after.isEmpty then some { authority := String.ofList authority } else none
          | some scheme =>
              if authority.isEmpty then none
              else do
                let (path, query) ← splitPath? after
                return { scheme := some scheme, authority := String.ofList authority, path, query }

/-- Writes an address; one with a scheme has a path. -/
def write (uri : Uri) : String :=
  (match uri.scheme with
    | some scheme => scheme ++ "://"
    | none => "") ++
    uri.authority ++
    (if uri.path.isEmpty && uri.scheme.isSome then "/" else uri.path) ++
    (match uri.query with
      | some query => "?" ++ query
      | none => "")

end Uri

end Backplane.Rpc
