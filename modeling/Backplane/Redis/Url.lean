/-
This file reads the addresses of servers: a scheme, a user and a host, a path and a query. A
fragment is dropped.
-/

import Backplane.Text.Fields
import Backplane.Text.Hexadecimal
import Backplane.Text.Percent
import Backplane.Text.Utf8

namespace Backplane.Redis

/-- A name of a server, or a number in brackets. -/
inductive Host
  | name (text : String)
  | number (text : String)
deriving DecidableEq, Repr

/-- The parts of an address; they are still escaped. -/
structure Url where
  scheme : String
  user : String := ""
  password : String := ""
  host : Option Host := none
  path : String := ""
  query : String := ""
deriving DecidableEq, Repr

namespace Url

/-- Characters around an address that do not count. -/
def isMargin (character : Char) : Bool := character.toNat ≤ 32

/-- Characters within an address that do not count. -/
def isIgnored (character : Char) : Bool := ['\t', '\n', '\r'].contains character

/-- The characters of an address that count. -/
def essential (text : String) : List Char :=
  let start := text.toList.dropWhile isMargin
  (start.reverse.dropWhile isMargin).reverse.filter fun character => !isIgnored character

/-- Splits off a scheme, which is written small, and its colon. -/
def scheme? (characters : List Char) : Option (String × List Char) :=
  let name := characters.takeWhile fun character =>
    character.isAlphanum || ['+', '-', '.'].contains character
  match characters.drop name.length with
  | ':' :: rest =>
      if name.head?.any Char.isAlpha then some (String.ofList (name.map Char.toLower), rest)
      else none
  | _ => none

/-! ### Hosts -/

/-- Tells whether a number of at most 255 is written without needless zeros. -/
def isOctet (digits : List Char) : Bool :=
  (Decimal.natural? digits).any (· < 256) && (digits.head? ≠ some '0' || digits.length = 1)

/-- Tells whether a text is four octets between points. -/
def isDotted (characters : List Char) : Bool :=
  let octets := Text.fields '.' characters
  octets.length = 4 && octets.all isOctet

/-- Tells whether groups of digits fill an address of eight groups, `count` of which precede
them. An empty group stands for any number of them, but only once. -/
def isGroups : (fuel count : Nat) → (shortened : Bool) → List Char → Bool
  | _, count, shortened, [] => shortened || count = 8
  | 0, _, _, _ :: _ => false
  | fuel + 1, count, shortened, ':' :: rest =>
      count < 8 && !shortened && isGroups fuel (count + 1) true rest
  | fuel + 1, count, shortened, characters =>
      let group := (characters.take 4).takeWhile (Text.isDigitIn 16)
      if count = 8 || group.isEmpty then false
      else
        match characters.drop group.length with
        | [] => shortened || count = 7
        | [':'] => false
        | ':' :: rest => isGroups fuel (count + 1) shortened rest
        | '.' :: _ =>
            count ≤ 6 && isDotted characters && (shortened || count = 6)
        | _ => false

/-- Tells whether a text is an address of eight groups. -/
def isNumber (characters : List Char) : Bool :=
  match characters with
  | ':' :: ':' :: rest => isGroups rest.length 1 true rest
  | ':' :: _ => false
  | _ => 2 ≤ characters.length && isGroups characters.length 0 false characters

/-- Characters that no name of a server has. -/
def isForbidden (character : Char) : Bool :=
  character.toNat = 0 || " #/:<>?@[\\]^|".toList.contains character

/-- The host that a text names; an empty text names none. -/
def host? (characters : List Char) : Option (Option Host) :=
  match characters with
  | [] => some none
  | '[' :: rest =>
      if rest.getLast? = some ']' && isNumber rest.dropLast then
        some (some (.number (String.ofList rest.dropLast)))
      else none
  | _ =>
      if characters.any isForbidden then none
      else some (some (.name (String.ofList characters)))

/-- The characters of a host up to its port; a colon in brackets belongs to it. -/
def hostPart : (inside : Bool) → List Char → List Char
  | _, [] => []
  | inside, character :: rest =>
      if character = ':' && !inside then []
      else
        let within := if character = '[' then true else if character = ']' then false else inside
        character :: hostPart within rest

/-- Tells whether a text is a port, which may be left out. -/
def isPort (digits : List Char) : Bool :=
  digits.isEmpty || (Decimal.natural? digits).any (· < 65536)

/-- Reads a host and a port. -/
def hostAndPort? (characters : List Char) : Option (Option Host) := do
  let part := hostPart false characters
  let host ← host? part
  match characters.drop part.length with
  | _ :: port => if host.isSome && isPort port then return host else none
  | [] => return host

/-- Reads a user with a password, a host and a port; only a host may have a user. -/
def authority? (url : Url) (characters : List Char) : Option Url :=
  match Text.afterLast? '@' characters with
  | none => do return { url with host := ← hostAndPort? characters }
  | some place => do
      let host ← hostAndPort? place
      let login := characters.take (characters.length - place.length - 1)
      let user := Text.beforeFirst ':' login
      let password := login.drop (user.length + 1)
      if host.isNone && (place.isEmpty || !user.isEmpty || !password.isEmpty) then none
      return { url with
        user := String.ofList user, password := String.ofList password, host }

/-! ### Paths and queries -/

/-- Tells whether a name stays in place, its points escaped or not. -/
def stays (name : List Char) : Bool :=
  [".", "%2e"].contains (String.ofList (name.map Char.toLower))

/-- Tells whether a name leads back, its points escaped or not. -/
def leadsBack (name : List Char) : Bool :=
  ["..", ".%2e", "%2e.", "%2e%2e"].contains (String.ofList (name.map Char.toLower))

/-- The path without names that stay in place or lead back. -/
def straighten (names : List (List Char)) : List (List Char) :=
  let last := names.getLast?.any fun name => stays name || leadsBack name
  let placed := names.foldl
    (fun placed name =>
      if leadsBack name then placed.dropLast
      else if stays name then placed
      else placed ++ [name]) []
  if last then placed ++ [[]] else placed

/-- Writes a path behind a host; one that is there starts with a stroke. -/
def pathOf (characters : List Char) : String :=
  match characters with
  | [] => ""
  | '/' :: rest =>
      String.ofList ((straighten (Text.fields '/' rest)).flatMap fun name => '/' :: name)
  | _ => String.ofList ('/' :: characters)

/-- Tells whether a character ends a path. -/
def endsPath (character : Char) : Bool := character = '?' || character = '#'

/-- Reads what follows a scheme. -/
def behindScheme? (scheme : String) (characters : List Char) : Option Url := do
  let front := characters.takeWhile fun character => !endsPath character
  let query := match characters.drop front.length with
    | '?' :: rest => String.ofList (Text.beforeFirst '#' rest)
    | _ => ""
  match front with
  | '/' :: '/' :: rest =>
      let authority := rest.takeWhile (· ≠ '/')
      let path := pathOf (rest.drop authority.length)
      authority? { scheme, path, query } authority
  | '/' :: _ => return { scheme, path := pathOf front, query }
  | _ => return { scheme, path := String.ofList front, query }

/-- The address that a text spells. -/
def read? (text : String) : Option Url := do
  let (scheme, rest) ← scheme? (essential text)
  behindScheme? scheme rest

/-- The bytes of an escaped text. -/
def unescape (text : String) : ByteArray := ⟨(Text.percentDecode text.toUTF8.data.toList).toArray⟩

/-- A name or a value in a query; a plus sign is a blank there. -/
def fieldText (characters : List Char) : String :=
  let blanks := characters.map fun character => if character = '+' then ' ' else character
  Text.ofUtf8Lossy (unescape (String.ofList blanks))

/-- The names and values in the query. -/
def fields (url : Url) : List (String × String) :=
  let parts := (Text.fields '&' url.query.toList).filter fun part => !part.isEmpty
  parts.map fun part =>
    let name := Text.beforeFirst '=' part
    (fieldText name, fieldText (part.drop (name.length + 1)))

/-- The value of a name in the query; the last one counts. -/
def field? (url : Url) (name : String) : Option String := url.fields.reverse.lookup name

end Url

end Backplane.Redis
