/-
This file reads the addresses of cache servers and hides the secrets in them.
-/

import Backplane.Redis.Url

namespace Backplane.Redis

/-- What stands in front of a host. -/
def schemeMark : List Char := "://".toList

/-- The address without the user and the password. -/
def redact (address : String) : String :=
  match Text.cutFirst? schemeMark address.toList with
  | none => address
  | some (scheme, rest) =>
      match Text.afterLast? '@' rest with
      | none => address
      | some host => String.ofList (scheme ++ schemeMark) ++ "***@" ++ String.ofList host

/-- The schemes of servers that are reached over a network. -/
def networkSchemes : List String := ["redis", "valkey"]

/-- The schemes of servers that are reached through a file. -/
def fileSchemes : List String := ["redis+unix", "valkey+unix", "unix"]

/-- The versions of the protocol by their names. -/
def protocols : List String := ["2", "resp2", "3", "resp3"]

/-- Tells whether the protocol that a query asks for is known. -/
def hasProtocol (url : Url) : Bool := (url.field? "protocol").all protocols.contains

/-- Tells whether an escaped text is well formed. -/
def isText (escaped : String) : Bool := (Text.ofUtf8? (Url.unescape escaped)).isSome

def trimStrokes (characters : List Char) : List Char :=
  ((characters.dropWhile (· = '/')).reverse.dropWhile (· = '/')).reverse

/-- Tells whether a path is the number of a database; without a number it is the first. -/
def isDatabase (path : String) : Bool :=
  let number := trimStrokes path.toList
  number.isEmpty || (Decimal.int64? (String.ofList number)).isSome

/-- Tells whether an address is that of a server on a network. -/
def isNetworkPlace (url : Url) : Bool :=
  url.host.isSome && isDatabase url.path && isText url.user && isText url.password

/-- Tells whether an address is that of a file on this machine. -/
def isFilePlace (url : Url) : Bool :=
  (url.host.isNone || url.host = some (.name "localhost")) && url.path.startsWith "/" &&
    (url.field? "db").all fun number => (Decimal.int64? number).isSome

/-- Tells whether a client can be made for an address. -/
def isAddress (address : String) : Bool :=
  match Url.read? address with
  | none => false
  | some url =>
      hasProtocol url &&
        if fileSchemes.contains url.scheme then isFilePlace url
        else networkSchemes.contains url.scheme && isNetworkPlace url

end Backplane.Redis
