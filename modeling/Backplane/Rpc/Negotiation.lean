/-
This file finds the language that a caller asks for, and asks for one on outgoing calls.
-/

import Backplane.Rpc.Call
import Backplane.Text.Quoted

namespace Backplane.Rpc

/-- The header that names a caller's language, and the language where none is named. -/
structure Negotiation where
  header : String
  usual : Language
deriving DecidableEq, Repr

namespace Negotiation

def new (header : String) (usual : Language) : Negotiation :=
  { header := Headers.usualName header, usual }

/-- The headers that are asked in turn. -/
def names (negotiation : Negotiation) : List String := [negotiation.header, "language", "lang"]

/-- The language of the first header that is a text; without one, or if it names no supported
language, the usual one. -/
def resolve (negotiation : Negotiation) (headers : Headers) : Language :=
  ((negotiation.names.findSome? headers.field?).bind Language.preferred?).getD negotiation.usual

/-- Notes the language of a call. -/
def apply (negotiation : Negotiation) (metadata : Metadata) : Metadata :=
  { metadata with language := some (negotiation.resolve metadata.headers) }

/-- How a negotiation is shown. -/
def describe (negotiation : Negotiation) : String :=
  "LanguageInterceptor \x7b header: " ++ Text.quoted negotiation.header ++
    ", default_language: " ++ negotiation.usual.code.capitalize ++ " \x7d"

/-- The header with the languages that a caller prefers. -/
def preferenceName : String := "accept-language"

/-- Asks for a language unless the call asks for one already. -/
def advertise (language : Language) (metadata : Metadata) : Metadata :=
  if metadata.headers.has preferenceName then metadata
  else
    { metadata with
      headers := metadata.headers.append preferenceName (Headers.bytes language.code) }

end Negotiation

end Backplane.Rpc
