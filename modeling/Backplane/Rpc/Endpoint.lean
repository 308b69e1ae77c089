/-
This file builds the endpoints that clients connect to.
-/

import Backplane.Rpc.Credentials
import Backplane.Rpc.Uri
import Backplane.Text.Fields

namespace Backplane.Rpc

/-- A target with a scheme; one that has a scheme keeps it. -/
def completeTarget (target : String) (secure : Bool) : String :=
  if (Text.cutFirst? "://".toList target.toList).isSome then target
  else (if secure then "https://" else "http://") ++ target

/-- Where a client connects, and what secures the connection. -/
structure Endpoint where
  uri : Uri
  credentials : Option Credentials := none

namespace Endpoint

/-- A connection is encrypted if and only if the scheme asks for it. -/
def isEncrypted (endpoint : Endpoint) : Bool := endpoint.uri.scheme = some "https"

/-- Which credentials are sound for which address. -/
abbrev Soundness := Credentials → Uri → Bool

/-- The settings of a client's security, where it is enabled. -/
def security? (settings : Settings.Client) : Option Settings.Tls :=
  settings.tls.filter Settings.Tls.enabled

/-- Builds the endpoint of a client. A target that has a scheme keeps it. -/
def build (files : Files) (sound : Soundness) (settings : Settings.Client) :
    Except Fault Endpoint := do
  let security := security? settings
  match Uri.parse? (completeTarget settings.target security.isSome) with
  | none => throw (.transport "invalid URI")
  | some uri =>
      match security with
      | none => return { uri }
      | some tls =>
          let credentials ← Credentials.forClient files tls
          if sound credentials uri then return { uri, credentials := some credentials }
          else throw (.transport "transport error")

end Endpoint

end Backplane.Rpc
