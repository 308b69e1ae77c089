/-
This file collects what secures a connection from the files that settings name.
-/

import Backplane.Fault
import Backplane.Files
import Backplane.Settings.Basic

namespace Backplane.Rpc

/-- A certificate and the key that belongs to it. -/
structure Identity where
  certificate : ByteArray
  key : ByteArray

/-- What secures a connection: who vouches for the other end, who this end is, and the name that
the other end must have. -/
structure Credentials where
  authority : Option ByteArray := none
  identity : Option Identity := none
  serverName : Option String := none

namespace Credentials

/-- Reads a file and names it in the failure. -/
def readFile (files : Files) (kind path : String) : Except Fault ByteArray :=
  match files.read path with
  | .ok bytes => .ok bytes
  | .error error =>
      .error (.tls ("failed to read " ++ kind ++ " file " ++ path ++ ": " ++ error.message))

/-- Reads a file if it is named. -/
def readNamed (files : Files) (kind path : String) : Except Fault (Option ByteArray) := do
  if path.isEmpty then return none
  else return some (← readFile files kind path)

def readIdentity (files : Files) (tls : Settings.Tls) : Except Fault Identity := do
  let certificate ← readFile files "cert" tls.certFile
  let key ← readFile files "key" tls.keyFile
  return { certificate, key }

/-- The failure of settings without a certificate and its key. -/
def noCertificate : Fault := .tls "cert_file and key_file are required for server TLS"

/-- The failure of settings that would trust anyone. -/
def unverified : Fault :=
  .tls "insecure_skip_verify is not supported; server certificates are always verified"

/-- What a server needs. The certificate and the key must be named. -/
def forServer (files : Files) (tls : Settings.Tls) : Except Fault Credentials := do
  if tls.lacksCertificate then throw noCertificate
  let identity ← readIdentity files tls
  let authority ← readNamed files "ca" tls.caFile
  return { authority, identity := some identity }

/-- What a client needs. Servers are always verified. -/
def forClient (files : Files) (tls : Settings.Tls) : Except Fault Credentials := do
  if tls.insecureSkipVerify then throw unverified
  let authority ← readNamed files "ca" tls.caFile
  let identity ←
    if tls.lacksCertificate then pure none
    else
      let identity ← readIdentity files tls
      pure (some identity)
  return { authority, identity, serverName := if tls.serverName.isEmpty then none
    else some tls.serverName }

end Credentials

end Backplane.Rpc
