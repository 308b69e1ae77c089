/-
This file opens connections to cache servers. A server that does not answer in time is given up.
-/

import Backplane.Fault
import Backplane.Redis.Address

namespace Backplane.Redis

/-- What comes of the first contact with a server. -/
inductive Contact
  | established
  | refused (error : Error)
  | silent (stage : String)

/-- The failure of an address that no client can be made for. -/
def invalidAddress : Error := ⟨.invalidAddress, none, "Redis URL did not parse"⟩

/-- The failure of a stage that took longer than allowed. -/
def timedOut (stage : String) (allowed : Span) : Fault :=
  .input (.other ("redis " ++ stage ++ " timed out after " ++ allowed.write))

/-- Opens a connection to an address, given what comes of the first contact. -/
def connect (address : String) (allowed : Span) (contact : Contact) : Except Fault Unit :=
  if !isAddress address then .error (.redis invalidAddress)
  else
    match contact with
    | .established => .ok ()
    | .refused error => .error (.redis error)
    | .silent stage => .error (timedOut stage allowed)

end Backplane.Redis
