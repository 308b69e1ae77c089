/-
This file gives the commands that a shared limiter sends. A script is called by its digest, and a
server that does not know it gets its text and the call again.
-/

import Backplane.RateLimit.Shared

namespace Backplane.RateLimit

/-- The scripts of a limiter. -/
inductive Script
  | allow
  | count

/-- How a server meets the call of a script. -/
inductive Reception
  | known
  /-- It takes the text of a script that it does not know. -/
  | learned
  | refused

/-- The texts of the scripts and their digests. -/
structure Scripts where
  text : Script → String
  digest : Script → String

/-- The commands that call a script on one key. -/
def Scripts.call (scripts : Scripts) (script : Script) (reception : Reception) (key : String)
    (arguments : List String) : List (List String) :=
  let evaluate := "EVALSHA" :: scripts.digest script :: "1" :: key :: arguments
  let load := ["SCRIPT", "LOAD", scripts.text script]
  match reception with
  | .known => [evaluate]
  | .learned => [evaluate, load, evaluate]
  | .refused => [evaluate, load]

namespace Shared

variable (limiter : Shared) (scripts : Scripts)

/-- The commands of one call. -/
def commands (reception : Reception) : Request → List (List String)
  | .allow key count now nonce =>
      scripts.call .allow reception (limiter.place key)
        [toString now, toString limiter.window, toString limiter.limit, toString count, nonce]
  | .remaining key now =>
      scripts.call .count reception (limiter.place key) [toString now, toString limiter.window]
  | .reset key => [["DEL", limiter.place key]]

/-- The commands of a run of calls, each with how the server meets it. -/
def sent (requests : List (Reception × Request)) : List (List String) :=
  requests.flatMap fun (reception, request) => limiter.commands scripts reception request

end Shared

end Backplane.RateLimit
