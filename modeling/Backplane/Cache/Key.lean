/-
This file builds the keys of cache entries and the times that they live.
-/

import Backplane.Bits
import Backplane.Span

namespace Backplane.Cache

/-- Joins the segments of a key. -/
def joinKey (segments : List String) : String := ":".intercalate segments

/-- The key of one thing of a kind. -/
def entityKey (kind identifier : String) : String := kind ++ ":" ++ identifier

/-- The key of a lock. -/
def lockKey (resource : String) : String := "lock:" ++ resource

/-- The key as the server gets it. -/
def placeKey (space : Option String) (key : String) : String := space.getD "" ++ key

/-- The largest count of milliseconds that is asked for. -/
def longestLife : Nat := Bits.most 64

/-- The milliseconds that an entry lives; it lives at least one. -/
def lifetime (span : Span) : Nat := max 1 (min span.milliseconds longestLife)

end Backplane.Cache
