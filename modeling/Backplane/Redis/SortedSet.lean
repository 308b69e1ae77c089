/-
This file defines the sorted sets of a server. Each member has a score, and a set without members
does not exist.
-/

import Backplane.Entries
import Std.Data.TreeMap

namespace Backplane.Redis

/-- The score of each member, and when the set is dropped at the latest. -/
structure SortedSet where
  scores : Entries Int := []
  deadline : Option Int := none
deriving DecidableEq, Repr

namespace SortedSet

def size (set : SortedSet) : Nat := set.scores.length

/-- Gives a member a score; a member that is there gets the new one. -/
def add (member : String) (score : Int) (set : SortedSet) : SortedSet :=
  { set with scores := Entries.insert member score set.scores }

/-- Drops the members whose score is at most the bound. -/
def dropUpTo (bound : Int) (set : SortedSet) : SortedSet :=
  { set with scores := set.scores.filter fun (_, score) => bound < score }

def expireAt (deadline : Int) (set : SortedSet) : SortedSet :=
  { set with deadline := some deadline }

/-- Tells whether the time of a set has passed. -/
def isOver (now : Int) (set : SortedSet) : Bool := set.deadline.any (· < now)

end SortedSet

/-- The sorted sets of a server by key. -/
abbrev Keyspace := Std.TreeMap String SortedSet

namespace Keyspace

/-- The set of a key; an absent one is empty. -/
def set (space : Keyspace) (key : String) : SortedSet := (space[key]?).getD {}

/-- Changes the set of a key; one that becomes empty goes away. -/
def change (space : Keyspace) (key : String) (update : SortedSet → SortedSet) : Keyspace :=
  let updated := update (space.set key)
  if updated.scores.isEmpty then space.erase key else space.insert key updated

/-- Drops the sets whose time has passed. -/
def dropOver (space : Keyspace) (now : Int) : Keyspace :=
  space.filter fun _ set => !set.isOver now

end Keyspace

end Backplane.Redis
