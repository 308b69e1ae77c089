import Backplane.Redis.SortedSet
import Mathlib.Data.List.Basic
import Std.Data.TreeMap.Lemmas

namespace Backplane

namespace Entries

/-- A new name only adds its entry. -/
theorem insert_perm_of_new {α : Type} {name : String} (value : α) {entries : Entries α}
    (new : name ∉ entries.names) :
    (insert name value entries).Perm ((name, value) :: entries) := by
  induction entries with
  | nil => exact .refl _
  | cons entry rest ih =>
      obtain ⟨other, old⟩ := entry
      obtain ⟨different, new⟩ := List.ne_and_not_mem_of_not_mem_cons new
      by_cases before : name < other
      · rw [insert, if_pos before]
      · rw [insert, if_neg before, if_neg different]
        exact ((ih new).cons (other, old)).trans (.swap (name, value) (other, old) rest)

/-- The names of entries in another order are the names in another order. -/
theorem names_perm {α : Type} {first second : Entries α} (same : first.Perm second) :
    first.names.Perm second.names :=
  same.map Prod.fst

end Entries

namespace Redis

namespace SortedSet

variable (set : SortedSet)

/-- Dropping members changes none. -/
theorem dropUpTo_sublist (bound : Int) : (set.dropUpTo bound).scores.Sublist set.scores :=
  List.filter_sublist

/-- The members above the bound are left. -/
theorem size_dropUpTo (bound : Int) :
    (set.dropUpTo bound).size = set.scores.countP fun entry => bound < entry.2 :=
  List.countP_eq_length_filter.symm

end SortedSet

namespace Keyspace

variable (space : Keyspace) (key other : String) (update : SortedSet → SortedSet) (now : Int)

@[simp] theorem set_empty : set ∅ key = {} := by
  simp [set]

/-- Changing a set leaves other keys alone. -/
theorem getElem?_change_of_ne (different : key ≠ other) :
    (space.change key update)[other]? = space[other]? := by
  unfold change
  dsimp only
  split
  · rw [Std.TreeMap.getElem?_erase, if_neg (by simpa using different)]
  · rw [Std.TreeMap.getElem?_insert, if_neg (by simpa using different)]

/-- The changed set is the updated one, or gone if it has no members. -/
theorem set_change_self :
    (space.change key update).set key =
      if (update (space.set key)).scores.isEmpty then {} else update (space.set key) := by
  unfold change
  dsimp only
  split
  · simp [set]
  · simp [set]

/-- A changed set has the members that the change gives it. -/
theorem scores_change_self :
    ((space.change key update).set key).scores = (update (space.set key)).scores := by
  rw [set_change_self]
  split
  next empty => exact (List.isEmpty_iff.mp empty).symm
  next => rfl

theorem size_change_self :
    ((space.change key update).set key).size = (update (space.set key)).size := by
  rw [SortedSet.size, scores_change_self, SortedSet.size]

/-- Erasing a set leaves other keys alone. -/
theorem getElem?_erase_of_ne (different : key ≠ other) :
    (space.erase key)[other]? = space[other]? := by
  rw [Std.TreeMap.getElem?_erase, if_neg (by simpa using different)]

/-- An erased set is empty. -/
theorem set_erase_self : Keyspace.set (space.erase key) key = {} := by
  simp [set]

/-- A set stays as it is until its time has passed. -/
theorem set_dropOver :
    (space.dropOver now).set key = if (space.set key).isOver now then {} else space.set key := by
  rw [set, dropOver, Std.TreeMap.getElem?_filter', set]
  cases found : space[key]? with
  | none => simp [SortedSet.isOver]
  | some held =>
      by_cases passed : held.isOver now = true
      · simp [Option.filter_some, passed]
      · simp [Option.filter_some, passed]

end Keyspace

end Redis

end Backplane
