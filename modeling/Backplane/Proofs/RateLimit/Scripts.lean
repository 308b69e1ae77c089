import Backplane.Proofs.Redis.SortedSet
import Backplane.RateLimit.Shared
import Mathlib.Data.List.Nodup
import Mathlib.Data.List.Range

namespace Backplane.RateLimit.Shared

open Redis

/-- The last separator divides a text in one way only. -/
theorem separator_unique {first second tail rest : List Char} {separator : Char}
    (same : first ++ separator :: tail = second ++ separator :: rest)
    (plainTail : separator ∉ tail) (plainRest : separator ∉ rest) :
    first = second ∧ tail = rest := by
  rcases List.append_eq_append_iff.mp same with ⟨middle, rfl, split⟩ | ⟨middle, rfl, split⟩
  · cases middle with
    | nil => simpa using split
    | cons head middle =>
        obtain ⟨rfl, rfl⟩ := List.cons.inj split
        exact absurd (List.mem_append_right middle List.mem_cons_self) plainTail
  · cases middle with
    | nil => simpa using split.symm
    | cons head middle =>
        obtain ⟨rfl, rfl⟩ := List.cons.inj split
        exact absurd (List.mem_append_right middle List.mem_cons_self) plainRest

/-- A number is written without the separator. -/
theorem separator_not_mem_digits (index : Nat) : ':' ∉ Nat.toDigits 10 index := by
  intro listed
  have digit := Nat.isDigit_of_mem_toDigits (by decide) (by decide) listed
  revert digit
  decide

/-- The name of an event tells its call and its place in the call. -/
theorem member_injective {nonce other : String} {index place : Nat}
    (same : member nonce index = member other place) : nonce = other ∧ index = place := by
  have texts := congrArg String.toList same
  have written (nonce : String) (index : Nat) :
      (member nonce index).toList = nonce.toList ++ ':' :: Nat.toDigits 10 index := by
    simp [member, Nat.toString_eq_repr]
  rw [written, written] at texts
  obtain ⟨nonces, digits⟩ := separator_unique texts (separator_not_mem_digits index)
    (separator_not_mem_digits place)
  refine ⟨String.toList_injective nonces, ?_⟩
  have numbers := congrArg (Nat.ofDigitChars 10 · 0) digits
  simpa using numbers

/-- The members that a call of `count` events adds. -/
def events (nonce : String) (now : Int) (count : Nat) : Entries Int :=
  (List.range count).map fun index => (member nonce (index + 1), now)

@[simp] theorem length_events (nonce : String) (now : Int) (count : Nat) :
    (events nonce now count).length = count := by
  simp [events]

/-- One more event adds the member of its number. -/
theorem events_succ (nonce : String) (now : Int) (count : Nat) :
    events nonce now (count + 1) =
      events nonce now count ++ [(member nonce (count + 1), now)] := by
  simp [events, List.range_succ]

/-- The members of a batch are those of its numbers. -/
theorem mem_events {nonce : String} {now : Int} {count : Nat} {event : String × Int} :
    event ∈ events nonce now count ↔
      ∃ index, index < count ∧ event = (member nonce (index + 1), now) := by
  simp [events, eq_comm]

/-- The members of a batch are distinct. -/
theorem events_names_nodup (nonce : String) (now : Int) (count : Nat) :
    (events nonce now count).names.Nodup := by
  rw [Entries.names, events, List.map_map]
  refine List.Nodup.map ?_ List.nodup_range
  intro first second same
  have := (member_injective same).2
  omega

/-- The members of a set in the window that ends now. -/
def kept (now : Int) (window : Nat) (set : SortedSet) : Entries Int :=
  (set.dropUpTo (now - window)).scores

/-- A set whose members have left the window as far as they are too old. -/
structure Pruned (now : Int) (window : Nat) (before after : SortedSet) : Prop where
  members : after.scores = kept now window before
  deadline : ∀ time, after.deadline = some time → before.deadline = some time

/-- A pruned set with the events of one call. -/
structure Extended (nonce : String) (now : Int) (count window : Nat) (before after : SortedSet) :
    Prop where
  members : after.scores.Perm (events nonce now count ++ kept now window before)
  deadline : ∀ time, after.deadline = some time → time = now + window + grace

variable (nonce : String) (now : Int) (count : Nat)

/-- A call whose names are new overwrites nothing. -/
theorem addEvents_perm (set : SortedSet) (new : ∀ index, member nonce index ∉ set.scores.names) :
    (addEvents nonce now count set).scores.Perm (events nonce now count ++ set.scores) := by
  induction count with
  | zero => exact .refl _
  | succ count ih =>
      have absent : member nonce (count + 1) ∉ (addEvents nonce now count set).scores.names := by
        intro listed
        have listed := (Entries.names_perm ih).subset listed
        rw [Entries.names, List.map_append, List.mem_append] at listed
        rcases listed with early | old
        · obtain ⟨event, mine, same⟩ := List.mem_map.mp early
          obtain ⟨index, below, rfl⟩ := mem_events.mp mine
          have := (member_injective same).2
          omega
        · exact new (count + 1) old
      have added := Entries.insert_perm_of_new now absent
      rw [events_succ, List.append_assoc]
      exact (added.trans (ih.cons _)).trans List.perm_middle.symm

variable (key other : String) (window limit : Nat) (space : Keyspace)

/-- Dropping members up to the start of the window prunes a set. -/
theorem pruned_change :
    Pruned now window (space.set key)
      ((space.change key (.dropUpTo (now - window))).set key) where
  members := space.scores_change_self key _
  deadline := by
    intro time found
    rw [Keyspace.set_change_self] at found
    split at found
    · cases found
    · exact found

/-- The script behind `allow` adds its events if they fit beside the members in the window, and
only prunes if they do not. -/
theorem allowScript_cases (new : ∀ index, member nonce index ∉ (space.set key).scores.names) :
    let outcome := allowScript key now window limit count nonce space
    ((kept now window (space.set key)).length + count ≤ limit ∧ outcome.1 = 1 ∧
        Extended nonce now count window (space.set key) (outcome.2.set key)) ∨
      (limit < (kept now window (space.set key)).length + count ∧ outcome.1 = 0 ∧
        Pruned now window (space.set key) (outcome.2.set key)) := by
  have pruned := pruned_change now key window space
  have size : ((space.change key (.dropUpTo (now - window))).set key).size =
      (kept now window (space.set key)).length := space.size_change_self key _
  simp only [allowScript, size]
  split
  next full => exact .inr ⟨full, rfl, pruned⟩
  next room =>
    refine .inl ⟨by omega, rfl, ?_, ?_⟩
    · rw [Keyspace.scores_change_self, ← pruned.members]
      apply addEvents_perm
      intro index listed
      rw [pruned.members] at listed
      have kept := SortedSet.dropUpTo_sublist (space.set key) (now - window)
      exact new index ((kept.map Prod.fst).subset listed)
    · intro time found
      rw [Keyspace.set_change_self] at found
      split at found
      · cases found
      · exact (Option.some.inj found).symm

/-- The script leaves other keys alone. -/
theorem allowScript_frame (different : key ≠ other) :
    (allowScript key now window limit count nonce space).2[other]? = space[other]? := by
  simp only [allowScript]
  split
  · exact space.getElem?_change_of_ne key other _ different
  · rw [Keyspace.getElem?_change_of_ne _ key other _ different,
      Keyspace.getElem?_change_of_ne _ key other _ different]

/-- The script behind `remaining` counts the members in the window. -/
theorem countScript_answer :
    (countScript key now window space).1 = (kept now window (space.set key)).length :=
  space.size_change_self key _

end Backplane.RateLimit.Shared
