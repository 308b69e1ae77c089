import Backplane.Entries
import Mathlib.Data.String.Basic

namespace Backplane.Entries

variable {α : Type} {name other : String} {value : α} {entries : Entries α}

/-- A name is among the names if it has a value. -/
theorem mem_names_iff : name ∈ entries.names ↔ (entries.get? name).isSome = true := by
  induction entries with
  | nil => simp [names, get?]
  | cons entry rest ih =>
      obtain ⟨first, old⟩ := entry
      simp only [names, get?] at ih ⊢
      by_cases same : name = first
      · simp [same]
      · have apart : (name == first) = false := by simpa using same
        simp [List.lookup_cons, same, apart, ih]

/-- Inserting adds one name. -/
theorem mem_names_insert :
    other ∈ (insert name value entries).names ↔ name = other ∨ other ∈ entries.names := by
  rw [mem_names_iff, mem_names_iff, get?_insert]
  by_cases same : name = other <;> simp [same]

/-- An entry is put in its place. -/
theorem insert_ordered (ordered : entries.names.Pairwise (· < ·)) :
    (insert name value entries).names.Pairwise (· < ·) := by
  -- The entry comes in front of the first name, in its place, or somewhere behind it.
  induction entries with
  | nil => exact List.pairwise_singleton _ _
  | cons entry rest ih =>
      obtain ⟨first, old⟩ := entry
      obtain ⟨least, tail⟩ := List.pairwise_cons.mp ordered
      by_cases before : name < first
      · rw [insert, if_pos before]
        refine List.pairwise_cons.mpr ⟨?_, ordered⟩
        intro other listed
        rcases List.mem_cons.mp listed with rfl | later
        · exact before
        · exact before.trans (least other later)
      · by_cases same : name = first
        · subst same
          rw [insert, if_neg before, if_pos rfl]
          exact List.pairwise_cons.mpr ⟨least, tail⟩
        · rw [insert, if_neg before, if_neg same]
          refine List.pairwise_cons.mpr ⟨?_, ih tail⟩
          intro other listed
          rcases mem_names_insert.mp listed with rfl | later
          · exact lt_of_le_of_ne (not_lt.mp before) (Ne.symm same)
          · exact least other later

/-- Erasing keeps names in order. -/
theorem erase_ordered (ordered : entries.names.Pairwise (· < ·)) :
    (erase name entries).names.Pairwise (· < ·) :=
  ordered.sublist (List.filter_sublist.map Prod.fst)

/-- Among entries of distinct names each name leads to its own entry. -/
theorem get?_eq_some_iff (distinct : entries.names.Nodup) :
    entries.get? name = some value ↔ (name, value) ∈ entries := by
  induction entries with
  | nil => simp [get?]
  | cons entry rest ih =>
      obtain ⟨first, held⟩ := entry
      obtain ⟨fresh, tail⟩ := List.nodup_cons.mp distinct
      simp only [get?] at ih ⊢
      by_cases same : name = first
      · subst same
        have elsewhere : (name, value) ∉ rest := fun listed =>
          fresh (List.mem_map.mpr ⟨_, listed, rfl⟩)
        simp [elsewhere, eq_comm]
      · have apart : (name == first) = false := by simpa using same
        simp [List.lookup_cons, apart, same, ih tail]

end Backplane.Entries
