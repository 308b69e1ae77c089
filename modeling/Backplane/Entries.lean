/-
This file keeps named entries in the order of their names, each name once.
-/

namespace Backplane

/-- Entries in the order of their names. -/
abbrev Entries (α : Type) := List (String × α)

namespace Entries

/-- Puts an entry in its place; an entry of the same name gives way. -/
def insert (name : String) (value : α) : Entries α → Entries α
  | [] => [(name, value)]
  | (other, old) :: rest =>
      if name < other then (name, value) :: (other, old) :: rest
      else if name = other then (name, value) :: rest
      else (other, old) :: insert name value rest

/-- The entry of a name. -/
def get? (name : String) (entries : Entries α) : Option α := entries.lookup name

theorem get?_insert (name other : String) (value : α) (entries : Entries α) :
    get? other (insert name value entries) =
      if name = other then some value else get? other entries := by
  induction entries with
  | nil =>
      by_cases same : name = other
      · simp [insert, get?, same]
      · have apart : (other == name) = false := by simpa using Ne.symm same
        simp [insert, get?, List.lookup_cons, same, apart]
  | cons entry rest ih =>
      obtain ⟨first, old⟩ := entry
      simp only [get?] at ih ⊢
      by_cases before : name < first
      · by_cases same : name = other
        · subst same
          simp [insert, before]
        · have apart : (other == name) = false := by simpa using Ne.symm same
          simp [insert, before, List.lookup_cons, same, apart]
      · by_cases here : name = first
        · subst here
          by_cases same : name = other
          · simp [insert, same]
          · have apart : (other == name) = false := by simpa using Ne.symm same
            simp [insert, List.lookup_cons, same, apart]
        · by_cases reached : other = first
          · subst reached
            simp [insert, before, here]
          · have apart : (other == first) = false := by simpa using reached
            simp [insert, before, here, List.lookup_cons, apart, ih]

/-- Removes the entry of a name. -/
def erase (name : String) (entries : Entries α) : Entries α :=
  entries.filter fun entry => entry.1 ≠ name

theorem get?_erase (name other : String) (entries : Entries α) :
    get? other (erase name entries) = if name = other then none else get? other entries := by
  induction entries with
  | nil => simp [erase, get?]
  | cons entry rest ih =>
      obtain ⟨first, old⟩ := entry
      simp only [get?, erase] at ih ⊢
      by_cases here : first = name
      · subst here
        by_cases same : first = other
        · simpa [same] using ih
        · have apart : (other == first) = false := by simpa using Ne.symm same
          simpa [List.lookup_cons, same, apart] using ih
      · by_cases reached : other = first
        · subst reached
          simp [here, Ne.symm here]
        · have apart : (other == first) = false := by simpa using reached
          simpa [here, List.lookup_cons, apart] using ih

/-- The names, in order. -/
def names (entries : Entries α) : List String := entries.map Prod.fst

/-- The given entries in order; the last of several with one name counts. -/
def ofList (entries : List (String × α)) : Entries α :=
  entries.foldl (fun placed (name, value) => insert name value placed) []

end Entries

end Backplane
