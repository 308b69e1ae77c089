/-
This file counts events by their kind. Kinds stand in the order of their first event.
-/

namespace Backplane.Metrics

abbrev Tally (κ : Type) := List (κ × Nat)

namespace Tally

variable {κ : Type} [DecidableEq κ]

/-- Counts one more event of a kind. -/
def add (kind : κ) : Tally κ → Tally κ
  | [] => [(kind, 1)]
  | (other, number) :: rest =>
      if other = kind then (other, number + 1) :: rest else (other, number) :: add kind rest

/-- The number of events of a kind. -/
def count (kind : κ) : Tally κ → Nat
  | [] => 0
  | (other, number) :: rest => if other = kind then number else count kind rest

/-- The number of events of all kinds that are accepted. -/
def countWhere (accept : κ → Bool) : Tally κ → Nat
  | [] => 0
  | (kind, number) :: rest => (if accept kind then number else 0) + countWhere accept rest

theorem count_add (kind other : κ) (tally : Tally κ) :
    count other (add kind tally) = count other tally + if kind = other then 1 else 0 := by
  induction tally with
  | nil => by_cases same : kind = other <;> simp [add, count, same]
  | cons entry rest ih =>
      obtain ⟨first, number⟩ := entry
      by_cases here : first = kind
      · subst here
        by_cases same : first = other <;> simp [add, count, same]
      · by_cases same : first = other
        · subst same
          simp [add, count, here, Ne.symm here]
        · simp [add, count, here, same, ih]

theorem countWhere_add (accept : κ → Bool) (kind : κ) (tally : Tally κ) :
    countWhere accept (add kind tally) =
      countWhere accept tally + if accept kind then 1 else 0 := by
  induction tally with
  | nil => simp [add, countWhere]
  | cons entry rest ih =>
      obtain ⟨first, number⟩ := entry
      by_cases here : first = kind
      · subst here
        by_cases accepted : accept first <;> simp [add, countWhere, accepted]; omega
      · simp [add, countWhere, here, ih]
        omega

end Tally

end Backplane.Metrics
