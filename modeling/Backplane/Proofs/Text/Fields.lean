import Backplane.Text.Fields
import Mathlib.Data.List.Basic

namespace Backplane.Text

variable {separator : Char} {pattern before after characters rest : List Char}

/-- A pattern is cut off where the characters begin with it. -/
theorem isPrefixOf?_eq_some_iff :
    pattern.isPrefixOf? characters = some rest ↔ characters = pattern ++ rest := by
  rw [List.isPrefixOf?_eq_some_iff_append_eq, eq_comm]

/-- Cutting a pattern off is dropping a prefix. -/
theorem isPrefixOf?_eq_dropPrefix? (pattern characters : List Char) :
    pattern.isPrefixOf? characters = characters.dropPrefix? pattern := by
  ext rest
  rw [isPrefixOf?_eq_some_iff, List.dropPrefix?_eq_some_iff]
  simp

/-- The search is that of the library, whose loop carries the part that it has passed. -/
theorem cutFirst?_eq_dropInfix? (pattern characters : List Char) :
    cutFirst? pattern characters = characters.dropInfix? pattern := by
  suffices loop : ∀ passed : List Char, List.dropInfix?.go pattern characters passed =
      (cutFirst? pattern characters).map fun cut => (passed.reverse ++ cut.1, cut.2) by
    simp [List.dropInfix?, loop]
  induction characters with
  | nil => intro passed; cases pattern <;> simp [List.dropInfix?.go, cutFirst?, List.isPrefixOf?]
  | cons character rest ih =>
      intro passed
      rw [List.dropInfix?.go, cutFirst?, isPrefixOf?_eq_dropPrefix?]
      cases (character :: rest).dropPrefix? pattern <;> simp [ih, Function.comp_def]

/-- A text is cut at the first place at which the pattern stands. -/
theorem cutFirst?_eq_some_iff : cutFirst? pattern characters = some (before, after) ↔
    characters = before ++ pattern ++ after ∧
      ∀ front behind, characters = front ++ pattern ++ behind → before.length ≤ front.length := by
  rw [cutFirst?_eq_dropInfix?, List.dropInfix?_eq_some_iff]
  refine and_congr (by simp) ⟨fun least front behind whole => ?_, fun least front same behind => ?_⟩
  · exact least front pattern behind whole (BEq.refl pattern)
  · intro whole equal
    rw [eq_of_beq equal] at whole
    exact least front behind whole

/-- A text can be cut at a pattern that it holds. -/
theorem isSome_cutFirst?_iff : (cutFirst? pattern characters).isSome ↔ pattern <:+: characters := by
  induction characters with
  | nil => cases pattern <;> simp [cutFirst?, List.isPrefixOf?]
  | cons character rest ih =>
      rw [List.infix_cons_iff, ← ih, cutFirst?]
      cases dropped : pattern.isPrefixOf? (character :: rest) with
      | some tail =>
          have begins := isPrefixOf?_eq_some_iff.mp dropped
          simp [begins]
      | none =>
          have apart : ¬pattern <+: character :: rest := by
            rintro ⟨tail, whole⟩
            rw [isPrefixOf?_eq_some_iff.mpr whole.symm] at dropped
            cases dropped
          simp [apart]

/-- Nothing stands behind a separator that is not there. -/
theorem afterLast?_eq_none_iff : afterLast? separator characters = none ↔
    separator ∉ characters := by
  induction characters with
  | nil => simp [afterLast?]
  | cons character rest ih =>
      rw [afterLast?, List.mem_cons, not_or, ← ih, eq_comm]
      cases afterLast? separator rest <;> simp [eq_comm]

/-- What stands behind the last separator has none. -/
theorem not_mem_of_afterLast? (found : afterLast? separator characters = some rest) :
    separator ∉ rest := by
  induction characters with
  | nil => cases found
  | cons character tail ih =>
      rw [afterLast?] at found
      cases later : afterLast? separator tail with
      | some last => exact ih (by simpa [later] using found)
      | none =>
          obtain ⟨-, rfl⟩ : character = separator ∧ tail = rest := by simpa [later] using found
          exact afterLast?_eq_none_iff.mp later

/-- What stands in front of a separator does not count. -/
theorem afterLast?_append_cons (before after : List Char) :
    afterLast? separator (before ++ separator :: after) =
      some ((afterLast? separator after).getD after) := by
  induction before with
  | nil =>
      rw [List.nil_append, afterLast?]
      cases afterLast? separator after <;> simp
  | cons character before ih => rw [List.cons_append, afterLast?, ih]

end Backplane.Text
