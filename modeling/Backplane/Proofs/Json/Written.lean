import Backplane.Json.Print
import Backplane.Json.Read
import Mathlib

namespace Backplane.Json

/-- A reader that gives a value and leaves the rest of the text, wherever the reading began. -/
def Leaves {α : Type} (result : Except Failure (α × Cursor)) (value : α) (rest : List Char) :
    Prop :=
  ∃ offset, result = .ok (value, ⟨rest, offset⟩)

/-- What a reader leaves is what the next one reads. -/
theorem Leaves.bind {α β : Type} {first : Except Failure (α × Cursor)}
    {next : α × Cursor → Except Failure (β × Cursor)} {value : α} {result : β}
    {between rest : List Char} (begins : Leaves first value between)
    (continues : ∀ offset, Leaves (next (value, ⟨between, offset⟩)) result rest) :
    Leaves (first >>= next) result rest := by
  obtain ⟨offset, rfl⟩ := begins
  exact continues offset

/-- A character that is written as itself. -/
structure IsItself (character : Char) : Prop where
  unquoted : character ≠ '"'
  unescaped : character ≠ '\\'
  printable : 32 ≤ character.toNat

variable {character : Char}

/-- A character that stands for itself is written as it is. -/
theorem writeCharacter_itself (itself : IsItself character) :
    (writeCharacter character).toList = [character] := by
  have other : ∀ number < 32, character.toNat ≠ number := by
    have := itself.printable
    omega
  have apart (control : Char) (low : control.toNat < 32) : character ≠ control := by
    rintro rfl
    exact other _ low rfl
  rw [writeCharacter, if_neg itself.unquoted, if_neg itself.unescaped,
    if_neg (apart '\n' (by decide)), if_neg (apart '\r' (by decide)),
    if_neg (apart '\t' (by decide)), if_neg (other 8 (by decide)), if_neg (other 12 (by decide)),
    if_neg (Nat.not_lt.mpr itself.printable), String.toList_singleton]

/-- Any other character is written as an escape, which is read as that character. -/
theorem writeCharacter_escaped (escaped : ¬IsItself character) :
    ∃ written, (writeCharacter character).toList = '\\' :: written ∧
      ∀ rest offset, Leaves (escape ⟨written ++ rest, offset⟩) character rest := by
  have which : character = '"' ∨ character = '\\' ∨
      ∃ number, number < 32 ∧ character = Char.ofNat number := by
    by_contra! others
    refine escaped ⟨others.1, others.2.1, ?_⟩
    by_contra low
    exact others.2.2 character.toNat (by omega) (Char.ofNat_toNat character).symm
  obtain rfl | rfl | ⟨number, control, rfl⟩ := which
  · exact ⟨_, rfl, fun _ _ => ⟨_, rfl⟩⟩
  · exact ⟨_, rfl, fun _ _ => ⟨_, rfl⟩⟩
  · interval_cases number <;> exact ⟨_, rfl, fun _ _ => ⟨_, rfl⟩⟩

/-- A written character is read back, whatever follows. -/
theorem stringBody_writeCharacter (character : Char) (fuel : Nat) (rest : List Char)
    (offset : Nat) (reversed : List Char) :
    ∃ next, stringBody (fuel + 1) ⟨(writeCharacter character).toList ++ rest, offset⟩ reversed =
      stringBody fuel ⟨rest, next⟩ (character :: reversed) := by
  by_cases itself : IsItself character
  · refine ⟨offset + character.utf8Size, ?_⟩
    rw [writeCharacter_itself itself]
    simp [stringBody, Cursor.advance, itself.unquoted, itself.unescaped, itself.printable]
  · obtain ⟨written, shape, read⟩ := writeCharacter_escaped itself
    obtain ⟨next, found⟩ := read rest (offset + '\\'.utf8Size)
    refine ⟨next, ?_⟩
    rw [shape, List.cons_append, stringBody]
    simp only [Cursor.advance, found]
    rfl

/-- What stands for a text between its quotes. -/
def inside (text : List Char) : List Char :=
  text.flatMap fun character => (writeCharacter character).toList

/-- A text is written between quotes. -/
theorem toList_writeString (text : String) :
    (writeString text).toList = '"' :: (inside text.toList ++ ['"']) := by
  simp [writeString, inside, String.toList_join, List.flatMap_map]

/-- No character is written as nothing. -/
theorem length_le_length_inside (text : List Char) : text.length ≤ (inside text).length := by
  induction text with
  | nil => exact Nat.zero_le _
  | cons character text ih =>
      have given : 1 ≤ (writeCharacter character).toList.length := by
        by_cases itself : IsItself character
        · simp [writeCharacter_itself itself]
        · obtain ⟨written, shape, -⟩ := writeCharacter_escaped itself
          simp [shape]
      rw [inside, List.flatMap_cons, ← inside, List.length_append, List.length_cons]
      omega

/-- The text between the quotes is read back. -/
theorem stringBody_inside (text : List Char) {fuel : Nat} (enough : text.length < fuel)
    (rest : List Char) (offset : Nat) (reversed : List Char) :
    Leaves (stringBody fuel ⟨inside text ++ '"' :: rest, offset⟩ reversed)
      (String.ofList (reversed.reverse ++ text)) rest := by
  obtain ⟨fuel, rfl⟩ : ∃ less, fuel = less + 1 := ⟨fuel - 1, by omega⟩
  induction text generalizing fuel offset reversed with
  | nil =>
      rw [List.append_nil]
      exact ⟨_, rfl⟩
  | cons character text ih =>
      obtain ⟨fuel, rfl⟩ : ∃ less, fuel = less + 1 :=
        ⟨fuel - 1, by rw [List.length_cons] at enough; omega⟩
      obtain ⟨next, step⟩ := stringBody_writeCharacter character (fuel + 1)
        (inside text ++ '"' :: rest) offset reversed
      rw [inside, List.flatMap_cons, List.append_assoc, ← inside, step]
      simpa using ih next (character :: reversed) fuel (by simpa using enough)

/-- A string behind its opening quote, read with the fuel that its length gives. -/
theorem stringBody_quoted (text : String) (rest : List Char) (offset : Nat) :
    Leaves (stringBody (((writeString text).toList ++ rest).length + 1)
      ⟨inside text.toList ++ '"' :: rest, offset⟩ []) text rest := by
  have enough : text.toList.length < ((writeString text).toList ++ rest).length + 1 := by
    have := length_le_length_inside text.toList
    rw [toList_writeString, List.length_append, List.length_cons, List.length_append]
    omega
  simpa using stringBody_inside text.toList enough rest offset []

/-- A text is read as a document, with any fuel and at any depth, and the rest is left. -/
def ReadsAs (written : List Char) (document : Json) (rest : List Char) : Prop :=
  ∀ fuel depth offset, Leaves (value (fuel + 1) depth ⟨written ++ rest, offset⟩) document rest

/-- A written text is read back as a value. -/
theorem readsAs_writeString (text : String) (rest : List Char) :
    ReadsAs (writeString text).toList (.string text) rest := by
  intro fuel depth offset
  have read := stringBody_quoted text rest (offset + 1)
  rw [toList_writeString, List.cons_append, List.append_assoc] at read ⊢
  exact read.bind fun offset => ⟨offset, rfl⟩

/-- More digits make no number smaller. -/
theorem le_ofDigitChars (digits : List Char) (value : Nat) :
    value ≤ Nat.ofDigitChars 10 digits value := by
  rw [Nat.ofDigitChars_eq_ofDigitChars_zero]
  exact Nat.le_add_right_of_le (Nat.le_mul_of_pos_left value (Nat.pow_pos (by decide)))

/-- Digits are taken up to the comma behind them. -/
theorem takeDigits_append_comma {most : Nat} {digits : List Char}
    (all : ∀ digit ∈ digits, Decimal.isDigit digit = true) (rest : List Char) {value : Nat}
    (fits : Nat.ofDigitChars 10 digits value ≤ most) (count : Nat) :
    takeDigits most (digits ++ ',' :: rest) value count =
      (Nat.ofDigitChars 10 digits value, count + digits.length, false) := by
  induction digits generalizing value count with
  | nil => rfl
  | cons digit digits ih =>
      have next : value * 10 + Decimal.digitValue digit =
          10 * value + (digit.toNat - '0'.toNat) := by
        rw [Nat.mul_comm, Decimal.digitValue]
      rw [Nat.ofDigitChars_cons] at fits ⊢
      have small := (le_ofDigitChars digits _).trans fits
      have later := ih (fun digit listed => all digit (List.mem_cons_of_mem _ listed)) fits
        (count + 1)
      rw [List.cons_append, takeDigits, if_pos (all digit (List.mem_cons_self ..)), next]
      simp only [Nat.not_lt.mpr small, if_false, later, List.length_cons]
      rw [Nat.add_right_comm, Nat.add_assoc]

/-- A number other than zero does not begin with a zero. -/
theorem toDigits_eq_cons {number : Nat} (positive : 0 < number) :
    ∃ digit digits, Nat.toDigits 10 number = digit :: digits ∧ digit ≠ '0' := by
  induction number using Nat.strong_induction_on with
  | _ number ih =>
      by_cases small : number < 10
      · refine ⟨_, [], Nat.toDigits_of_lt_base small, ?_⟩
        interval_cases number <;> decide
      · obtain ⟨digit, digits, shape, other⟩ := ih (number / 10) (by omega) (by omega)
        refine ⟨digit, digits ++ [Nat.digitChar (number % 10)], ?_, other⟩
        rw [Nat.toDigits_of_base_le (by decide) (by omega), shape, List.cons_append]

/-- A whole number that fits into a word is read as it was written. -/
theorem number_toDigits {digits : Nat} (fits : digits ≤ largestWord) (rest : List Char)
    (offset : Nat) :
    Leaves (number true ⟨Nat.toDigits 10 digits ++ ',' :: rest, offset⟩) (.integer digits)
      (',' :: rest) := by
  obtain rfl | positive := digits.eq_zero_or_pos
  · exact ⟨_, rfl⟩
  · obtain ⟨digit, others, shape, leading⟩ := toDigits_eq_cons positive
    have all : ∀ digit ∈ Nat.toDigits 10 digits, Decimal.isDigit digit = true :=
      fun digit listed => Nat.isDigit_of_mem_toDigits (by decide) (by decide) listed
    have bound : Nat.ofDigitChars 10 (Nat.toDigits 10 digits) 0 ≤ largestWord := by
      rwa [Nat.ofDigitChars_ten_toDigits]
    have taken := takeDigits_append_comma all rest bound 0
    rw [Nat.ofDigitChars_ten_toDigits] at taken
    have first : Decimal.isDigit digit = true := all digit (by simp [shape])
    refine ⟨offset + (digit :: others).length, ?_⟩
    rw [shape, List.cons_append] at taken ⊢
    simp [number, first, taken, integerOf]

/-- A value that begins with a digit is a number. -/
theorem value_digit {digit : Char} (isDigit : Decimal.isDigit digit = true) (fuel depth : Nat)
    (rest : List Char) (offset : Nat) :
    value (fuel + 1) depth ⟨digit :: rest, offset⟩ = number true ⟨digit :: rest, offset⟩ := by
  obtain ⟨least, most⟩ : 48 ≤ digit.toNat ∧ digit.toNat ≤ 57 := by
    simpa [Decimal.isDigit, Char.le_def, UInt32.le_iff_toNat_le] using isDigit
  rw [← Char.ofNat_toNat digit]
  generalize digit.toNat = number at least most
  interval_cases number <;> rfl

/-- A written number is read back as a value. -/
theorem readsAs_toDigits {digits : Nat} (fits : digits ≤ largestWord) (rest : List Char) :
    ReadsAs (Nat.toDigits 10 digits) (.integer digits) (',' :: rest) := by
  intro fuel depth offset
  obtain ⟨digit, others, shape⟩ :=
    List.exists_cons_of_ne_nil (Nat.toDigits_ne_nil (b := 10) (n := digits))
  have isDigit : Decimal.isDigit digit = true :=
    Nat.isDigit_of_mem_toDigits (by decide) (by decide) (shape ▸ List.mem_cons_self ..)
  have read := number_toDigits fits rest offset
  rw [shape, List.cons_append] at read ⊢
  rwa [value_digit isDigit]

/-- What stands in front of a member, first or not. -/
def lead (first : Bool) : List Char := if first then [] else [',']

/-- A member is put in its place, and reading goes on behind it. -/
theorem members_member {written rest behind : List Char} {element document : Json}
    (reads : ReadsAs written element rest) {fuel depth : Nat} (first : Bool) {name : String}
    {placed : List (String × Json)}
    (continues : ∀ next, Leaves (members (fuel + 1) depth ⟨rest, next⟩ false
      (Entries.insert name element placed)) document behind) (offset : Nat) :
    Leaves (members (fuel + 2) depth
      ⟨lead first ++ ((writeString name).toList ++ ':' :: (written ++ rest)), offset⟩ first placed)
      document behind := by
  have nameRead := stringBody_quoted name (':' :: (written ++ rest))
    (offset + (lead first).length + 1)
  rw [toList_writeString, List.cons_append, List.append_assoc] at nameRead ⊢
  cases first with
  | false => exact nameRead.bind fun colon => (reads fuel depth (colon + 1)).bind continues
  | true => exact nameRead.bind fun colon => (reads fuel depth (colon + 1)).bind continues

/-- A closing brace ends the members. -/
theorem members_brace (fuel depth offset : Nat) (rest : List Char) (first : Bool)
    (placed : List (String × Json)) :
    Leaves (members (fuel + 1) depth ⟨'\x7d' :: rest, offset⟩ first placed) (.object placed) rest :=
  ⟨offset + 1, rfl⟩

/-- An opening brace begins them. -/
theorem value_brace {depth : Nat} (room : 1 < depth) (fuel offset : Nat) (rest : List Char) :
    value (fuel + 1) depth ⟨'\x7b' :: rest, offset⟩ =
      members fuel (depth - 1) ⟨rest, offset + 1⟩ true [] :=
  if_neg (Nat.not_le.mpr room)

/-- A text is read if its value leaves nothing behind. -/
theorem read_of_leaves {text : String} {document : Json}
    (leaves : Leaves (value (2 * text.toList.length + 2) depthLimit ⟨text.toList, 0⟩) document []) :
    read text = .ok document := by
  obtain ⟨offset, found⟩ := leaves
  unfold read
  dsimp only
  rw [found]
  rfl

end Backplane.Json
