import Backplane.Language
import Mathlib.Data.List.Basic

namespace Backplane

namespace Text

/-- Fields are what the library splits a text into. -/
theorem fields_eq_splitOn (separator : Char) (characters : List Char) :
    fields separator characters = characters.splitOn separator := by
  induction characters with
  | nil => exact (List.splitOn_nil separator).symm
  | cons character rest ih =>
      obtain ⟨field, others, parts⟩ :=
        List.exists_cons_of_ne_nil (List.splitOn_ne_nil separator rest)
      simp [fields, ih, List.splitOn_cons_eq_if_modifyHead, parts]

/-- The fields of two texts with a separator between them are those of both. -/
theorem fields_append_cons (separator : Char) (first second : List Char) :
    fields separator (first ++ separator :: second) =
      fields separator first ++ fields separator second := by
  simp only [fields_eq_splitOn]
  exact List.splitOn_append_cons_self first second

/-- A text without separators is one field. -/
theorem fields_of_not_mem {separator : Char} {characters : List Char}
    (single : separator ∉ characters) : fields separator characters = [characters] := by
  rw [fields_eq_splitOn]
  exact List.splitOn_eq_singleton single

/-- Characters other than the separator stay in front of it. -/
theorem beforeFirst_append {separator : Char} {characters : List Char}
    (single : separator ∉ characters) (rest : List Char) :
    beforeFirst separator (characters ++ rest) = characters ++ beforeFirst separator rest := by
  apply List.takeWhile_append_of_pos
  intro character inside
  simpa using ne_of_mem_of_not_mem inside single

variable {before tag after : List Char}

/-- What stands between blanks, and is blank at neither end, is what trimming leaves. -/
theorem trimBlank_around (blankBefore : ∀ character ∈ before, isBlank character = true)
    (blankAfter : ∀ character ∈ after, isBlank character = true)
    (starts : ∀ character ∈ tag.head?, isBlank character = false)
    (ends : ∀ character ∈ tag.getLast?, isBlank character = false) :
    trimBlank (before ++ tag ++ after) = tag := by
  have bare (characters : List Char)
      (head : ∀ character ∈ characters.head?, isBlank character = false) :
      characters.dropWhile isBlank = characters := by
    cases characters with
    | nil => rfl
    | cons character rest => exact List.dropWhile_cons_of_neg (by simpa using head)
  have front : (tag ++ after).dropWhile isBlank = if tag = [] then [] else tag ++ after := by
    cases tag with
    | nil =>
        rw [List.nil_append, ← List.append_nil after, List.dropWhile_append_of_pos blankAfter]
        rfl
    | cons character rest => exact bare _ starts
  rw [trimBlank, List.append_assoc, List.dropWhile_append_of_pos blankBefore, front]
  split
  · rename_i none
    rw [none]
    rfl
  · rw [List.reverse_append, List.dropWhile_append_of_pos (by simpa using blankAfter),
      bare _ (by simpa using ends), List.reverse_reverse]

end Text

namespace Language

theorem mem_all (language : Language) : language ∈ all := by cases language <;> decide

/-- A tag names the language whose code it begins with, without regard to case. -/
def Names (language : Language) (tag : List Char) : Prop :=
  language.codeCharacters <+: tag.map Char.toLower

instance (language : Language) (tag : List Char) : Decidable (language.Names tag) :=
  inferInstanceAs (Decidable (_ <+: _))

/-- A tag names one language at most. -/
theorem Names.unique {first second : Language} {tag : List Char} (names : first.Names tag)
    (also : second.Names tag) : first = second := by
  have same : first.codeCharacters.length = second.codeCharacters.length := by
    cases first <;> cases second <;> rfl
  have codes := (List.prefix_of_prefix_length_le names also (Nat.le_of_eq same)).eq_of_length same
  cases first <;> cases second <;> first | rfl | exact absurd codes (by decide)

/-- A language that is found is named by the tag without the blanks around it. -/
theorem Names.of_ofTagCharacters? {tag : List Char} {language : Language}
    (found : ofTagCharacters? tag = some language) : language.Names (Text.trimBlank tag) := by
  rw [ofTagCharacters?] at found
  have begins := List.find?_some found
  exact List.isPrefixOf_iff_prefix.mp begins

/-- A tag finds the language that it names, without the blanks around it. -/
theorem ofTagCharacters?_eq_some_iff {tag : List Char} {language : Language} :
    ofTagCharacters? tag = some language ↔ language.Names (Text.trimBlank tag) := by
  refine ⟨Names.of_ofTagCharacters?, fun names => ?_⟩
  cases found : ofTagCharacters? tag with
  | none =>
      have unnamed := List.find?_eq_none.mp found language language.mem_all
      exact absurd (List.isPrefixOf_iff_prefix.mpr names) unnamed
  | some other => rw [(Names.of_ofTagCharacters? found).unique names]

/-- A tag finds no language if it names none. -/
theorem ofTagCharacters?_eq_none_iff {tag : List Char} :
    ofTagCharacters? tag = none ↔ ∀ language : Language, ¬language.Names (Text.trimBlank tag) := by
  simp [Option.eq_none_iff_forall_ne_some, ofTagCharacters?_eq_some_iff]

/-- The code of a language is also a tag of it. -/
theorem ofTag?_of_ofCode? {text : String} {language : Language}
    (found : ofCode? text = some language) : ofTag? text = some language := by
  have code : language.codeCharacters = (Text.trimBlank text.toList).map Char.toLower := by
    rw [ofCode?] at found
    simpa using List.find?_some found
  apply ofTagCharacters?_eq_some_iff.mpr
  simp [Names, code]

/-- The first list decides if it names a language, and otherwise the second. -/
theorem preferred?_append (first second : String) :
    preferred? (first ++ "," ++ second) = (preferred? first).or (preferred? second) := by
  simp only [preferred?, preferredCharacters?, String.toList_append]
  rw [List.append_assoc]
  exact (congrArg _ (Text.fields_append_cons ',' first.toList second.toList)).trans
    List.findSome?_append

/-- An entry of a preference list: a tag between blanks, and parameters behind a semicolon if any.
-/
structure Entry where
  before : List Char
  tag : List Char
  after : List Char
  parameters : Option (List Char)
  blankBefore : ∀ character ∈ before, Text.isBlank character = true
  blankAfter : ∀ character ∈ after, Text.isBlank character = true
  starts : ∀ character ∈ tag.head?, Text.isBlank character = false
  ends : ∀ character ∈ tag.getLast?, Text.isBlank character = false
  plain : ',' ∉ tag ∧ ';' ∉ tag
  single : ∀ text ∈ parameters, ',' ∉ text

namespace Entry

/-- The tag with the blanks around it. -/
def spaced (entry : Entry) : List Char := entry.before ++ entry.tag ++ entry.after

def write (entry : Entry) : String :=
  String.ofList (entry.spaced ++ (entry.parameters.map (';' :: ·)).getD [])

/-- The list of some entries. -/
def header (entries : List Entry) : String := ",".intercalate (entries.map write)

/-- The blanks around a tag add no visible character. -/
theorem not_mem_spaced {entry : Entry} {character : Char}
    (visible : Text.isBlank character = false) (plain : character ∉ entry.tag) :
    character ∉ entry.spaced := by
  have before : character ∉ entry.before := fun inside =>
    absurd (entry.blankBefore _ inside) (by simp [visible])
  have after : character ∉ entry.after := fun inside =>
    absurd (entry.blankAfter _ inside) (by simp [visible])
  simp [spaced, before, plain, after]

/-- What stands in front of the parameters is the tag with its blanks. -/
theorem beforeFirst_write (entry : Entry) :
    Text.beforeFirst ';' entry.write.toList = entry.spaced := by
  have plain := not_mem_spaced (by decide) entry.plain.2
  rw [write, String.toList_ofList, Text.beforeFirst_append plain]
  cases entry.parameters <;> simp [Text.beforeFirst]

/-- An entry holds no comma. -/
theorem comma_not_mem_write (entry : Entry) : ',' ∉ entry.write.toList := by
  have plain := not_mem_spaced (by decide) entry.plain.1
  have single := entry.single
  rw [write, String.toList_ofList]
  cases given : entry.parameters with
  | none => simpa using plain
  | some text => simpa [plain] using single text given

/-- A single entry asks for the language that its tag names. -/
theorem preferred?_write (entry : Entry) :
    preferred? entry.write = ofTagCharacters? entry.spaced := by
  simp [preferred?, preferredCharacters?, Text.fields_of_not_mem entry.comma_not_mem_write,
    entry.beforeFirst_write]

/-- Without its blanks the tag is left. -/
theorem trimBlank_spaced (entry : Entry) : Text.trimBlank entry.spaced = entry.tag :=
  Text.trimBlank_around entry.blankBefore entry.blankAfter entry.starts entry.ends

/-- An entry alone asks for the language that its tag names. -/
theorem preferred?_write_eq_some_iff {entry : Entry} {language : Language} :
    preferred? entry.write = some language ↔ language.Names entry.tag := by
  rw [preferred?_write, ofTagCharacters?_eq_some_iff, trimBlank_spaced]

/-- An entry alone asks for no language if its tag names none. -/
theorem preferred?_write_eq_none_iff {entry : Entry} :
    preferred? entry.write = none ↔ ∀ language : Language, ¬language.Names entry.tag := by
  rw [preferred?_write, ofTagCharacters?_eq_none_iff, trimBlank_spaced]

/-- The first entry that asks for a language decides. -/
theorem preferred?_header (entries : List Entry) :
    preferred? (header entries) = entries.findSome? fun entry => preferred? entry.write := by
  induction entries with
  | nil => rfl
  | cons entry rest ih =>
      cases rest with
      | nil => simp [header]
      | cons next rest =>
          have joined : header (entry :: next :: rest) =
              entry.write ++ "," ++ header (next :: rest) := String.intercalate_cons_cons
          rw [joined, preferred?_append, ih]
          cases asked : preferred? entry.write <;> simp [asked]

/-- Entries whose tags differ in case only ask for the same language. -/
theorem preferred?_write_congr {entry other : Entry}
    (same : entry.tag.map Char.toLower = other.tag.map Char.toLower) :
    preferred? entry.write = preferred? other.write := by
  apply Option.ext
  intro language
  rw [preferred?_write_eq_some_iff, preferred?_write_eq_some_iff, Names, Names, same]

/-- Blanks, case and parameters make no difference. -/
theorem preferred?_header_congr {entries others : List Entry}
    (same : entries.map (fun entry => entry.tag.map Char.toLower) =
      others.map (fun entry => entry.tag.map Char.toLower)) :
    preferred? (header entries) = preferred? (header others) := by
  rw [preferred?_header, preferred?_header]
  induction entries generalizing others with
  | nil =>
      obtain rfl := List.map_eq_nil_iff.mp same.symm
      rfl
  | cons entry rest ih =>
      cases others with
      | nil => cases same
      | cons other others =>
          obtain ⟨head, tail⟩ := List.cons.inj same
          rw [List.findSome?_cons, List.findSome?_cons, preferred?_write_congr head, ih tail]

end Entry

/-- A list of entries asks for the language of the first entry whose tag names one, and for none if
no tag does; so nothing counts but the small letters of the tags. Of two lists in a row the first
decides if it asks for a language, and the usual language stands for none. A code is also a tag. -/
theorem preferred_is_first_named :
    (∀ (entries : List Entry) (language : Language),
      preferred? (Entry.header entries) = some language ↔
        ∃ before entry after, entries = before ++ entry :: after ∧ language.Names entry.tag ∧
          ∀ earlier ∈ before, ∀ other : Language, ¬other.Names earlier.tag) ∧
    (∀ entries : List Entry, preferred? (Entry.header entries) = none ↔
      ∀ entry ∈ entries, ∀ language : Language, ¬language.Names entry.tag) ∧
    (∀ entries others : List Entry,
      entries.map (fun entry => entry.tag.map Char.toLower) =
        others.map (fun entry => entry.tag.map Char.toLower) →
      preferred? (Entry.header entries) = preferred? (Entry.header others)) ∧
    (∀ first second : String,
      preferred? (first ++ "," ++ second) = (preferred? first).or (preferred? second)) ∧
    (∀ first second : String,
      preferred (first ++ "," ++ second) = (preferred? first).getD (preferred second)) ∧
    (∀ header : String, preferred header = (preferred? header).getD .english) ∧
    ∀ (text : String) (language : Language),
      ofCode? text = some language → ofTag? text = some language := by
  refine ⟨?_, ?_, ?_, preferred?_append, ?_, fun _ => rfl, fun _ _ => ofTag?_of_ofCode?⟩
  · intro entries language
    simp only [Entry.preferred?_header, List.findSome?_eq_some_iff,
      Entry.preferred?_write_eq_some_iff, Entry.preferred?_write_eq_none_iff]
  · intro entries
    simp only [Entry.preferred?_header, List.findSome?_eq_none_iff,
      Entry.preferred?_write_eq_none_iff]
  · exact fun _ _ => Entry.preferred?_header_congr
  · intro first second
    rw [preferred, preferred?_append]
    cases preferred? first <;> rfl

/-- An entry for a language that is not supported. -/
def french : Entry where
  before := [' ']
  tag := ['f', 'r']
  after := []
  parameters := none
  blankBefore := by simp [Text.isBlank]
  blankAfter := by simp [Text.isBlank]
  starts := by simp [Text.isBlank]
  ends := by simp [Text.isBlank]
  plain := by decide
  single := by decide

/-- An entry whose weight is zero. -/
def weightless : Entry where
  before := ['\t']
  tag := ['K', 'O', '-', 'k', 'r']
  after := [' ']
  parameters := some ['q', '=', '0']
  blankBefore := by simp [Text.isBlank]
  blankAfter := by simp [Text.isBlank]
  starts := by simp [Text.isBlank]
  ends := by simp [Text.isBlank]
  plain := by decide
  single := by decide

/-- An entry that names no language, and one of the least weight. -/
theorem preferred_is_first_named_weightless :
    preferred? (Entry.header [french, weightless]) = some .korean ∧
      ofCode? " KO" = some .korean ∧ ofTag? " KO" = some .korean := by
  have unnamed : ∀ earlier ∈ [french], ∀ other : Language, ¬other.Names earlier.tag := by
    intro earlier inside other
    obtain rfl := List.mem_singleton.mp inside
    cases other <;> decide
  have code : ofCode? " KO" = some .korean := by decide
  exact ⟨(preferred_is_first_named.1 _ _).mpr ⟨[french], weightless, [], rfl, by decide, unnamed⟩,
    code, preferred_is_first_named.2.2.2.2.2.2 _ _ code⟩

end Language

end Backplane
