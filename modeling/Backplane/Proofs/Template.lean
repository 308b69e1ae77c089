import Backplane.Template

namespace Backplane.Template

/-- The verbs. -/
inductive Verb
  | s
  | d
  | v
  | f

namespace Verb

def letter : Verb → Char
  | .s => 's'
  | .d => 'd'
  | .v => 'v'
  | .f => 'f'

def characters (verb : Verb) : List Char := ['%', verb.letter]

/-- The verb as it stands in a template. -/
def write (verb : Verb) : String := String.ofList verb.characters

def ofLetter? (letter : Char) : Option Verb :=
  if letter = 's' then some .s
  else if letter = 'd' then some .d
  else if letter = 'v' then some .v
  else if letter = 'f' then some .f
  else none

theorem letter_ne_sign (verb : Verb) : verb.letter ≠ '%' := by cases verb <;> decide

theorem isVerb_letter (verb : Verb) : isVerb verb.letter = true := by cases verb <;> rfl

/-- A verb is found by its letter. -/
theorem letter_of_ofLetter? {letter : Char} {verb : Verb} (found : ofLetter? letter = some verb) :
    verb.letter = letter := by
  grind [ofLetter?, Verb.letter]

/-- A character that is no such letter finds none. -/
theorem ofLetter?_eq_none_iff (letter : Char) :
    ofLetter? letter = none ↔ isVerb letter = false := by
  grind [ofLetter?, isVerb]

end Verb

/-- Tells that a percent sign in front of a text stands alone: the text goes on neither with another
sign nor with the letter of a verb. -/
def LeavesAlone (text : List Char) : Prop :=
  ∀ next ∈ text.head?, next ≠ '%' ∧ isVerb next = false

/-- What a template is made of. -/
inductive Piece
  | literal (character : Char)
  | verb (verb : Verb)

def Piece.isVerb : Piece → Bool
  | .literal _ => false
  | .verb _ => true

/-- The pieces of a template, from left to right. -/
def pieces : List Char → List Piece
  | [] => []
  | '%' :: '%' :: rest => .literal '%' :: pieces rest
  | '%' :: letter :: rest =>
      match Verb.ofLetter? letter with
      | some verb => .verb verb :: pieces rest
      | none => .literal '%' :: pieces (letter :: rest)
  | character :: rest => .literal character :: pieces rest

section Pieces

variable {rest : List Char}

theorem pieces_doubled : pieces ('%' :: '%' :: rest) = .literal '%' :: pieces rest := rfl

/-- A sign in front of a letter is a verb. -/
theorem pieces_verb (verb : Verb) :
    pieces ('%' :: verb.letter :: rest) = .verb verb :: pieces rest := by
  cases verb <;> rfl

/-- A sign in front of anything else is itself. -/
theorem pieces_lone (alone : LeavesAlone rest) :
    pieces ('%' :: rest) = .literal '%' :: pieces rest := by
  cases rest with
  | nil => rfl
  | cons next rest =>
      obtain ⟨notSign, notVerb⟩ := alone next rfl
      rw [pieces, (Verb.ofLetter?_eq_none_iff next).mpr notVerb]
      exact fun same => absurd same notSign

/-- Other characters are themselves. -/
theorem pieces_other {character : Char} (other : character ≠ '%') :
    pieces (character :: rest) = .literal character :: pieces rest := by
  rw [pieces]
  · exact fun _ same => absurd same other
  · exact fun _ _ same => absurd same other

/-- A template ends, or it begins with a doubled sign, a verb, a sign that stands alone, or another
character. -/
@[elab_as_elim]
theorem reading {motive : List Char → Prop} (ended : motive [])
    (doubled : ∀ rest, motive rest → motive ('%' :: '%' :: rest))
    (verb : ∀ (verb : Verb) rest, motive rest → motive ('%' :: verb.letter :: rest))
    (lone : ∀ rest, LeavesAlone rest → motive rest → motive ('%' :: rest))
    (other : ∀ character rest, character ≠ '%' → motive rest → motive (character :: rest))
    (template : List Char) : motive template := by
  induction template using pieces.induct with
  | case1 => exact ended
  | case2 rest ih => exact doubled rest ih
  | case3 letter rest notSign found isFound ih =>
      rw [← Verb.letter_of_ofLetter? isFound]
      exact verb found rest ih
  | case4 letter rest notSign notFound ih =>
      refine lone (letter :: rest) ?_ ih
      intro next isNext
      obtain rfl : letter = next := by simpa using isNext
      exact ⟨notSign, (Verb.ofLetter?_eq_none_iff letter).mp notFound⟩
  | case5 character rest notDoubled notBefore ih =>
      by_cases sign : character = '%'
      · subst sign
        refine lone rest ?_ ih
        cases rest with
        | nil => exact nofun
        | cons next rest => exact absurd rfl (notBefore next rest rfl)
      · exact other character rest sign ih

end Pieces

/-- Puts arguments in the places of verbs, one each; a verb behind the last argument stays. -/
def substitute : List Piece → (arguments : List (List Char)) → List Char
  | [], _ => []
  | .literal character :: rest, arguments => character :: substitute rest arguments
  | .verb _ :: rest, argument :: others => argument ++ substitute rest others
  | .verb verb :: rest, [] => verb.characters ++ substitute rest []

/-- A template is filled piece by piece. -/
theorem fillCharacters_eq (template : List Char) (arguments : List (List Char)) :
    fillCharacters template arguments = substitute (pieces template) arguments := by
  induction template using reading generalizing arguments with
  | ended => rfl
  | doubled rest ih => rw [fillCharacters, pieces_doubled, substitute, ih]
  | verb verb rest ih =>
      rw [pieces_verb]
      cases arguments with
      | nil => simp [fillCharacters, verb.isVerb_letter, verb.letter_ne_sign, substitute, ih,
          Verb.characters]
      | cons argument others => simp [fillCharacters, verb.isVerb_letter, verb.letter_ne_sign,
          substitute, ih]
  | lone rest alone ih =>
      -- The character behind the sign is neither a sign nor a verb, so it is read on its own.
      rw [pieces_lone alone, substitute, ← ih]
      cases rest with
      | nil => rfl
      | cons next rest =>
          obtain ⟨notSign, notVerb⟩ := alone next rfl
          cases arguments <;> rw [fillCharacters, if_neg (by simp [notVerb])] <;>
            exact fun same => absurd same notSign
  | other character rest other ih =>
      rw [pieces_other other, substitute, ← ih, fillCharacters]
      · exact fun _ same => absurd same other
      · exact fun _ _ same => absurd same other

/-- What stands behind some pieces is filled with the arguments that their verbs leave. -/
theorem substitute_append (first second : List Piece) (arguments : List (List Char)) :
    substitute (first ++ second) arguments =
      substitute first arguments ++
        substitute second (arguments.drop (first.countP Piece.isVerb)) := by
  induction first generalizing arguments with
  | nil => rfl
  | cons piece first ih =>
      cases piece with
      | literal character =>
          rw [List.cons_append, substitute, substitute, ih]
          rfl
      | verb verb =>
          cases arguments with
          | nil => simp [substitute, ih]
          | cons argument others => simp [substitute, ih, List.countP_cons, Piece.isVerb]

/-- Without verbs the arguments do not matter. -/
theorem substitute_literals (text : List Char) (arguments : List (List Char)) :
    substitute (text.map .literal) arguments = text := by
  induction text with
  | nil => rfl
  | cons character text ih => rw [List.map_cons, substitute, ih]

theorem countP_literals (text : List Char) :
    (text.map Piece.literal).countP Piece.isVerb = 0 := by
  simp [List.countP_eq_zero, Piece.isVerb]

/-- Doubles the percent signs of a text. -/
def escapeCharacters (text : List Char) : List Char :=
  text.flatMap fun character => if character = '%' then ['%', '%'] else [character]

def escape (text : String) : String := String.ofList (escapeCharacters text.toList)

/-- A text whose signs are doubled is read as the text itself, whatever stands behind it. -/
theorem pieces_escape (text rest : List Char) :
    pieces (escapeCharacters text ++ rest) = text.map .literal ++ pieces rest := by
  induction text with
  | nil => rfl
  | cons character text ih =>
      by_cases sign : character = '%'
      · simpa [escapeCharacters, sign, pieces_doubled] using ih
      · simpa [escapeCharacters, sign, pieces_other sign] using ih

/-- The number of percent signs at the end of a text. -/
def signsAtEnd (text : List Char) : Nat := (text.reverse.takeWhile (· = '%')).length

/-- A sign in front counts if nothing but signs follows. -/
theorem signsAtEnd_cons_sign (text : List Char) :
    signsAtEnd ('%' :: text) =
      if signsAtEnd text = text.length then text.length + 1 else signsAtEnd text := by
  rw [signsAtEnd, List.reverse_cons, List.takeWhile_append, List.length_reverse]
  by_cases all : (text.reverse.takeWhile (· = '%')).length = text.length <;> simp [signsAtEnd, all]

/-- Another character in front makes no difference. -/
theorem signsAtEnd_cons_other {character : Char} (other : character ≠ '%') (text : List Char) :
    signsAtEnd (character :: text) = signsAtEnd text := by
  rw [signsAtEnd, List.reverse_cons, List.takeWhile_append, List.length_reverse]
  by_cases all : (text.reverse.takeWhile (· = '%')).length = text.length <;>
    simp [signsAtEnd, all, other]

/-- A text has no more signs than characters. -/
theorem signsAtEnd_le (text : List Char) : signsAtEnd text ≤ text.length := by
  rw [← List.length_reverse]
  exact (List.takeWhile_sublist _).length_le

/-- A run of signs is read in pairs, so a text that does not end in half a pair is read on its
own. -/
theorem pieces_append {text : List Char} (paired : signsAtEnd text % 2 = 0)
    (rest : List Char) : pieces (text ++ rest) = pieces text ++ pieces rest := by
  -- Every form that reads two characters at once has both within the text: a sign at its end would
  -- be half a pair.
  induction text using reading with
  | ended => rfl
  | doubled text ih =>
      have inner : signsAtEnd text % 2 = 0 := by
        have bound := signsAtEnd_le text
        simp only [signsAtEnd_cons_sign, List.length_cons] at paired
        grind
      exact pieces_doubled.trans (congrArg (List.cons _) (ih inner))
  | verb verb text ih =>
      have inner : signsAtEnd text % 2 = 0 := by
        have bound := signsAtEnd_le text
        rw [signsAtEnd_cons_sign, signsAtEnd_cons_other verb.letter_ne_sign, List.length_cons,
          if_neg (by omega)] at paired
        exact paired
      rw [pieces_verb]
      exact (pieces_verb verb).trans (congrArg (List.cons _) (ih inner))
  | lone text alone ih =>
      cases text with
      | nil => simp [signsAtEnd] at paired
      | cons next text =>
          have same : signsAtEnd ('%' :: next :: text) = signsAtEnd (next :: text) := by
            have bound := signsAtEnd_le text
            rw [signsAtEnd_cons_sign, signsAtEnd_cons_other (alone next rfl).1, List.length_cons,
              if_neg (by omega)]
          rw [same] at paired
          have longer : LeavesAlone (next :: text ++ rest) := alone
          rw [pieces_lone alone]
          exact (pieces_lone longer).trans (congrArg (List.cons _) (ih paired))
  | other character text other ih =>
      rw [signsAtEnd_cons_other other] at paired
      rw [pieces_other other]
      exact (pieces_other other).trans (congrArg (List.cons _) (ih paired))

/-- The number of verbs in a template. -/
def verbCount (template : String) : Nat := (pieces template.toList).countP Piece.isVerb

/-- A filled template, as characters. -/
theorem toList_fill (template : String) (arguments : List Argument) :
    (fill template arguments).toList =
      substitute (pieces template.toList)
        (arguments.map fun argument => argument.write.toList) := by
  rw [fill, String.toList_ofList, fillCharacters_eq]

/-- A text that does not end in half a pair of signs is filled on its own. -/
theorem fill_append {before : String} (paired : signsAtEnd before.toList % 2 = 0) (after : String)
    (arguments : List Argument) :
    fill (before ++ after) arguments =
      fill before arguments ++ fill after (arguments.drop (verbCount before)) := by
  apply String.toList_injective
  rw [toList_fill, String.toList_append, pieces_append paired, substitute_append, ← List.map_drop,
    ← verbCount, String.toList_append, toList_fill, toList_fill]

/-- Texts with doubled signs behind verbs: each verb gets the argument at its place. -/
theorem substitute_segments (segments : List (Verb × String)) (arguments : List Argument) :
    substitute (pieces (segments.flatMap fun (verb, text) =>
        verb.characters ++ escapeCharacters text.toList))
        (arguments.map fun argument => argument.write.toList) =
      (String.join (segments.mapIdx fun index (verb, text) =>
        (arguments[index]?).elim verb.write Argument.write ++ text)).toList := by
  induction segments generalizing arguments with
  | nil => rfl
  | cons segment segments ih =>
      obtain ⟨verb, text⟩ := segment
      rw [List.flatMap_cons, List.append_assoc, Verb.characters, List.cons_append, List.cons_append,
        List.nil_append, pieces_verb, pieces_escape, List.mapIdx_cons, String.join_cons,
        String.toList_append, String.toList_append]
      cases arguments with
      | nil =>
          rw [List.map_nil, substitute, substitute_append, substitute_literals, countP_literals,
            List.drop_zero, ← List.map_nil, ih, List.append_assoc]
          simp [Verb.write]
      | cons argument others =>
          rw [List.map_cons, substitute, substitute_append, substitute_literals, countP_literals,
            List.drop_zero, ih, List.append_assoc]
          rfl

/-- Verbs between escaped texts take the arguments in their order. -/
theorem fill_segments (first : String) (segments : List (Verb × String))
    (arguments : List Argument) :
    fill (escape first ++ String.join (segments.map fun (verb, text) => verb.write ++ escape text))
        arguments =
      first ++ String.join (segments.mapIdx fun index (verb, text) =>
        (arguments[index]?).elim verb.write Argument.write ++ text) := by
  apply String.toList_injective
  have joined : (String.join (segments.map fun (verb, text) => verb.write ++ escape text)).toList =
      segments.flatMap fun (verb, text) => verb.characters ++ escapeCharacters text.toList := by
    simp [String.toList_join, List.flatMap_map, Verb.write, escape]
  rw [toList_fill, String.toList_append, joined, escape, String.toList_ofList, pieces_escape,
    substitute_append, substitute_literals, countP_literals, List.drop_zero, substitute_segments,
    String.toList_append]

/-- A doubled sign in front of a template is one sign. -/
theorem fill_doubled (after : String) (arguments : List Argument) :
    fill ("%%" ++ after) arguments = "%" ++ fill after arguments := by
  apply String.toList_injective
  rw [toList_fill, String.toList_append, String.toList_append, toList_fill]
  rfl

/-- A lone sign in front of a template stays. -/
theorem fill_lone {after : String} (alone : LeavesAlone after.toList) (arguments : List Argument) :
    fill ("%" ++ after) arguments = "%" ++ fill after arguments := by
  apply String.toList_injective
  rw [toList_fill, String.toList_append, String.toList_append, toList_fill]
  exact congrArg (substitute · _) (pieces_lone alone)

/-- Texts with doubled percent signs come back as they were, and each verb between them gives way to
the argument at its place, or stays if there is none. In any template a sign that is not the second
of two stands for itself with a second sign behind it, and also if no verb follows; what comes
behind is filled on its own, with the arguments that the verbs in front leave. -/
theorem fill_exact :
    (∀ (first : String) (segments : List (Verb × String)) (arguments : List Argument),
      fill
          (escape first ++ String.join (segments.map fun (verb, text) => verb.write ++ escape text))
          arguments =
        first ++ String.join (segments.mapIdx fun index (verb, text) =>
          (arguments[index]?).elim verb.write Argument.write ++ text)) ∧
      ∀ (before after : String) (arguments : List Argument),
        signsAtEnd before.toList % 2 = 0 →
          fill (before ++ "%%" ++ after) arguments =
              fill before arguments ++ "%" ++ fill after (arguments.drop (verbCount before)) ∧
            (LeavesAlone after.toList →
              fill (before ++ "%" ++ after) arguments =
                fill before arguments ++ "%" ++ fill after (arguments.drop (verbCount before))) := by
  refine ⟨fill_segments, fun before after arguments paired => ⟨?_, fun alone => ?_⟩⟩
  · rw [String.append_assoc, fill_append paired, fill_doubled, String.append_assoc]
  · rw [String.append_assoc, fill_append paired, fill_lone alone, String.append_assoc]

/-- Neither an argument that looks like a template nor a letter behind a verb is read again, and the
third sign in a row stands alone. -/
theorem fill_exact_ambiguous :
    fill "100%%%%%ss%%%d" [.text "%%d%"] = "100%%%%d%s%%d" ∧
      signsAtEnd "%s%%".toList % 2 = 0 ∧ LeavesAlone "! %d".toList ∧
      fill "%s%%%! %d" [.text "%d", .integer 5] = "%d%%! 5" := by
  obtain ⟨segmented, seam⟩ := fill_exact
  have paired : signsAtEnd "%s%%".toList % 2 = 0 := by decide
  have alone : LeavesAlone "! %d".toList := by
    rintro next ⟨⟩
    decide
  refine ⟨?_, paired, alone, ?_⟩
  · exact segmented "100%%" [(.s, "s%"), (.d, "")] [.text "%%d%"]
  · exact (seam "%s%%" "! %d" [.text "%d", .integer 5] paired).2 alone

end Backplane.Template
