import Backplane.Proofs.Translator

namespace Backplane.Translator

open Catalogue

/-- The texts that a translator has. -/
def texts (translator : Translator) : Catalogue :=
  fun language key => (translator.messages language)[key]?

/-- The languages whose files are read in front of that of the fallback language. -/
def earlier (translator : Translator) : List Language :=
  Language.all.takeWhile (· ≠ translator.fallback)

variable {translator after : Translator} {files : Files} {directory : String} {fault : Fault}
  {language : Language} {document : Json}

/-- The fallback language is not among those in front of it. -/
theorem fallback_not_mem_earlier : translator.fallback ∉ translator.earlier := by
  intro listed
  have apart := List.all_eq_true.mp List.all_takeWhile _ listed
  simp at apart

/-- A document that can be read is added, and loading goes on. -/
theorem loadEach_of_some (found : document? files directory language = some document)
    (rest : List Language) :
    loadEach files directory (language :: rest) translator =
      loadEach files directory rest
        (translator.addAll language (Messages.flatten "" document)) := by
  cases translator.reading files directory language rest with
  | added other isFound goesOn =>
      obtain rfl : document = other := Option.some.inj (found.symm.trans isFound)
      exact goesOn
  | skipped unread => simp [unread] at found
  | failed unread => simp [unread] at found

/-- A document that cannot be read is passed over unless it is needed. -/
theorem loadEach_of_none (unread : document? files directory language = none)
    (needless : language ≠ translator.fallback) (rest : List Language) :
    loadEach files directory (language :: rest) translator =
      loadEach files directory rest translator := by
  cases translator.reading files directory language rest with
  | added other isFound => simp [unread] at isFound
  | skipped _ _ goesOn => exact goesOn
  | failed _ needed => exact absurd needed needless

/-- The document that is needed ends the load if it cannot be read. -/
theorem loadEach_of_needed (unread : document? files directory translator.fallback = none)
    (rest : List Language) :
    (loadEach files directory (translator.fallback :: rest) translator).1 = translator := by
  cases translator.reading files directory translator.fallback rest with
  | added other isFound => simp [unread] at isFound
  | skipped _ needless => exact absurd rfl needless
  | failed _ _ fault stops => rw [stops]

/-- Where the file of the fallback language cannot be read, only the files in front of it count. -/
theorem loadEach_takeWhile (unread : document? files directory translator.fallback = none)
    (languages : List Language) :
    (loadEach files directory languages translator).1 =
      (loadEach files directory (languages.takeWhile (· ≠ translator.fallback)) translator).1 := by
  induction languages generalizing translator with
  | nil => rfl
  | cons language rest ih =>
      by_cases needed : language = translator.fallback
      · subst needed
        rw [loadEach_of_needed unread, List.takeWhile_cons_of_neg (by simp)]
        rfl
      · rw [List.takeWhile_cons_of_pos (by simpa using needed)]
        cases found : document? files directory language with
        | some document =>
            rw [loadEach_of_some found, loadEach_of_some found]
            exact ih unread
        | none =>
            rw [loadEach_of_none found needed, loadEach_of_none found needed]
            exact ih unread

/-- The texts after a load that fails: those of the files in front are laid over the old ones. -/
theorem texts_of_failed (failed : translator.load files directory = (after, .error fault))
    (language : Language) (key : String) :
    after.texts language key =
      if language ∈ translator.earlier then translator.texts.load files directory language key
      else translator.texts language key := by
  have unread : document? files directory translator.fallback = none := by
    have notOk : ¬(translator.load files directory).2 = .ok () := by simp [failed]
    simpa [load_ok_iff] using notOk
  have first : after = (loadEach files directory translator.earlier translator).1 := by
    rw [earlier, ← loadEach_takeWhile unread, ← load, failed]
  have done : (loadEach files directory translator.earlier translator).2 = .ok () :=
    (loadEach_ok_iff _).mpr fun listed => absurd listed fallback_not_mem_earlier
  have shows : translator.Shows translator.texts := fun _ _ => rfl
  rw [first]
  exact shows.loadEach translator.earlier done language key

/-- A document adds nothing to the texts of a language exactly if they have all its messages. -/
theorem load_eq_iff {catalogue : Catalogue} :
    (∀ key, catalogue.load files directory language key = catalogue language key) ↔
      ∀ document, document? files directory language = some document →
        ∀ key text, message? document key = some text → catalogue language key = some text := by
  cases found : document? files directory language with
  | none => simp [Catalogue.load_of_none found]
  | some document =>
      simp only [Catalogue.load_of_some found, Option.some.injEq, forall_eq']
      constructor
      · intro same key text message
        rw [← same key, message, Option.some_or]
      · intro has key
        cases message : message? document key with
        | none => rw [Option.none_or]
        | some text => rw [Option.some_or, has key text message]

/-- A failed load keeps all texts exactly if those in front of the fallback change none. -/
theorem texts_kept_iff (failed : translator.load files directory = (after, .error fault)) :
    after.texts = translator.texts ↔
      ∀ language ∈ translator.earlier, ∀ key,
        translator.texts.load files directory language key = translator.texts language key := by
  constructor
  · intro kept language listed key
    have laid := texts_of_failed failed language key
    rw [if_pos listed, kept] at laid
    exact laid.symm
  · intro same
    funext language key
    rw [texts_of_failed failed]
    split
    next listed => exact same language listed key
    next => rfl

/-- No language stands in front of the first one. -/
theorem earlier_eq_nil (first : translator.fallback = .english) : translator.earlier = [] := by
  rw [earlier, first]
  rfl

/-- A load that fails lays the files of the languages in front of the fallback language over their
texts and changes no other text, nor the languages that the translator uses. So all texts stay as
they were if and only if those files hold no message that was not there before, and in any case if
the translator falls back to the language that is read first. -/
theorem failed_load_keeps_texts_iff
    (failed : translator.load files directory = (after, .error fault)) :
    (∀ language key, after.texts language key =
        if language ∈ translator.earlier then translator.texts.load files directory language key
        else translator.texts language key) ∧
      after.language = translator.language ∧ after.fallback = translator.fallback ∧
        (after.texts = translator.texts ↔
          ∀ language ∈ translator.earlier, ∀ document,
            document? files directory language = some document →
              ∀ key text, message? document key = some text →
                translator.texts language key = some text) ∧
          (translator.fallback = .english → after.texts = translator.texts) := by
  obtain ⟨language, fallback⟩ :=
    @settings_loadEach translator files directory Language.all
  rw [← load, failed] at language fallback
  refine ⟨texts_of_failed failed, language, fallback, ?_, fun first => ?_⟩
  · rw [texts_kept_iff failed]
    exact forall₂_congr fun language _ => load_eq_iff
  · rw [texts_kept_iff failed, earlier_eq_nil first]
    exact fun _ listed => absurd listed List.not_mem_nil

def lonelyText : String := "\x7b\"a\": \"1\"\x7d"

/-- A directory with a file of the language read first and no other. -/
def lonelyFiles : Files := .ofList [("m/en.json", lonelyText.toUTF8)]

/-- What the only file holds. -/
theorem document?_lonely :
    document? lonelyFiles "m" .english = some (.object [("a", .string "1")]) := by
  have bytes : (lonelyFiles.read (Files.join "m" (Language.english.code ++ ".json"))).toOption =
      some lonelyText.toUTF8 := by decide +kernel
  have text : Text.ofUtf8? lonelyText.toUTF8 = some lonelyText := by decide +kernel
  have isRead : Json.read lonelyText = .ok (.object [("a", .string "1")]) := by rfl
  unfold document?
  rw [bytes, Option.bind_eq_bind, Option.bind_some, text, Option.bind_eq_bind, Option.bind_some,
    isRead]
  rfl

/-- A translator that falls back to a language without a file and has the only message there is. -/
def prepared : Translator := ((new .english).withFallback .japanese).insert .english "a" "1"

/-- The texts that a failed load reads are there already. -/
theorem failed_load_keeps_texts_iff_prepared :
    ∃ after fault, prepared.load lonelyFiles "m" = (after, .error fault) ∧
      after.texts = prepared.texts := by
  have fails : (prepared.load lonelyFiles "m").2.isOk = false := by decide +kernel
  cases outcome : prepared.load lonelyFiles "m" with
  | mk after result =>
      rw [outcome] at fails
      cases result with
      | ok value => cases fails
      | error fault =>
          refine ⟨after, fault, rfl, (failed_load_keeps_texts_iff outcome).2.2.2.1.mpr ?_⟩
          intro language listed document found key text message
          have place : language = .english ∨ language = .chinese := by
            simpa [earlier, prepared, withFallback, insert, addAll, Language.all] using listed
          rcases place with rfl | rfl
          · obtain rfl := Option.some.inj (document?_lonely.symm.trans found)
            obtain ⟨rfl, rfl⟩ : "a" = key ∧ "1" = text := by
              simpa [message?, Json.leaves, Json.leavesOfMembers, pathKey, leafText?] using message
            decide +kernel
          · have absent : (document? lonelyFiles "m" .chinese).isSome = false := by decide +kernel
            simp [found] at absent

/-- Without that message the load fails too, and leaves the message behind. -/
theorem failed_load_adds_texts :
    (((new .english).withFallback .japanese).load lonelyFiles "m").2.isOk = false ∧
      ((new .english).withFallback .japanese).texts .english "a" = none ∧
        (((new .english).withFallback .japanese).load lonelyFiles "m").1.texts .english "a" =
          some "1" := by
  decide +kernel

end Backplane.Translator
