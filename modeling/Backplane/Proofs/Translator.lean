import Backplane.Catalogue
import Backplane.Proofs.Language

namespace Backplane

namespace Messages

open Catalogue

theorem joinKey_empty (name : String) : joinKey "" name = name := rfl

/-- Further down it stands behind a dot. -/
theorem joinKey_of_ne {above : String} (given : above ≠ "") (name : String) :
    joinKey above name = above ++ "." ++ name := by
  simp [joinKey, given]

/-- The names of a path stand with dots between them. -/
theorem foldl_joinKey_of_ne {above : String} (given : above ≠ "") (path : List String) :
    path.foldl joinKey above = ".".intercalate (above :: path) := by
  induction path generalizing above with
  | nil => rw [List.foldl_nil, String.intercalate_singleton]
  | cons name rest ih =>
      have longer : above ++ "." ++ name ≠ "" := by simp [given]
      rw [List.foldl_cons, joinKey_of_ne given, ih longer, String.intercalate_cons_append,
        String.intercalate_cons_cons]

/-- Empty names in front join to nothing. -/
theorem foldl_joinKey_empty (path : List String) : path.foldl joinKey "" = pathKey path := by
  induction path with
  | nil => rfl
  | cons name rest ih =>
      rw [List.foldl_cons, joinKey_empty]
      by_cases blank : name = ""
      · rw [blank, ih]
        rfl
      · rw [foldl_joinKey_of_ne blank, pathKey, List.dropWhile_cons_of_neg (by simpa using blank)]

/-- The message of a leaf below a key. -/
def entryOf? (above : String) (leaf : List String × Json) : Option (String × String) :=
  let key := leaf.1.foldl joinKey above
  (leafText? key leaf.2).map fun text => (key, text)

mutual

/-- A document is flattened leaf by leaf. -/
theorem flatten_eq (above : String) :
    ∀ document : Json, flatten above document = document.leaves.filterMap (entryOf? above)
  | .object members => by rw [flatten, flattenMembers_eq above members, Json.leaves]
  | .string text => rfl
  | .null | .boolean _ | .integer _ | .float _ | .array _ => by
      by_cases empty : above.isEmpty <;> simp [flatten, Json.leaves, entryOf?, leafText?, empty]

/-- Members are flattened leaf by leaf. -/
theorem flattenMembers_eq (above : String) :
    ∀ members, flattenMembers above members =
      (Json.leavesOfMembers members).filterMap (entryOf? above)
  | [] => rfl
  | (name, value) :: rest => by
      rw [flattenMembers, flatten_eq (joinKey above name) value, flattenMembers_eq above rest,
        Json.leavesOfMembers, List.filterMap_append, List.filterMap_map]
      rfl

end

/-- A key is looked up among the leaves with their paths. -/
theorem lookup_entries (key : String) (leaves : List (List String × Json)) :
    (leaves.filterMap (entryOf? "")).lookup key =
      leaves.findSome? fun (path, leaf) =>
        if pathKey path = key then leafText? key leaf else none := by
  induction leaves with
  | nil => rfl
  | cons leaf rest ih =>
      obtain ⟨path, value⟩ := leaf
      rw [List.findSome?_cons, ← ih, List.filterMap_cons, entryOf?, foldl_joinKey_empty]
      by_cases here : pathKey path = key
      · subst here
        cases text : leafText? (pathKey path) value <;> simp [text]
      · have apart : (key == pathKey path) = false := by simpa using Ne.symm here
        cases leafText? (pathKey path) value <;> simp [here, List.lookup_cons, apart]

/-- The last leaf of a path counts. -/
theorem lookup_flatten (document : Json) (key : String) :
    (flatten "" document).reverse.lookup key = message? document key := by
  rw [flatten_eq, ← List.filterMap_reverse, lookup_entries]
  rfl

/-- Of several messages with one key the last counts, and all count before what was there. -/
theorem getElem?_addAll (messages : Messages) (entries : List (String × String)) (key : String) :
    (messages.addAll entries)[key]? = (entries.reverse.lookup key).or messages[key]? := by
  induction entries generalizing messages with
  | nil => rfl
  | cons entry rest ih =>
      obtain ⟨name, text⟩ := entry
      rw [addAll, List.foldl_cons, ← addAll, ih, Std.TreeMap.getElem?_insert, List.reverse_cons,
        List.lookup_append, Option.or_assoc]
      by_cases here : name = key
      · simp [here]
      · simp [here, Ne.symm here]

/-- A file is read exactly if it is well-formed text that is a document. -/
theorem toOption_readFile (files : Files) (directory : String) (language : Language) :
    (readFile files (Translator.messageFile directory language)).toOption =
      (document? files directory language).map (flatten "") := by
  unfold readFile Files.readText document? Translator.messageFile
  cases files.read (Files.join directory (language.code ++ ".json")) with
  | error failure => rfl
  | ok bytes =>
      simp only [bind, Except.bind, pure, Except.pure, Except.toOption, Option.bind]
      cases Text.ofUtf8? bytes with
      | none => rfl
      | some text => cases found : Json.read text <;> simp [found]

end Messages

namespace Catalogue

variable {catalogue : Catalogue} {files : Files} {directory key : String} {language : Language}

/-- A document that can be read is laid over the catalogue. -/
theorem load_of_some {document : Json}
    (found : document? files directory language = some document) :
    catalogue.load files directory language key =
      (message? document key).or (catalogue language key) := by
  rw [load, found]

/-- A document that cannot be read leaves it as it is. -/
theorem load_of_none (unread : document? files directory language = none) :
    catalogue.load files directory language key = catalogue language key := by
  rw [load, unread]

/-- A directory that is laid over the texts again changes nothing. -/
theorem load_load (catalogue : Catalogue) (files : Files) (directory : String) :
    (catalogue.load files directory).load files directory = catalogue.load files directory := by
  funext language key
  cases found : document? files directory language with
  | none => rw [load_of_none found]
  | some document =>
      rw [load_of_some found, load_of_some found, ← Option.or_assoc, Option.or_self]

end Catalogue

namespace Translator

open Catalogue

/-- A translator has the texts of a catalogue. -/
def Shows (translator : Translator) (catalogue : Catalogue) : Prop :=
  ∀ language key, (translator.messages language)[key]? = catalogue language key

variable {translator : Translator} {catalogue : Catalogue} {files : Files} {directory : String}

/-- A translator that adds a document shows it. -/
theorem Shows.addFile (shows : translator.Shows catalogue) {language : Language} {document : Json}
    (found : document? files directory language = some document) :
    (translator.addAll language (Messages.flatten "" document)).Shows fun other key =>
      if other = language then catalogue.load files directory other key
      else catalogue other key := by
  intro other key
  by_cases same : other = language
  · subst same
    simp [addAll, Messages.getElem?_addAll, Messages.lookup_flatten, load_of_some found,
      shows other key]
  · simp [addAll, same, shows other key]

/-- What reading the file of the first language does. -/
inductive Reading (translator : Translator) (files : Files) (directory : String)
    (language : Language) (rest : List Language) : Prop
  | added (document : Json) (found : document? files directory language = some document)
      (goesOn : loadEach files directory (language :: rest) translator =
        loadEach files directory rest (translator.addAll language (Messages.flatten "" document)))
  | skipped (unread : document? files directory language = none)
      (needless : language ≠ translator.fallback)
      (goesOn : loadEach files directory (language :: rest) translator =
        loadEach files directory rest translator)
  | failed (unread : document? files directory language = none)
      (needed : language = translator.fallback) (fault : Fault)
      (stops : loadEach files directory (language :: rest) translator = (translator, .error fault))

/-- One language more is read, passed over, or ends the load. -/
theorem reading (translator : Translator) (files : Files) (directory : String) (language : Language)
    (rest : List Language) : translator.Reading files directory language rest := by
  have same := Messages.toOption_readFile files directory language
  cases outcome : Messages.readFile files (messageFile directory language) with
  | ok entries =>
      rw [outcome] at same
      obtain ⟨document, found, rfl⟩ := Option.map_eq_some_iff.mp same.symm
      exact .added document found (by simp only [loadEach, outcome])
  | error fault =>
      rw [outcome] at same
      have unread := Option.map_eq_none_iff.mp same.symm
      by_cases needed : language = translator.fallback
      · refine .failed unread needed (fallbackFault (messageFile directory language) fault) ?_
        simp only [loadEach, outcome, if_pos needed]
      · refine .skipped unread needed ?_
        simp only [loadEach, outcome, if_neg needed]

/-- A load goes well if the fallback language can be read, where it is asked for. -/
theorem loadEach_ok_iff (languages : List Language) :
    (loadEach files directory languages translator).2 = .ok () ↔
      (translator.fallback ∈ languages →
        (document? files directory translator.fallback).isSome) := by
  induction languages generalizing translator with
  | nil => simp [loadEach]
  | cons language rest ih =>
      cases translator.reading files directory language rest with
      | added document found goesOn =>
          rw [goesOn, ih]
          -- If this is the fallback, it can be read wherever it comes again.
          by_cases first : translator.fallback = language
          · have isRead : (document? files directory translator.fallback).isSome := by
              rw [first, found, Option.isSome_some]
            exact ⟨fun _ _ => isRead, fun _ _ => isRead⟩
          · simp [addAll, first]
      | skipped unread needless goesOn =>
          rw [goesOn, ih]
          simp [Ne.symm needless]
      | failed unread needed fault stops =>
          rw [stops]
          simp [← needed, unread]

/-- Loading changes neither the language nor the fallback. -/
theorem settings_loadEach (languages : List Language) :
    (loadEach files directory languages translator).1.language = translator.language ∧
      (loadEach files directory languages translator).1.fallback = translator.fallback := by
  induction languages generalizing translator with
  | nil => exact ⟨rfl, rfl⟩
  | cons language rest ih =>
      cases translator.reading files directory language rest with
      | added document found goesOn =>
          rw [goesOn]
          exact ih
      | skipped unread needless goesOn =>
          rw [goesOn]
          exact ih
      | failed unread needed fault stops =>
          rw [stops]
          exact ⟨rfl, rfl⟩

/-- Every file that can be read is laid over the texts of its language. -/
theorem Shows.loadEach (shows : translator.Shows catalogue) (languages : List Language)
    (done : (loadEach files directory languages translator).2 = .ok ()) :
    (loadEach files directory languages translator).1.Shows fun language key =>
      if language ∈ languages then catalogue.load files directory language key
      else catalogue language key := by
  -- Both sides move on with every file, so the induction keeps both general.
  induction languages generalizing translator catalogue with
  | nil => simpa [Translator.loadEach] using shows
  | cons head rest ih =>
      cases translator.reading files directory head rest with
      | added document found goesOn =>
          rw [goesOn] at done ⊢
          have added := ih (shows.addFile found) done
          intro language key
          rw [added language key]
          -- Where the language comes again, the same file is laid over its own texts.
          by_cases first : language = head
          · subst first
            simp [load_of_some found, ← Option.or_assoc]
          · simp [first, Catalogue.load]
      | skipped unread needless goesOn =>
          rw [goesOn] at done ⊢
          intro language key
          rw [ih shows done language key]
          by_cases first : language = head
          · subst first
            simp [load_of_none unread]
          · simp [first]
      | failed unread needed fault stops =>
          rw [stops] at done
          simp at done

/-- A load goes well exactly if the fallback language can be read. -/
theorem load_ok_iff :
    (translator.load files directory).2 = .ok () ↔
      (document? files directory translator.fallback).isSome := by
  rw [load, loadEach_ok_iff, imp_iff_right (Language.mem_all _)]

/-- After a load that went well a translator shows what the files hold. -/
theorem Shows.load (shows : translator.Shows catalogue)
    (done : (translator.load files directory).2 = .ok ()) :
    (translator.load files directory).1.Shows (catalogue.load files directory) := by
  rw [Translator.load] at done ⊢
  intro language key
  exact (shows.loadEach Language.all done language key).trans
    (if_pos (Language.mem_all language))

/-- A new translator shows an empty catalogue. -/
theorem shows_new (language fallback : Language) :
    ((new language).withFallback fallback).Shows Catalogue.empty :=
  fun _ _ => Std.TreeMap.getElem?_emptyc

/-- Every call that succeeds does to the texts what it does to the catalogue. -/
theorem Shows.step (shows : translator.Shows catalogue) (call : Call)
    (done : (translator.step call).2 = .ok ()) :
    (translator.step call).1.Shows (catalogue.step call) := by
  cases call with
  | insert language key text =>
      intro other name
      by_cases same : other = language
      · subst same
        by_cases here : name = key <;>
          simp [Translator.step, Translator.insert, addAll, Messages.getElem?_addAll,
            Catalogue.step, Catalogue.set, here, shows other name]
      · simp [Translator.step, Translator.insert, addAll, Catalogue.step, Catalogue.set, same,
          shows other name]
  | setLanguage language => exact shows
  | load files directory => exact shows.load done

/-- A translator shows its catalogue after every run that went well. -/
theorem Shows.run (shows : translator.Shows catalogue) (calls : List Call)
    (done : ∀ result ∈ (translator.run calls).2, result = .ok ()) :
    (translator.run calls).1.Shows (calls.foldl Catalogue.step catalogue) := by
  induction calls generalizing translator catalogue with
  | nil => exact shows
  | cons call calls ih =>
      have first := done _ (List.mem_cons_self ..)
      exact ih (shows.step call first)
        fun result later => done result (List.mem_cons_of_mem _ later)

/-- A call may change the language and never the fallback. -/
theorem settings_step (translator : Translator) (call : Call) :
    (translator.step call).1.language = (setBy? call).getD translator.language ∧
      (translator.step call).1.fallback = translator.fallback := by
  cases call with
  | insert language key text => exact ⟨rfl, rfl⟩
  | setLanguage language => exact ⟨rfl, rfl⟩
  | load files directory =>
      rw [step, load]
      exact settings_loadEach Language.all

/-- The language is that of the last call that set one. -/
theorem lastLanguage_cons (first : Language) (call : Call) (calls : List Call) :
    lastLanguage first (call :: calls) = lastLanguage ((setBy? call).getD first) calls := by
  rw [lastLanguage, List.filterMap_cons]
  cases setBy? call with
  | none => rfl
  | some language => rw [List.getLast?_cons, Option.getD_some, lastLanguage, Option.getD_some]

/-- A run may change the language and never the fallback. -/
theorem settings_run (translator : Translator) (calls : List Call) :
    (translator.run calls).1.language = lastLanguage translator.language calls ∧
      (translator.run calls).1.fallback = translator.fallback := by
  induction calls generalizing translator with
  | nil => exact ⟨rfl, rfl⟩
  | cons call calls ih =>
      obtain ⟨language, fallback⟩ := translator.settings_step call
      obtain ⟨last, kept⟩ := ih (translator.step call).1
      rw [language, ← lastLanguage_cons] at last
      exact ⟨last, kept.trans fallback⟩

/-- A translator has the texts that its catalogue has. -/
theorem Shows.contains_eq (shows : translator.Shows catalogue) (language : Language)
    (key : String) : translator.contains language key = (catalogue language key).isSome := by
  rw [contains, Std.TreeMap.contains_eq_isSome_getElem?, shows language key]

/-- A translator finds a text in its language, or in the fallback language. -/
theorem Shows.find?_eq (shows : translator.Shows catalogue) (language : Language) (key : String) :
    translator.find? language key =
      (catalogue language key).or (catalogue translator.fallback key) := by
  rw [find?, shows language key, shows translator.fallback key]
  cases own : catalogue language key with
  | some text => rfl
  | none =>
      by_cases same : language = translator.fallback
      · rw [if_pos same, ← same, own, Option.or_none]
      · rw [if_neg same, Option.none_or]

/-- A translator says what its catalogue says. -/
theorem Shows.translateIn_eq (shows : translator.Shows catalogue) (language : Language)
    (key : String) (arguments : List Template.Argument) :
    translator.translateIn language key arguments =
      catalogue.say translator.fallback language key arguments := by
  rw [translateIn, say, shows.find?_eq]
  cases (catalogue language key).or (catalogue translator.fallback key) with
  | none => rfl
  | some text => cases arguments <;> rfl

/-- Loading twice is loading once. -/
theorem Shows.loadAgain (shows : translator.Shows catalogue) {once : Translator}
    (loaded : translator.load files directory = (once, .ok ())) :
    ∃ twice, once.load files directory = (twice, .ok ()) ∧
      ∀ (language : Language) (key : String),
        (twice.messages language)[key]? = (once.messages language)[key]? := by
  have done : (translator.load files directory).2 = .ok () := by rw [loaded]
  have first := shows.load done
  have kept : (translator.load files directory).1.fallback = translator.fallback := by
    rw [Translator.load]
    exact (settings_loadEach Language.all).2
  rw [loaded] at first kept
  have again : (once.load files directory).2 = .ok () := by
    rw [load_ok_iff] at done ⊢
    rw [kept]
    exact done
  refine ⟨(once.load files directory).1, Prod.ext rfl again, fun language key => ?_⟩
  rw [first.load again language key, load_load, first language key]

theorem isOk_iff (result : Except Fault Unit) : result.isOk ↔ result = .ok () := by
  cases result with
  | ok value => exact ⟨fun _ => rfl, fun _ => rfl⟩
  | error fault => exact ⟨nofun, nofun⟩

/-- After calls that all succeed a translator says what their catalogue says, in the language that
was set last or in any other. Loading a directory succeeds exactly if the file of the fallback
language can be read, and loading it once more changes no text. -/
theorem says_catalogue {language fallback : Language} {calls : List Call}
    {translator : Translator} {results : List (Except Fault Unit)}
    (reached : ((new language).withFallback fallback).run calls = (translator, results))
    (answered : ∀ result ∈ results, result.isOk) :
    (∀ other key, translator.contains other key = (ofCalls calls other key).isSome) ∧
      (∀ other key arguments, translator.translateIn other key arguments =
        (ofCalls calls).say fallback other key arguments) ∧
      (∀ key arguments, translator.translate key arguments =
        (ofCalls calls).say fallback (lastLanguage language calls) key arguments) ∧
      ∀ files directory,
        (translator.load files directory).2.isOk = (document? files directory fallback).isSome ∧
          ofCalls (calls ++ [.load files directory, .load files directory]) =
            ofCalls (calls ++ [.load files directory]) ∧
          ∀ once, translator.load files directory = (once, .ok ()) →
            ∃ twice, once.load files directory = (twice, .ok ()) ∧
              ∀ (other : Language) (key : String),
                (twice.messages other)[key]? = (once.messages other)[key]? := by
  have shows := (shows_new language fallback).run calls (by
    rw [reached]
    exact fun result listed => (isOk_iff result).mp (answered result listed))
  have settings := ((new language).withFallback fallback).settings_run calls
  rw [reached] at shows settings
  obtain ⟨last, kept⟩ := settings
  change translator.language = lastLanguage language calls at last
  change translator.fallback = fallback at kept
  change translator.Shows (ofCalls calls) at shows
  subst kept
  refine ⟨shows.contains_eq, shows.translateIn_eq, fun key arguments => ?_,
    fun files directory => ⟨?_, ?_, fun once loaded => ?_⟩⟩
  · rw [translate, shows.translateIn_eq, last]
  · rw [Bool.eq_iff_iff, isOk_iff, load_ok_iff]
  · simp only [ofCalls, List.foldl_append, List.foldl_cons, List.foldl_nil, Catalogue.step,
      load_load]
  · exact shows.loadAgain loaded

/-- A directory whose file in the fallback language is read last, behind one that is no document. -/
def earlyFiles : Files :=
  .ofList [("m/en.json", "\x7b".toUTF8),
    ("m/ja.json", "\x7b\"user\": \x7b\"hello\": \"Yaa %s\"\x7d\x7d".toUTF8),
    ("m/ko.json", "\x7b\"user\": \x7b\"hello\": \"Annyeong %s\", \"bye\": 7\x7d\x7d".toUTF8)]

/-- The same directory later. -/
def lateFiles : Files :=
  .ofList [("m/ja.json", "\x7b\"user.hello\": \"Konnichiwa %s\"\x7d".toUTF8),
    ("m/ko.json", "null".toUTF8)]

/-- Calls that load a directory, change a text and load the directory as it is later. -/
def reloads : List Call :=
  [.load earlyFiles "m", .insert .japanese "user.hello" "Moshi moshi", .setLanguage .japanese,
    .load lateFiles "m"]

/-- A translator that falls back to the language read last, after these calls. -/
def reloaded : Translator × List (Except Fault Unit) :=
  ((new .english).withFallback .korean).run reloads

/-- A later load lays its texts over those of the first. -/
theorem says_catalogue_reloads :
    (∀ result ∈ reloaded.2, result.isOk) ∧
      reloaded.1.translate "user.hello" [.text "Aki"] = "Konnichiwa Aki" ∧
      reloaded.1.translate "user.bye" [] = "7" := by
  have answered : ∀ result ∈ reloaded.2, result.isOk := by decide +kernel
  obtain ⟨-, -, translated, -⟩ :=
    @says_catalogue .english .korean reloads reloaded.1 reloaded.2 rfl answered
  refine ⟨answered, ?_, ?_⟩
  · rw [translated]
    decide +kernel
  · rw [translated]
    decide +kernel

end Translator

end Backplane
