import Backplane.Proofs.Language
import Backplane.Rpc.Negotiation
import Mathlib

namespace Backplane.Rpc

namespace Headers

/-- The usual form of a name is in its usual form. -/
theorem usualName_usualName (name : String) : usualName (usualName name) = usualName name := by
  simp [usualName, Function.comp_def]

variable {headers : Headers} {name : String}

/-- A name that is absent has no text. -/
theorem text?_of_not_has (absent : headers.has name = false) : headers.text? name = none := by
  have none : headers.first? name = none := by simpa [has] using absent
  rw [text?, none, Option.bind_none]

/-- For a name that is not one of bytes, the text of its first value counts. -/
theorem field?_eq_text? (usual : usualName name = name) (plain : isBinaryName name = false) :
    headers.field? name = headers.text? name := by
  rw [field?, usual, plain]
  rfl

/-- A value that is appended to a name without values is its first. -/
theorem first?_append_of_not_has (usual : usualName name = name) (absent : headers.has name = false)
    (value : Bytes) : (headers.append name value).first? name = some value := by
  have none : headers.lookup name = none := by simpa [has, first?] using absent
  rw [first?, append, List.lookup_append, none, usual]
  simp

/-- Appending leaves the headers with other names. -/
theorem filter_append (keeps : String → Bool) (dropped : keeps (usualName name) = false)
    (value : Bytes) :
    (headers.append name value).filter (fun header => keeps header.1) =
      headers.filter fun header => keeps header.1 := by
  simp [append, dropped]

/-- The code of a language is a text. -/
theorem textOf?_bytes_code (language : Language) :
    textOf? (bytes language.code) = some language.code := by
  cases language <;> decide +kernel

end Headers

namespace Negotiation

/-- The first header that is present. -/
def present? (negotiation : Negotiation) (headers : Headers) : Option String :=
  negotiation.names.find? headers.has

/-- The first text among the headers. -/
def readable? (negotiation : Negotiation) (headers : Headers) : Option String :=
  negotiation.names.findSome? headers.text?

/-- What the first present header asks for, or else the usual language. -/
def decided (negotiation : Negotiation) (headers : Headers) : Language :=
  (((negotiation.present? headers).bind headers.text?).bind Language.preferred?).getD
    negotiation.usual

/-- The first present header is no text, and the first text behind it asks for a language other than
the usual one. -/
def Overruled (negotiation : Negotiation) (headers : Headers) (language : Language) : Prop :=
  (∃ name, negotiation.present? headers = some name ∧ headers.text? name = none) ∧
    (∃ text, negotiation.readable? headers = some text ∧
      Language.preferred? text = some language) ∧
    language ≠ negotiation.usual

section Decision

variable {negotiation : Negotiation} {headers : Headers} {name text : String}

/-- If the first present header is a text, then no text stands in front of it. -/
theorem readable?_of_present? (present : negotiation.present? headers = some name)
    (read : headers.text? name = some text) : negotiation.readable? headers = some text := by
  obtain ⟨-, before, after, names, absent⟩ := List.find?_eq_some_iff_append.mp present
  apply List.findSome?_eq_some_iff.mpr
  refine ⟨before, name, after, names, read, fun earlier inside => ?_⟩
  exact Headers.text?_of_not_has (by simpa using absent earlier inside)

/-- Where no name is present, none can be read. -/
theorem readable?_of_not_present (absent : negotiation.present? headers = none) :
    negotiation.readable? headers = none := by
  apply List.findSome?_eq_none_iff.mpr
  intro name inside
  exact Headers.text?_of_not_has (by simpa using List.find?_eq_none.mp absent name inside)

/-- The first name that is present decides by its text. -/
theorem decided_of_text (present : negotiation.present? headers = some name)
    (read : headers.text? name = some text) :
    negotiation.decided headers = (Language.preferred? text).getD negotiation.usual := by
  rw [decided, present, Option.bind_some, read, Option.bind_some]

/-- Without a text it decides for the usual language. -/
theorem decided_of_unreadable (present : negotiation.present? headers = some name)
    (unreadable : headers.text? name = none) : negotiation.decided headers = negotiation.usual := by
  rw [decided, present, Option.bind_some, unreadable]
  rfl

/-- A language that overrules is not the one decided for. -/
theorem Overruled.ne_decided {language : Language}
    (overruled : negotiation.Overruled headers language) :
    language ≠ negotiation.decided headers := by
  obtain ⟨⟨name, present, unreadable⟩, -, other⟩ := overruled
  rwa [decided_of_unreadable present unreadable]

/-- What is noted comes from the first text, and that is the first present header unless this is
overruled. -/
theorem preferred_readable_eq_decided
    (stands : ∀ language, ¬negotiation.Overruled headers language) :
    ((negotiation.readable? headers).bind Language.preferred?).getD negotiation.usual =
      negotiation.decided headers := by
  cases present : negotiation.present? headers with
  | none =>
      rw [decided, present, readable?_of_not_present present]
      rfl
  | some name =>
      cases read : headers.text? name with
      | some text =>
          rw [decided_of_text present read, readable?_of_present? present read, Option.bind_some]
      | none =>
          rw [decided_of_unreadable present read]
          cases found : negotiation.readable? headers with
          | none => rfl
          | some text =>
              cases asked : Language.preferred? text with
              | none => simp [asked]
              | some language =>
                  -- A later text may still ask for the usual language, which changes nothing.
                  by_contra other
                  have differs : language ≠ negotiation.usual := by simpa [asked] using other
                  exact stands language ⟨⟨name, present, read⟩, ⟨text, found, asked⟩, differs⟩

end Decision

section Noted

variable {header : String} {usual : Language}

/-- The names of a negotiation are in lower case, and none is one of bytes unless the given one is.
-/
theorem findSome?_field?_eq_readable?
    (plain : Headers.isBinaryName (Headers.usualName header) = false) (headers : Headers) :
    (new header usual).names.findSome? headers.field? = (new header usual).readable? headers := by
  have first :
      headers.field? (Headers.usualName header) = headers.text? (Headers.usualName header) :=
    Headers.field?_eq_text? (Headers.usualName_usualName header) plain
  have second : headers.field? "language" = headers.text? "language" :=
    Headers.field?_eq_text? (by decide) (by decide +kernel)
  have third : headers.field? "lang" = headers.text? "lang" :=
    Headers.field?_eq_text? (by decide) (by decide +kernel)
  simp only [readable?, names, new, List.findSome?_cons, List.findSome?_nil, first, second, third]

/-- The language is that of the first name that can be read. -/
theorem resolve_eq (plain : Headers.isBinaryName (Headers.usualName header) = false)
    (headers : Headers) :
    (new header usual).resolve headers =
      (((new header usual).readable? headers).bind Language.preferred?).getD usual := by
  rw [resolve, findSome?_field?_eq_readable? plain]
  rfl

end Noted

/-- The first present header decides on the language of a call, whatever the others say, unless it
is no text and a later header asks for a language other than the usual one: then that is noted. -/
theorem first_header_decides_iff (header : String) (usual : Language)
    (plain : Headers.isBinaryName (Headers.usualName header) = false) :
    (∀ metadata : Metadata,
      ((new header usual).apply metadata).language =
          some ((new header usual).decided metadata.headers) ↔
        ∀ language, ¬(new header usual).Overruled metadata.headers language) ∧
    (∀ (metadata : Metadata) (language : Language),
      (new header usual).Overruled metadata.headers language →
        ((new header usual).apply metadata).language = some language) ∧
    ∀ (metadata other : Metadata) (name text : String),
      (new header usual).present? metadata.headers = some name →
      (new header usual).present? other.headers = some name →
      metadata.headers.text? name = some text → other.headers.text? name = some text →
        ((new header usual).apply metadata).language =
          ((new header usual).apply other).language := by
  have noted (metadata : Metadata) : ((new header usual).apply metadata).language =
      some ((((new header usual).readable? metadata.headers).bind Language.preferred?).getD
        usual) :=
    congrArg some (resolve_eq plain metadata.headers)
  have instead (metadata : Metadata) (language : Language)
      (overruled : (new header usual).Overruled metadata.headers language) :
      ((new header usual).apply metadata).language = some language := by
    obtain ⟨-, ⟨text, found, asked⟩, -⟩ := overruled
    rw [noted, found, Option.bind_some, asked]
    rfl
  refine ⟨fun metadata => ⟨?_, ?_⟩, instead, ?_⟩
  · intro same language overruled
    rw [instead metadata language overruled] at same
    exact overruled.ne_decided (Option.some.inj same)
  · intro stands
    rw [noted]
    exact congrArg some (preferred_readable_eq_decided stands)
  · intro metadata other name text present also read alike
    rw [noted, noted, readable?_of_present? present read, readable?_of_present? also alike]

/-- A call with a first header whose language is not supported, and a second one that counts for
nothing. -/
def german : Metadata :=
  { headers := [("x-locale", Headers.bytes "de"), ("lang", Headers.bytes "zh")] }

/-- The first header names a language that is not supported. -/
theorem first_header_decides_iff_german :
    Headers.isBinaryName (Headers.usualName "X-Locale") = false ∧
      ((new "X-Locale" .korean).apply german).language = some .korean := by
  have plain : Headers.isBinaryName (Headers.usualName "X-Locale") = false := by decide +kernel
  have present : (new "X-Locale" .korean).present? german.headers = some "x-locale" := by
    decide +kernel
  have read : german.headers.text? "x-locale" = some "de" := by decide +kernel
  have stands : ∀ language, ¬(new "X-Locale" .korean).Overruled german.headers language := by
    rintro language ⟨⟨name, first, unreadable⟩, -⟩
    obtain rfl := Option.some.inj (present.symm.trans first)
    rw [read] at unreadable
    cases unreadable
  refine ⟨plain, ?_⟩
  rw [((first_header_decides_iff "X-Locale" .korean plain).1 german).mpr stands,
    decided_of_text present read]
  decide +kernel

/-- A call whose first header is a byte that is no text. -/
def garbled : Metadata :=
  { headers := [("accept-language", [0xFF]), ("language", Headers.bytes "ja")] }

/-- The second header decides on such a call. -/
theorem unreadable_header_passed_over :
    (new "accept-language" .korean).present? garbled.headers = some "accept-language" ∧
      (new "accept-language" .korean).decided garbled.headers = .korean ∧
      ((new "accept-language" .korean).apply garbled).language = some .japanese := by
  decide +kernel

section Advertised

variable {metadata : Metadata} {language : Language}

/-- The name of the preferences is in its usual form. -/
theorem usualName_preferenceName : Headers.usualName preferenceName = preferenceName := by decide

/-- Preferences that are there already stay. -/
theorem advertise_of_has (has : metadata.headers.has preferenceName = true) :
    advertise language metadata = metadata := if_pos has

/-- Where there are no preferences, the language is appended. -/
theorem headers_advertise_of_not_has (absent : metadata.headers.has preferenceName = false) :
    (advertise language metadata).headers =
      metadata.headers.append preferenceName (Headers.bytes language.code) := by
  rw [advertise, absent]
  rfl

/-- Preferences are there afterwards in any case. -/
theorem has_advertise (language : Language) (metadata : Metadata) :
    (advertise language metadata).headers.has preferenceName = true := by
  cases present : metadata.headers.has preferenceName with
  | true => rwa [advertise_of_has present]
  | false =>
      rw [Headers.has, headers_advertise_of_not_has present,
        Headers.first?_append_of_not_has usualName_preferenceName present]
      rfl

/-- The server finds the language that is asked for, whatever else the call holds. -/
theorem resolve_advertise {header : String} {usual : Language}
    (named : Headers.usualName header = preferenceName)
    (absent : metadata.headers.has preferenceName = false) :
    (new header usual).resolve (advertise language metadata).headers = language := by
  have plain : Headers.isBinaryName preferenceName = false := by decide +kernel
  have found :
      (advertise language metadata).headers.field? preferenceName = some language.code := by
    rw [Headers.field?_eq_text? usualName_preferenceName plain, Headers.text?,
      headers_advertise_of_not_has absent,
      Headers.first?_append_of_not_has usualName_preferenceName absent, Option.bind_some,
      Headers.textOf?_bytes_code]
  have asked : Language.preferred? language.code = some language := by cases language <;> decide
  simp [resolve, names, new, named, found, asked]

end Advertised

/-- A call that asks for no language is given the one of its client, and the server finds this one.
A call that asks for a language goes out as it is. Neither side changes anything else, and the first
client that asks for a language is the only one. -/
theorem advertised_language_agrees (metadata : Metadata) (language usual : Language)
    (header : String) (named : Headers.usualName header = preferenceName) :
    (metadata.headers.has preferenceName = false →
      ((new header usual).apply (advertise language metadata)).language = some language) ∧
    (metadata.headers.has preferenceName = true →
      advertise language metadata = metadata ∧
        (new header usual).apply (advertise language metadata) =
          (new header usual).apply metadata) ∧
    (advertise language metadata).headers.filter (fun entry => entry.1 ≠ preferenceName) =
      metadata.headers.filter (fun entry => entry.1 ≠ preferenceName) ∧
    { advertise language metadata with headers := metadata.headers } = metadata ∧
    { (new header usual).apply metadata with language := metadata.language } = metadata ∧
    ∀ other, advertise other (advertise language metadata) = advertise language metadata := by
  refine ⟨fun absent => congrArg some (resolve_advertise named absent),
    fun has => ⟨advertise_of_has has, by rw [advertise_of_has has]⟩, ?_, ?_, rfl,
    fun _ => advertise_of_has (has_advertise language metadata)⟩
  · cases present : metadata.headers.has preferenceName with
    | true => rw [advertise_of_has present]
    | false =>
        rw [headers_advertise_of_not_has present]
        exact Headers.filter_append (fun name => name ≠ preferenceName) (by decide) _
  · rw [advertise]
    split <;> rfl

/-- A call whose other headers ask for other languages. -/
def divided : Metadata :=
  { headers := [("language", Headers.bytes "ko"), ("lang", [0xFF])] }

/-- A header with another case, and other headers that name languages. -/
theorem advertised_language_agrees_divided :
    Headers.usualName "Accept-Language" = preferenceName ∧
      ((new "Accept-Language" .english).apply (advertise .japanese divided)).language =
        some .japanese := by
  have named : Headers.usualName "Accept-Language" = preferenceName := by decide
  exact ⟨named, (advertised_language_agrees divided .japanese .english _ named).1 (by decide)⟩

end Negotiation

end Backplane.Rpc
