import Backplane.Proofs.Text.Fields
import Backplane.Rpc.Endpoint

namespace Backplane.Rpc

/-- What stands behind the name of a scheme. -/
def schemeMark : List Char := "://".toList

/-- A text that begins with a scheme, in letters of either case. -/
def Begins (scheme : String) (text : List Char) : Prop :=
  scheme.toList ++ schemeMark <+: text.map Char.toLower

instance (scheme : String) (text : List Char) : Decidable (Begins scheme text) :=
  inferInstanceAs (Decidable (_ <+: _))

namespace Uri

/-- The schemes that are known by name. -/
def usualSchemes : List String := ["http", "https"]

variable {scheme : String} {text rest : List Char} {found : Option String}

/-- A text begins with a scheme if its first characters do, whatever their case. -/
theorem begins_iff_take : Begins scheme text ↔
    (text.take (scheme.length + 3)).map Char.toLower = scheme.toList ++ "://".toList := by
  have size : (scheme.toList ++ schemeMark).length = scheme.length + 3 := by
    rw [List.length_append, String.length_toList, schemeMark]
    rfl
  rw [Begins, List.prefix_iff_eq_take, size, List.map_take, eq_comm, schemeMark]

/-- No text begins with both of the usual schemes. -/
theorem not_begins_https (plain : Begins "http" text) : ¬Begins "https" text := by
  intro secure
  have inside := List.prefix_of_prefix_length_le plain secure (by decide)
  exact absurd inside (by decide)

/-- A text begins with the scheme that stands in front of the mark. -/
theorem begins_append (usual : scheme ∈ usualSchemes) (rest : List Char) :
    Begins scheme (scheme.toList ++ schemeMark ++ rest) := by
  have lower : ∀ scheme ∈ usualSchemes,
      (scheme.toList ++ schemeMark).map Char.toLower = scheme.toList ++ schemeMark := by decide
  rw [Begins, List.map_append, lower scheme usual]
  exact List.prefix_append _ _

/-- The plain scheme is split off. -/
theorem splitScheme?_http (plain : Begins "http" text) :
    splitScheme? text = some (some "http", text.drop 7) := by
  unfold splitScheme?
  simp only [decide_eq_true_eq, ← begins_iff_take, if_pos plain]

/-- The secure scheme is split off. -/
theorem splitScheme?_https (secure : Begins "https" text) :
    splitScheme? text = some (some "https", text.drop 8) := by
  have plain : ¬Begins "http" text := fun plain => not_begins_https plain secure
  unfold splitScheme?
  simp only [decide_eq_true_eq, ← begins_iff_take, if_neg plain, if_pos secure]

/-- Any other scheme stands in the text as it is. -/
theorem splitScheme?_other (plain : ¬Begins "http" text) (secure : ¬Begins "https" text)
    (split : splitScheme? text = some (some scheme, rest)) :
    ∃ behind, text = scheme.toList ++ schemeMark ++ behind := by
  unfold splitScheme? at split
  simp only [decide_eq_true_eq, ← begins_iff_take, if_neg plain, if_neg secure] at split
  obtain ⟨after, whole⟩ := List.takeWhile_prefix (p := isSchemeCharacter) (l := text)
  generalize text.takeWhile isSchemeCharacter = name at split whole
  subst whole
  rw [List.drop_left] at split
  split at split
  next marked =>
      obtain ⟨behind, rfl⟩ : schemeMark <+: after := by
        simpa [schemeMark] using (Bool.and_eq_true_iff.mp marked).2
      split at split
      next => cases split
      next =>
        obtain ⟨rfl, -⟩ : String.ofList name = scheme ∧ _ := by simpa using split
        exact ⟨behind, by rw [String.toList_ofList, List.append_assoc]⟩
  next => cases split

/-- A usual scheme is found exactly if the text begins with it. -/
theorem splitScheme?_eq_some_iff (usual : scheme ∈ usualSchemes)
    (split : splitScheme? text = some (found, rest)) :
    found = some scheme ↔ Begins scheme text := by
  -- The two are tried in turn, before any other scheme is looked for.
  have known : scheme = "http" ∨ scheme = "https" := List.mem_pair.mp usual
  by_cases plain : Begins "http" text
  · obtain ⟨rfl, -⟩ : some "http" = found ∧ _ := by simpa [splitScheme?_http plain] using split
    obtain rfl | rfl := known
    · simp [plain]
    · simp [not_begins_https plain]
  · by_cases secure : Begins "https" text
    · obtain ⟨rfl, -⟩ : some "https" = found ∧ _ := by
        simpa [splitScheme?_https secure] using split
      obtain rfl | rfl := known
      · simp [plain]
      · simp [secure]
    · have other : ¬Begins scheme text := by obtain rfl | rfl := known <;> assumption
      simp only [other, iff_false]
      rintro rfl
      obtain ⟨behind, rfl⟩ := splitScheme?_other plain secure split
      exact other (begins_append usual behind)

/-- The scheme of an address is the one in front of its text; a path alone has none. -/
theorem scheme_of_parse? {text : String} {uri : Uri} (parsed : parse? text = some uri) :
    (uri.scheme = none ∧ ∃ rest, text.toList = '*' :: rest ∨ text.toList = '/' :: rest) ∨
      ∃ rest, splitScheme? text.toList = some (uri.scheme, rest) := by
  unfold parse? at parsed
  split at parsed
  next => cases parsed
  next =>
    split at parsed
    next => cases parsed
    next whole =>
        cases parsed
        exact .inl ⟨rfl, [], .inl whole⟩
    next rest whole =>
        obtain ⟨parts, -, rfl⟩ := Option.map_eq_some_iff.mp parsed
        exact .inl ⟨rfl, rest, .inr whole⟩
    next =>
        -- All that is read behind the scheme leaves it as it was found.
        obtain ⟨⟨found, rest⟩, split, continues⟩ := Option.bind_eq_some_iff.mp parsed
        refine .inr ⟨rest, ?_⟩
        rw [split]
        dsimp only at continues
        split at continues
        next => cases continues
        next =>
          split at continues
          next =>
            split at continues
            next => cases continues; rfl
            next => cases continues
          next =>
            split at continues
            next => cases continues
            next =>
              obtain ⟨parts, -, made⟩ := Option.bind_eq_some_iff.mp continues
              cases made
              rfl

/-- An address that is read has a usual scheme exactly if its text begins with it. -/
theorem scheme_eq_some_iff (usual : scheme ∈ usualSchemes) {text : String} {uri : Uri}
    (parsed : parse? text = some uri) :
    uri.scheme = some scheme ↔ Begins scheme text.toList := by
  obtain ⟨absent, rest, whole⟩ | ⟨rest, split⟩ := scheme_of_parse? parsed
  · have other : ¬Begins scheme text.toList := by
      intro begins
      obtain rfl | rfl := List.mem_pair.mp usual <;> obtain whole | whole := whole <;>
        rw [whole] at begins <;>
        exact absurd (List.cons_prefix_cons.mp begins).1 (by decide)
    simp [absent, other]
  · exact splitScheme?_eq_some_iff usual split

end Uri

variable {target : String}

/-- A target that holds the mark of a scheme is taken as it is. -/
theorem completeTarget_of_marked (marked : schemeMark <:+: target.toList) (secure : Bool) :
    completeTarget target secure = target :=
  if_pos (Text.isSome_cutFirst?_iff.mpr marked)

/-- A target without a scheme begins with the one that it is given. -/
theorem begins_completeTarget (bare : ¬schemeMark <:+: target.toList) (secure : Bool) :
    Begins (if secure then "https" else "http") (completeTarget target secure).toList := by
  have completed : completeTarget target secure =
      (if secure then "https://" else "http://") ++ target :=
    if_neg (mt Text.isSome_cutFirst?_iff.mp bare)
  rw [completed]
  have plain : "http" ∈ Uri.usualSchemes := by decide
  have secured : "https" ∈ Uri.usualSchemes := by decide
  cases secure with
  | false => simpa [schemeMark] using Uri.begins_append plain target.toList
  | true => simpa [schemeMark] using Uri.begins_append secured target.toList

namespace Endpoint

variable {files : Files} {sound : Soundness} {settings : Settings.Client} {endpoint : Endpoint}

/-- There are settings of encryption exactly if it is asked for. -/
theorem isSome_security? : (security? settings).isSome = Settings.tlsEnabled settings.tls := by
  rw [security?, Settings.tlsEnabled]
  cases settings.tls <;> simp [Option.isSome_filter]

/-- What secures an endpoint: nothing if the settings do not enable it, else credentials that have
been read and fit the address. -/
def Secured (files : Files) (sound : Soundness) (settings : Settings.Client)
    (endpoint : Endpoint) : Prop :=
  match security? settings with
  | none => endpoint.credentials = none
  | some tls => ∃ credentials, Credentials.forClient files tls = .ok credentials ∧
      sound credentials endpoint.uri = true ∧ endpoint.credentials = some credentials

/-- An endpoint that is built has the address of its target and what its settings ask for. -/
theorem of_build (built : build files sound settings = .ok endpoint) :
    Uri.parse? (completeTarget settings.target (Settings.tlsEnabled settings.tls)) =
        some endpoint.uri ∧ endpoint.Secured files sound settings := by
  rw [← isSome_security?, Secured]
  unfold build at built
  dsimp only at built
  split at built
  next => cases built
  next uri parsed =>
      split at built
      next absent =>
          cases built
          rw [absent] at parsed ⊢
          exact ⟨parsed, rfl⟩
      next tls enabled =>
          rw [enabled] at parsed ⊢
          obtain ⟨credentials, read⟩ :
              ∃ credentials, Credentials.forClient files tls = .ok credentials := by
            cases read : Credentials.forClient files tls with
            | error fault =>
                rw [read] at built
                cases built
            | ok credentials => exact ⟨credentials, rfl⟩
          rw [read] at built
          change (if _ then Except.ok _ else Except.error _) = _ at built
          split at built
          next fits =>
              cases built
              exact ⟨parsed, credentials, read, fits, rfl⟩
          next => cases built

/-- Nothing more is needed to build one. -/
theorem build_of_secured
    (parsed : Uri.parse? (completeTarget settings.target (Settings.tlsEnabled settings.tls)) =
      some endpoint.uri) (secured : endpoint.Secured files sound settings) :
    build files sound settings = .ok endpoint := by
  obtain ⟨uri, carried⟩ := endpoint
  rw [← isSome_security?] at parsed
  rw [Secured] at secured
  cases enabled : security? settings with
  | none =>
      rw [enabled] at parsed secured
      obtain rfl : carried = none := secured
      simp only [build, enabled, parsed]
      rfl
  | some tls =>
      rw [enabled] at parsed secured
      obtain ⟨credentials, read, fits, rfl⟩ := secured
      simp only [build, enabled, parsed, read]
      exact if_pos fits

/-- An endpoint is built exactly if its address is that of the completed target and it is secured
as the settings say. -/
theorem build_eq_ok_iff : build files sound settings = .ok endpoint ↔
    Uri.parse? (completeTarget settings.target (Settings.tlsEnabled settings.tls)) =
        some endpoint.uri ∧ endpoint.Secured files sound settings :=
  ⟨of_build, fun made => build_of_secured made.1 made.2⟩

/-- A target without a scheme is connected to with encryption if the settings enable it, and
without it if they do not. A target with a scheme is taken as it is, so the connection is encrypted
exactly if the target says so itself. Whatever the target, an endpoint of settings that enable
encryption has credentials, which have been read and fit the address. -/
theorem encrypted_as_settings_or_target_say (files : Files) (sound : Soundness)
    (settings : Settings.Client) (endpoint : Endpoint)
    (built : build files sound settings = .ok endpoint) :
    (¬schemeMark <:+: settings.target.toList →
      (Settings.tlsEnabled settings.tls = true → endpoint.isEncrypted = true) ∧
        (Settings.tlsEnabled settings.tls = false → endpoint.uri.scheme = some "http")) ∧
    (schemeMark <:+: settings.target.toList →
      Uri.parse? settings.target = some endpoint.uri ∧
        (endpoint.isEncrypted = true ↔ Begins "https" settings.target.toList)) ∧
    endpoint.Secured files sound settings := by
  obtain ⟨parsed, secured⟩ := build_eq_ok_iff.mp built
  refine ⟨fun bare => ⟨fun enabled => ?_, fun disabled => ?_⟩, fun marked => ?_, secured⟩
  · have begins := begins_completeTarget bare (Settings.tlsEnabled settings.tls)
    rw [enabled] at begins parsed
    exact decide_eq_true ((Uri.scheme_eq_some_iff (by decide) parsed).mpr begins)
  · have begins := begins_completeTarget bare (Settings.tlsEnabled settings.tls)
    rw [disabled] at begins parsed
    exact (Uri.scheme_eq_some_iff (by decide) parsed).mpr begins
  · rw [completeTarget_of_marked marked] at parsed
    rw [isEncrypted, decide_eq_true_eq]
    exact ⟨parsed, Uri.scheme_eq_some_iff (by decide) parsed⟩

/-- A client that enables encryption and names its server. -/
def guarded (target : String) : Settings.Client :=
  { target, tls := some { enabled := true, serverName := "billing.internal" } }

/-- One server behind a target without a scheme and behind one that has it. -/
theorem encrypted_as_settings_or_target_say_guarded :
    let sound : Soundness := fun credentials uri =>
      credentials.identity.isNone && !uri.authority.isEmpty
    let endpoint : Endpoint :=
      { uri := { scheme := some "https", authority := "billing:443" },
        credentials := some { serverName := some "billing.internal" } }
    build ⟨[]⟩ sound (guarded "billing:443") = .ok endpoint ∧
      build ⟨[]⟩ sound (guarded "HTTPS://billing:443") = .ok endpoint ∧
      ¬schemeMark <:+: (guarded "billing:443").target.toList ∧
      schemeMark <:+: (guarded "HTTPS://billing:443").target.toList ∧
      endpoint.isEncrypted = true ∧
      Begins "https" (guarded "HTTPS://billing:443").target.toList := by
  intro sound endpoint
  have bare : build ⟨[]⟩ sound (guarded "billing:443") = .ok endpoint := rfl
  have marked : build ⟨[]⟩ sound (guarded "HTTPS://billing:443") = .ok endpoint := rfl
  have lacks : ¬schemeMark <:+: (guarded "billing:443").target.toList := by decide +kernel
  have holds : schemeMark <:+: (guarded "HTTPS://billing:443").target.toList := by decide +kernel
  obtain ⟨settingsSay, -, -⟩ := encrypted_as_settings_or_target_say ⟨[]⟩ sound _ endpoint bare
  obtain ⟨-, targetSays, -⟩ := encrypted_as_settings_or_target_say ⟨[]⟩ sound _ endpoint marked
  have encrypted := (settingsSay lacks).1 rfl
  exact ⟨bare, marked, lacks, holds, encrypted, (targetSays holds).2.mp encrypted⟩

/-- A target that says that there is no encryption is connected to without it, although the
settings enable it. -/
theorem plain_target_stays_plain :
    let settings : Settings.Client := { target := "http://svc:80", tls := some { enabled := true } }
    let endpoint : Endpoint :=
      { uri := { scheme := some "http", authority := "svc:80" }, credentials := some {} }
    Settings.tlsEnabled settings.tls = true ∧
      build ⟨[]⟩ (fun _ uri => !uri.authority.isEmpty) settings = .ok endpoint ∧
      endpoint.uri.scheme ≠ some "https" ∧ endpoint.isEncrypted = false :=
  ⟨rfl, rfl, by decide, rfl⟩

end Endpoint

end Backplane.Rpc
