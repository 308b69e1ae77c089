import Backplane.Proofs.Text.Fields
import Backplane.Redis.Address

namespace Backplane.Redis

open Text

variable {scheme rest : List Char}

/-- No end of the mark is also a start of it, so two marks never share a part. -/
theorem schemeMark_isPrefix_of_append {between behind : List Char} (given : between ≠ [])
    (same : between ++ (schemeMark ++ rest) = schemeMark ++ behind) : schemeMark <+: between := by
  match between with
  | [] => exact absurd rfl given
  | [_] | [_, _] => simp [schemeMark] at same
  | first :: second :: third :: others =>
      simp only [schemeMark, String.reduceToList, List.cons_append, List.cons.injEq] at same
      obtain ⟨rfl, rfl, rfl, -⟩ := same
      exact List.prefix_append schemeMark others

/-- The first mark ends a scheme that has none. -/
theorem cutFirst?_schemeMark_eq_some_iff {address : List Char} :
    cutFirst? schemeMark address = some (scheme, rest) ↔
      ¬schemeMark <:+: scheme ∧ address = scheme ++ schemeMark ++ rest := by
  rw [cutFirst?_eq_some_iff, and_comm (a := ¬schemeMark <:+: scheme)]
  refine and_congr_right fun whole => ⟨?_, ?_⟩
  · rintro least ⟨front, behind, inside⟩
    have shorter := least front (behind ++ schemeMark ++ rest) (by simp [whole, ← inside])
    have length := congrArg List.length inside
    have mark : 0 < schemeMark.length := by decide
    simp only [List.length_append] at length
    omega
  · intro absent front behind also
    -- Marks do not overlap, so one further in front would be within the scheme.
    by_contra short
    obtain ⟨between, rfl⟩ : front <+: scheme := by
      have begins : front <+: scheme ++ (schemeMark ++ rest) :=
        ⟨schemeMark ++ behind, by rw [← List.append_assoc, ← List.append_assoc, ← also, whole]⟩
      exact List.prefix_of_prefix_length_le begins (List.prefix_append ..) (by omega)
    have given : between ≠ [] := by
      rintro rfl
      simp at short
    have same : between ++ (schemeMark ++ rest) = schemeMark ++ behind := by
      simpa [whole] using also
    apply absent
    exact (schemeMark_isPrefix_of_append given same).isInfix.trans (List.suffix_append ..).isInfix

/-- A redacted address, in which nothing stands for the user and the password. -/
theorem redact_ofList (absent : ¬schemeMark <:+: scheme) (credentials rest : List Char) :
    redact (String.ofList (scheme ++ schemeMark ++ (credentials ++ '@' :: rest))) =
      String.ofList (scheme ++ schemeMark) ++ "***@" ++
        String.ofList ((afterLast? '@' rest).getD rest) := by
  have cut : cutFirst? schemeMark (scheme ++ schemeMark ++ (credentials ++ '@' :: rest)) =
      some (scheme, credentials ++ '@' :: rest) :=
    cutFirst?_schemeMark_eq_some_iff.mpr ⟨absent, rfl⟩
  simp only [redact, String.toList_ofList, cut, afterLast?_append_cons]

/-- What stands between the scheme and the last sign is hidden. -/
theorem redact_eq {scheme : String} (absent : ¬schemeMark <:+: scheme.toList)
    (credentials rest : String) :
    redact (scheme ++ "://" ++ credentials ++ "@" ++ rest) =
      scheme ++ "://***@" ++ String.ofList ((afterLast? '@' rest.toList).getD rest.toList) := by
  have whole : scheme ++ "://" ++ credentials ++ "@" ++ rest = String.ofList
      (scheme.toList ++ schemeMark ++ (credentials.toList ++ '@' :: rest.toList)) := by
    simp [← String.toList_inj, schemeMark]
  rw [whole, redact_ofList absent]
  simp [← String.toList_inj, schemeMark]

/-- An address is left as it is, or what is left of it is its scheme and its host. -/
theorem redact_eq_self_or (address : String) :
    redact address = address ∨
      ∃ scheme host : String, ¬schemeMark <:+: scheme.toList ∧ '@' ∉ host.toList ∧
        redact address = scheme ++ "://***@" ++ host := by
  rw [redact]
  cases cut : cutFirst? schemeMark address.toList with
  | none => exact .inl rfl
  | some parts =>
      obtain ⟨scheme, rest⟩ := parts
      obtain ⟨absent, -⟩ := cutFirst?_schemeMark_eq_some_iff.mp cut
      cases found : afterLast? '@' rest with
      | none => simp [found]
      | some host =>
          refine .inr ⟨String.ofList scheme, String.ofList host, ?_, ?_, ?_⟩
          · rwa [String.toList_ofList]
          · rw [String.toList_ofList]
            exact not_mem_of_afterLast? found
          · simp [found, ← String.toList_inj, schemeMark]

/-- Hiding twice is hiding once. -/
theorem redact_redact (address : String) : redact (redact address) = redact address := by
  obtain same | ⟨scheme, host, absent, plain, hidden⟩ := redact_eq_self_or address
  · rw [same, same]
  · have whole : scheme ++ "://***@" ++ host = scheme ++ "://" ++ "***" ++ "@" ++ host := by
      simp [← String.toList_inj]
    rw [hidden, whole, redact_eq absent, afterLast?_eq_none_iff.mpr plain, ← whole]
    simp

/-- A redacted address is the same for any two users and passwords, whatever characters these have.
Of an address with one user only the scheme and the host are left, and redacting again changes
nothing. -/
theorem redact_hides_credentials :
    (∀ scheme credentials other rest : String, ¬schemeMark <:+: scheme.toList →
      redact (scheme ++ "://" ++ credentials ++ "@" ++ rest) =
        redact (scheme ++ "://" ++ other ++ "@" ++ rest)) ∧
    (∀ scheme credentials rest : String, ¬schemeMark <:+: scheme.toList → '@' ∉ rest.toList →
      redact (scheme ++ "://" ++ credentials ++ "@" ++ rest) = scheme ++ "://***@" ++ rest) ∧
    ∀ address, redact (redact address) = redact address := by
  refine ⟨fun scheme credentials other rest absent => ?_,
    fun scheme credentials rest absent plain => ?_, redact_redact⟩
  · rw [redact_eq absent, redact_eq absent]
  · rw [redact_eq absent, afterLast?_eq_none_iff.mpr plain, Option.getD_none, String.ofList_toList]

/-- Passwords that hold the signs at which an address is cut. -/
theorem redact_hides_credentials_tricky :
    ¬schemeMark <:+: "redis".toList ∧ '@' ∉ "host:6379/0".toList ∧
      redact "redis://u:p@ss://wörd@host:6379/0" = "redis://***@host:6379/0" ∧
      redact "redis://u:p@ss://wörd@host:6379/0" = redact "redis://@host:6379/0" := by
  have absent : ¬schemeMark <:+: "redis".toList := by decide
  have plain : '@' ∉ "host:6379/0".toList := by decide
  refine ⟨absent, plain, ?_, ?_⟩
  · exact redact_hides_credentials.2.1 "redis" "u:p@ss://wörd" "host:6379/0" absent plain
  · exact redact_hides_credentials.1 "redis" "u:p@ss://wörd" "" "host:6379/0" absent

end Backplane.Redis
