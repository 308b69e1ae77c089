import Backplane.Proofs.Text.Percent
import Backplane.Rpc.Course

namespace Backplane.Rpc

namespace Headers

variable {name other : String}

/-- Where one value of a name is asked for, it is the first of them. -/
theorem first?_eq_head?_values (headers : Headers) (name : String) :
    headers.first? name = (headers.values name).head? := by
  unfold first?
  induction headers with
  | nil => rfl
  | cons header rest ih =>
      obtain ⟨here, value⟩ := header
      rw [List.lookup_cons]
      by_cases same : here = name
      · simp [values, same]
      · have apart : (name == here) = false := by simpa using Ne.symm same
        simpa [values, same, apart] using ih

/-- A value that is put is all that its name has. -/
theorem values_put (headers : Headers) (name : String) (value : Bytes) :
    (headers.put name value).values name = [value] := by
  simp [put, values, List.filter_filter]

/-- A value that is put leaves other names alone. -/
theorem values_put_of_ne (apart : other ≠ name) (headers : Headers) (value : Bytes) :
    (headers.put name value).values other = headers.values other := by
  have kept :
      (headers.filter fun header => header.1 ≠ name).filter (fun header => header.1 = other) =
        headers.filter fun header => header.1 = other := by
    rw [List.filter_filter]
    apply List.filter_congr
    intro header _
    by_cases here : header.1 = other <;> simp [here, apart]
  rw [put, values, List.filter_append, kept, List.filter_cons_of_neg (by simpa using apart.symm)]
  simp [values]

/-- So does one that is put only in some cases. -/
theorem values_ite_put_of_ne {absent : Prop} [Decidable absent] (apart : other ≠ name)
    (headers : Headers) (value : Bytes) :
    (if absent then headers else headers.put name value).values other = headers.values other := by
  split
  · rfl
  · exact values_put_of_ne apart headers value

end Headers

namespace Reply

section Allowed

variable {name : String}

/-- Metadata may say what it likes under a name that is not kept for the status. -/
theorem values_allowed (free : name ∉ reserved) (metadata : Headers) :
    (allowed metadata).values name = metadata.values name := by
  unfold Headers.values allowed
  rw [List.filter_filter]
  congr 1
  apply List.filter_congr
  intro header _
  by_cases here : header.1 = name
  · simp [here, free]
  · simp [here]

/-- It says nothing under the others. -/
theorem values_allowed_of_mem (kept : name ∈ reserved) (metadata : Headers) :
    (allowed metadata).values name = [] := by
  unfold Headers.values allowed
  rw [List.filter_filter, List.map_eq_nil_iff, List.filter_eq_nil_iff]
  rintro header - said
  simp only [Bool.and_eq_true, decide_eq_true_eq, Bool.not_eq_true', List.contains_eq_mem,
    decide_eq_false_iff_not] at said
  exact said.2 (said.1 ▸ kept)

/-- The type of the reply stands under its own name only. -/
theorem values_typed (apart : name ≠ "content-type") (headers : Headers) (value : Bytes) :
    Headers.values (("content-type", value) :: headers) name = headers.values name := by
  rw [Headers.values, List.filter_cons_of_neg (by simpa using apart.symm)]
  rfl

end Allowed

variable (conclusion : Conclusion) {name : String}

/-- The code of a status is under its name, whatever the metadata has there. -/
theorem values_code : (ofConclusion conclusion).headers.values "grpc-status" =
    [Headers.bytes (toString conclusion.code.number)] := by
  unfold ofConclusion
  rw [Headers.values_ite_put_of_ne (by decide), Headers.values_ite_put_of_ne (by decide),
    Headers.values_put]

/-- The message of a status is under its name, unless it is empty. -/
theorem values_message : (ofConclusion conclusion).headers.values "grpc-message" =
    if conclusion.message.isEmpty then []
    else [Headers.bytes (Text.percentEncode conclusion.message)] := by
  unfold ofConclusion
  rw [Headers.values_ite_put_of_ne (by decide)]
  split
  · rw [Headers.values_put_of_ne (by decide), values_typed (by decide),
      values_allowed_of_mem (by decide)]
  · rw [Headers.values_put]

/-- The details of a status are under their name, if there are any. -/
theorem values_details (detailed : conclusion.details ≠ []) :
    (ofConclusion conclusion).headers.values detailsName =
      [Headers.bytes (Text.base64Encode conclusion.details)] := by
  dsimp only [ofConclusion]
  rw [if_neg (by simpa using detailed), Headers.values_put]

/-- Other names have the values of the metadata. -/
theorem values_of_free (free : name ∉ reserved)
    (undetailed : name = detailsName → conclusion.details = []) :
    (ofConclusion conclusion).headers.values name = conclusion.metadata.values name := by
  have apart (kept : String) (listed : kept ∈ reserved) : name ≠ kept := by
    rintro rfl
    exact free listed
  -- Without details, not even their name is taken from the metadata.
  have last (told : Headers) :
      (if conclusion.details.isEmpty then told
        else told.put detailsName (Headers.bytes (Text.base64Encode conclusion.details))).values
          name = told.values name := by
    split
    · rfl
    next detailed =>
      exact Headers.values_put_of_ne
        (fun here => detailed (List.isEmpty_iff.mpr (undetailed here))) told _
  unfold ofConclusion
  rw [last, Headers.values_ite_put_of_ne (apart _ (by decide)),
    Headers.values_put_of_ne (apart _ (by decide)), values_typed (apart _ (by decide)),
    values_allowed free]

/-- The numbers of codes are read back. -/
theorem codeOf_number (code : Code) {headers : Headers}
    (sent : headers.first? "grpc-status" = some (Headers.bytes (toString code.number))) :
    codeOf headers = code := by
  rw [codeOf, Headers.text?, sent]
  cases code <;> decide +kernel

/-- A status and what travels with it are read back from the reply that carries them. -/
theorem carries_ofConclusion : (ofConclusion conclusion).Carries conclusion where
  code := codeOf_number _ (by rw [Headers.first?_eq_head?_values, values_code]; rfl)
  message := by
    have coded : Headers.has (ofConclusion conclusion).headers "grpc-status" = true := by
      rw [Headers.has, Headers.first?_eq_head?_values, values_code]
      rfl
    rw [message?, messageOf?, coded, Headers.first?_eq_head?_values, values_message]
    have decoded : Text.ofUtf8?
        ⟨(Text.percentDecode (Headers.bytes (Text.percentEncode conclusion.message))).toArray⟩ =
          some conclusion.message := by
      rw [Headers.bytes, Text.percentDecode_percentEncode, Array.toArray_toList]
      exact Text.ofUtf8?_toUTF8 _
    cases said : conclusion.message.isEmpty with
    | true => rfl
    | false =>
        simp only [Bool.not_true, Bool.false_eq_true, if_false, List.head?_cons, decoded, said]
  details := fun detailed =>
    ⟨_, values_details conclusion detailed, Text.base64Decode?_base64Encode _⟩
  metadata := fun _ => values_of_free conclusion
  body := rfl

/-- A reply that carries a status has the code of the status. -/
theorem code_ofStatus (status : Status) : (ofStatus status).code = status.code :=
  (carries_ofConclusion { toStatus := status }).code

/-- A reply that carries a status has its message, unless it is empty. -/
theorem message?_ofStatus (status : Status) :
    (ofStatus status).message? = if status.message.isEmpty then none else some status.message :=
  (carries_ofConclusion { toStatus := status }).message

end Reply

end Backplane.Rpc
