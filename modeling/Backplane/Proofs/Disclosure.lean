import Backplane.Fault
import Backplane.Proofs.Json.Written

namespace Backplane.Fault

/-- The kinds of failures. -/
inductive Kind
  | config
  | redis
  | database
  | serialization
  | input
  | transport
  | status
  | notFound
  | alreadyInitialized
  | notInitialized
  | invalidArgument
  | tls
  | shutdownTimeout
  | metrics
  | telemetry
  | internal
deriving DecidableEq

def kind : Fault → Kind
  | .config _ => .config
  | .redis _ => .redis
  | .database _ => .database
  | .serialization _ => .serialization
  | .input _ => .input
  | .transport _ => .transport
  | .status _ => .status
  | .notFound _ => .notFound
  | .alreadyInitialized _ => .alreadyInitialized
  | .notInitialized _ => .notInitialized
  | .invalidArgument _ => .invalidArgument
  | .tls _ => .tls
  | .shutdownTimeout _ => .shutdownTimeout
  | .metrics _ => .metrics
  | .telemetry _ => .telemetry
  | .internal _ => .internal

/-- The kinds of failures that are told to callers. All others concern the service alone. -/
def Kind.told : List Kind := [.status, .notFound, .notInitialized, .invalidArgument]

/-- The text that callers are told. -/
def told? : Fault → Option String
  | .notFound text => some text
  | .notInitialized text => some text
  | .invalidArgument text => some text
  | _ => none

/-- What callers get of every failure that is kept from them. -/
theorem untold (fault : Fault) (kept : fault.kind ∉ Kind.told) :
    fault.toStatus = ({ code := .internal, message := "internal server error" }, [fault.report]) ∧
      fault.toResponse = (⟨500, 10000, "Internal server error"⟩, [fault.report]) := by
  cases fault with
  | status | notFound | notInitialized | invalidArgument => simp [kind, Kind.told] at kept
  | _ => exact ⟨rfl, rfl⟩

/-- Failures of one kind that is told differ to callers in nothing but the text. -/
theorem retold {fault other : Fault} (alike : fault.kind = other.kind) {text : String}
    (told : fault.told? = some text) :
    fault.toStatus.1 = { other.toStatus.1 with message := text } ∧
      fault.toResponse.1 = { other.toResponse.1 with message := text } := by
  -- Of the sixteen kinds `told` leaves the three whose text is told, and `alike` one pair of each.
  cases fault <;> cases told <;> cases other <;> cases alike <;> exact ⟨rfl, rfl⟩

/-- A status becomes one of two answers, by its code alone. -/
theorem toResponse_status (conclusion : Rpc.Conclusion) :
    (status conclusion).toResponse.1 =
      if conclusion.code = .resourceExhausted then ⟨429, 10006, "Rate limited"⟩
      else ⟨500, 10000, "Internal server error"⟩ := by
  obtain ⟨⟨code, message⟩, details, metadata⟩ := conclusion
  cases code <;> rfl

/-- The number in an answer fits into a word. -/
theorem toResponse_code_le (fault : Fault) : fault.toResponse.1.code ≤ Json.largestWord := by
  unfold toResponse
  split
  all_goals
    dsimp only
    decide

namespace Response

variable (response : Response)

/-- The members of a body, each behind what stands in front of it. -/
theorem toList_body : response.body.toList =
    '\x7b' :: (Json.lead true ++ ((Json.writeString "code").toList ++ ':' ::
      (Nat.toDigits 10 response.code ++ (Json.lead false ++
        ((Json.writeString "message").toList ++ ':' ::
          ((Json.writeString response.message).toList ++ ['\x7d'])))))) := by
  have first : (Json.writeString "code").toList = "\"code\"".toList := rfl
  have second : (Json.writeString "message").toList = "\"message\"".toList := rfl
  rw [body, Nat.toString_eq_ofList_toDigits, first, second]
  simp [Json.lead]

/-- The body is a document of the code and the message, whatever the message holds. -/
theorem read_body (fits : response.code ≤ Json.largestWord) :
    Json.read response.body = .ok (.object [("code", .integer response.code),
      ("message", .string response.message)]) := by
  have placed : [("code", Json.integer response.code), ("message", .string response.message)] =
      Entries.insert "message" (.string response.message)
        (Entries.insert "code" (.integer response.code) []) := rfl
  obtain ⟨fuel, enough⟩ : ∃ fuel, 2 * response.body.toList.length + 2 = fuel + 4 := by
    have given : 0 < response.body.toList.length := by simp [toList_body]
    exact ⟨2 * response.body.toList.length - 2, by omega⟩
  have message := Json.readsAs_writeString response.message ['\x7d']
  apply Json.read_of_leaves
  rw [enough, toList_body, Json.value_brace (by decide), placed]
  refine Json.members_member (Json.readsAs_toDigits fits _) true (fun behindCode => ?_) 1
  refine Json.members_member message false (fun behindMessage => ?_) behindCode
  exact Json.members_brace fuel _ behindMessage [] false _

end Response

/-- Two failures of one kind that callers are not told of are the same to them. A status is passed
on as it is, and all of it that an answer over HTTP depends on is whether a resource is exhausted.
Of a kind that is told callers learn the text and nothing else about the failure. Whoever reads the
body of an answer finds its code and its message as they are. -/
theorem callers_learn_no_detail :
    (∀ fault other : Fault, fault.kind = other.kind → fault.kind ∉ Kind.told →
      fault.toStatus.1 = other.toStatus.1 ∧
        fault.toResponse.1.status = other.toResponse.1.status ∧
        fault.toResponse.1.body = other.toResponse.1.body) ∧
    (∀ conclusion, (status conclusion).toStatus.1 = conclusion) ∧
    (∀ conclusion other, (status conclusion).toResponse.1 = (status other).toResponse.1 ↔
      (conclusion.code = .resourceExhausted ↔ other.code = .resourceExhausted)) ∧
    (∀ fault other : Fault, fault.kind = other.kind → ∀ text, fault.told? = some text →
      fault.toStatus.1 = { other.toStatus.1 with message := text } ∧
        fault.toResponse.1 = { other.toResponse.1 with message := text }) ∧
    ∀ fault : Fault, Json.read fault.toResponse.1.body =
      .ok (.object [("code", .integer fault.toResponse.1.code),
        ("message", .string fault.toResponse.1.message)]) := by
  refine ⟨fun fault other alike kept => ?_, fun _ => rfl, fun conclusion other => ?_,
    fun fault other alike text told => retold alike told,
    fun fault => Response.read_body _ (toResponse_code_le fault)⟩
  · obtain ⟨status, response⟩ := untold fault kept
    obtain ⟨otherStatus, otherResponse⟩ := untold other (alike ▸ kept)
    rw [status, response, otherStatus, otherResponse]
    exact ⟨rfl, rfl, rfl⟩
  · rw [toResponse_status, toResponse_status]
    by_cases exhausted : conclusion.code = .resourceExhausted <;>
      by_cases otherExhausted : other.code = .resourceExhausted <;>
        simp [exhausted, otherExhausted]

/-- A failure whose text holds a query and an address, and a text with signs that are escaped. -/
theorem callers_learn_no_detail_query :
    let query : Fault := .database (.other "no relation \"users\" at 10.0.0.7:5432")
    let missing : Fault := .notFound "no \"users\"\n\u0001日本"
    query.kind ∉ Kind.told ∧
      query.toStatus.1 = (Fault.database .poolClosed).toStatus.1 ∧
      query.toResponse.1.body = (Fault.database .poolClosed).toResponse.1.body ∧
      missing.told? = some "no \"users\"\n\u0001日本" ∧
      missing.toStatus.1.message = "no \"users\"\n\u0001日本" ∧
      Json.read missing.toResponse.1.body = .ok (.object
        [("code", .integer 10001), ("message", .string "no \"users\"\n\u0001日本")]) := by
  intro query missing
  obtain ⟨kept, -, -, told, bodies⟩ := callers_learn_no_detail
  have hidden : query.kind ∉ Kind.told := by decide
  obtain ⟨status, -, body⟩ := kept query (.database .poolClosed) rfl hidden
  obtain ⟨answer, -⟩ := told missing (.notFound "") rfl _ rfl
  exact ⟨hidden, status, body, rfl, congrArg (·.message) answer, bodies missing⟩

end Backplane.Fault
