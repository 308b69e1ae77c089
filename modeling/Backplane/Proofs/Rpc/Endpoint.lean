import Backplane.Rpc.Endpoint

namespace Backplane.Rpc

/-- A computation that can only fail for want of what secures a connection. -/
def Credentials.FailsByTls {α : Type} (result : Except Fault α) : Prop :=
  ∀ fault, result = .error fault → ∃ text, fault = .tls text

namespace Credentials

/-- A computation that can only fail because a file cannot be read. -/
def FailsByReading {α : Type} (result : Except Fault α) : Prop :=
  ∀ fault, result = .error fault → ∃ rest, fault = .tls ("failed to read " ++ rest)

namespace FailsByReading

/-- What does not fail does not fail otherwise. -/
theorem ok {α : Type} (value : α) : FailsByReading (.ok value) := nofun

/-- Steps that fail by reading only fail by reading one after another. -/
theorem bind {α β : Type} {first : Except Fault α} {next : α → Except Fault β}
    (begins : FailsByReading first) (continues : ∀ value, FailsByReading (next value)) :
    FailsByReading (first >>= next) := by
  cases first with
  | error fault =>
      rintro _ ⟨⟩
      exact begins fault rfl
  | ok value => exact continues value

/-- Failing by reading is one way to fail by encryption. -/
theorem byTls {α : Type} {result : Except Fault α} (fails : FailsByReading result) :
    FailsByTls result := by
  intro fault failed
  obtain ⟨rest, rfl⟩ := fails fault failed
  exact ⟨_, rfl⟩

end FailsByReading

/-- A file fails by reading only. -/
theorem readFile_fails (files : Files) (kind path : String) :
    FailsByReading (readFile files kind path) := by
  unfold readFile
  split
  next => exact .ok _
  next error failed =>
    rintro _ ⟨⟩
    refine ⟨kind ++ " file " ++ path ++ ": " ++ error.message, ?_⟩
    simp only [String.append_assoc]

/-- A file whose name may be empty fails by reading only. -/
theorem readNamed_fails (files : Files) (kind path : String) :
    FailsByReading (readNamed files kind path) := by
  unfold readNamed
  split
  next => exact .ok none
  next => exact (readFile_fails files kind path).bind fun _ => .ok _

/-- The pair of files of an identity fails by reading only. -/
theorem readIdentity_fails (files : Files) (tls : Settings.Tls) :
    FailsByReading (readIdentity files tls) :=
  (readFile_fails files "cert" tls.certFile).bind fun _ =>
    (readFile_fails files "key" tls.keyFile).bind fun _ => .ok _

/-- With a certificate and its key named, a server only fails to read them. -/
theorem forServer_fails {files : Files} {tls : Settings.Tls}
    (named : tls.lacksCertificate = false) : FailsByReading (forServer files tls) := by
  rw [forServer, if_neg (by simp [named])]
  exact (readIdentity_fails files tls).bind fun _ =>
    (readNamed_fails files "ca" tls.caFile).bind fun _ => .ok _

/-- A client that verifies its server only fails to read files. -/
theorem forClient_fails_reading {files : Files} {tls : Settings.Tls}
    (verifies : tls.insecureSkipVerify = false) : FailsByReading (forClient files tls) := by
  rw [forClient, if_neg (by simp [verifies])]
  refine (readNamed_fails files "ca" tls.caFile).bind fun authority => ?_
  by_cases anonymous : tls.lacksCertificate
  · rw [if_pos anonymous]
    exact .ok _
  · rw [if_neg anonymous]
    exact (readIdentity_fails files tls).bind fun _ => .ok _

/-- Credentials of a client fail by encryption only. -/
theorem forClient_fails (files : Files) (tls : Settings.Tls) :
    FailsByTls (forClient files tls) := by
  by_cases skips : tls.insecureSkipVerify
  · rw [forClient, if_pos skips]
    rintro _ ⟨⟩
    exact ⟨_, rfl⟩
  · exact (forClient_fails_reading (Bool.eq_false_iff.mpr skips)).byTls

end Credentials

/-- A client that is configured is never taken for one that is not. -/
theorem Endpoint.build_ne_notFound (files : Files) (sound : Soundness)
    (settings : Settings.Client) (text : String) :
    build files sound settings ≠ .error (.notFound text) := by
  unfold build
  dsimp only
  split
  next => nofun
  next uri parsed =>
    split
    next => nofun
    next tls secured =>
      cases read : Credentials.forClient files tls with
      | error fault =>
          obtain ⟨text, rfl⟩ := Credentials.forClient_fails files tls fault read
          nofun
      | ok credentials =>
          by_cases fits : sound credentials uri
          · simp [bind, Except.bind, pure, Except.pure, fits]
          · simp [bind, Except.bind, throw, throwThe, MonadExceptOf.throw, fits]

end Backplane.Rpc
