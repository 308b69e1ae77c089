import Backplane.Proofs.Rpc.Endpoint
import Backplane.Proofs.Shutdown

namespace Backplane

namespace Settings

/-- Settings are accepted if no section is refused. -/
theorem refusal?_eq_none_iff (settings : Settings) :
    settings.refusal? = none ↔
      settings.reporting.refusal? = none ∧ settings.rateLimit.refusal? = none ∧
        settings.rpc.server.refusal? = none ∧
          ∀ entry ∈ settings.rpc.clients, entry.2.isUnverified = false := by
  simp [refusal?, Remote.refusal?]

/-- The security of an accepted server names a certificate and its key. -/
theorem Server.named_of_accepted {server : Server} (accepted : server.refusal? = none) {tls : Tls}
    (secured : server.tls.filter Tls.enabled = some tls) : tls.lacksCertificate = false := by
  obtain ⟨given, enabled⟩ := Option.filter_eq_some_iff.mp secured
  simpa [refusal?, given, enabled] using accepted

end Settings

namespace Rpc

/-- A client that is accepted verifies its server. -/
theorem Endpoint.verifies_of_accepted {client : Settings.Client}
    (accepted : client.isUnverified = false) {tls : Settings.Tls}
    (secured : security? client = some tls) : tls.insecureSkipVerify = false := by
  obtain ⟨given, enabled⟩ := Option.filter_eq_some_iff.mp secured
  simpa [Settings.Client.isUnverified, given, enabled] using accepted

/-- What fails only to read files fails no check, as the failure says that it is one to read. -/
theorem Credentials.FailsByReading.passes {α : Type} {result : Except Fault α} {fault : Fault}
    {text : String} (fails : FailsByReading result) (failed : result = .error fault)
    (other : text.toList.head? ≠ some 'f') : fault ≠ .tls text := by
  obtain ⟨rest, rfl⟩ := fails fault failed
  intro same
  injection same with same
  rw [← same, String.toList_append] at other
  exact other rfl

/-- An accepted server never lacks its certificate when it is bound. -/
theorem Server.bind_ne_noCertificate {settings : Settings.Server}
    (accepted : settings.refusal? = none) (files : Files) (listen : Except InputError String) :
    Server.bind settings files listen ≠ .error Credentials.noCertificate := by
  unfold Server.bind
  cases secured : settings.tls.filter Settings.Tls.enabled with
  | none => cases listen <;> nofun
  | some tls =>
      have fails : Credentials.FailsByReading (Credentials.forServer files tls) :=
        Credentials.forServer_fails (Settings.Server.named_of_accepted accepted secured)
      dsimp only
      cases loaded : Credentials.forServer files tls with
      | error fault => exact fun same => fails.passes loaded (by decide) (Except.error.inj same)
      | ok credentials => cases listen <;> nofun

/-- An accepted client never skips the verification of its server when its endpoint is built. -/
theorem Endpoint.build_ne_unverified {client : Settings.Client}
    (accepted : client.isUnverified = false) (files : Files) (sound : Soundness) :
    build files sound client ≠ .error Credentials.unverified := by
  unfold build
  dsimp only
  split
  next => nofun
  next uri parsed =>
    split
    next => nofun
    next tls secured =>
      have fails : Credentials.FailsByReading (Credentials.forClient files tls) :=
        Credentials.forClient_fails_reading (verifies_of_accepted accepted secured)
      cases loaded : Credentials.forClient files tls with
      | error fault => exact fun same => fails.passes loaded (by decide) (Except.error.inj same)
      | ok credentials =>
          by_cases fits : sound credentials uri
          · simp [bind, Except.bind, pure, Except.pure, fits]
          · simp [bind, Except.bind, throw, throwThe, MonadExceptOf.throw, fits,
              Credentials.unverified]

end Rpc

namespace Assembly

variable {settings : Settings}

/-- Log lines have somewhere to go. -/
def logsSomewhere (settings : Settings) : Bool :=
  settings.log.stdout || Log.Logger.writesFile settings.log

/-- A limiter that keeps its events on a server has one, of its own or that of the cache. -/
def reachesLimiter (settings : Settings) : Bool :=
  !settings.rateLimit.enabled || settings.rateLimit.backend = .memory ||
    settings.rateLimit.redisUrl.isSome || (cacheServer? settings).isSome

/-- The failure of a log that has nowhere to go. -/
def noOutput : Fault := .telemetry "no log output configured"

/-- The failure of a limiter without a server. -/
def noConnection : Fault := .invalidArgument "redis rate limiter requires a redis connection"

/-- A log needs somewhere to write. -/
theorem checkSinks_eq (settings : Settings) :
    Log.Logger.checkSinks settings.log =
      if logsSomewhere settings then .ok () else .error noOutput := by
  unfold Log.Logger.checkSinks logsSomewhere
  cases Log.Logger.writesFile settings.log <;> cases settings.log.stdout <;> rfl

/-- Reporting that is accepted can start. -/
theorem checkReporting_of_accepted (accepted : settings.reporting.refusal? = none) :
    Log.Logger.checkReporting settings.reporting = .ok () := by
  unfold Settings.Reporting.refusal? at accepted
  unfold Log.Logger.checkReporting
  split at accepted
  next => cases accepted
  next given => rw [if_neg given]

/-- A limiter cannot be planned exactly if it needs a server that is not there. -/
theorem plan_eq_error_iff (fault : Fault) :
    RateLimit.plan settings.rateLimit (cacheServer? settings).isSome = .error fault ↔
      reachesLimiter settings = false ∧ fault = noConnection := by
  unfold RateLimit.plan reachesLimiter
  cases settings.rateLimit.enabled with
  | false => simp
  | true =>
      cases settings.rateLimit.backend with
      | memory => simp
      | redis =>
          cases settings.rateLimit.redisUrl <;> cases cacheServer? settings <;>
            simp [noConnection, eq_comm]

/-- A limiter that is planned has what it needs. -/
theorem reachesLimiter_of_plan {plan : RateLimit.Plan}
    (planned : RateLimit.plan settings.rateLimit (cacheServer? settings).isSome = .ok plan) :
    reachesLimiter settings = true := by
  by_contra stranded
  have failed := (plan_eq_error_iff noConnection).mpr ⟨Bool.eq_false_iff.mpr stranded, rfl⟩
  rw [planned] at failed
  cases failed

/-- A server that is accepted passes its check. -/
theorem checkServer_of_accepted (accepted : settings.rpc.server.refusal? = none) :
    checkServer settings.rpc.server = .ok () := by
  unfold checkServer
  split
  next tls secured => rw [Settings.Server.named_of_accepted accepted secured]; rfl
  next => rfl

/-- A client that is accepted passes its check. -/
theorem checkClient_of_accepted {client : Settings.Client}
    (accepted : client.isUnverified = false) : checkClient client = .ok () := by
  unfold checkClient
  split
  next tls secured => rw [Rpc.Endpoint.verifies_of_accepted accepted secured]; rfl
  next => rfl

/-- A run of actions that all pass passes. -/
theorem forM_eq_ok {ε α : Type} {action : α → Except ε Unit} {entries : List α}
    (passes : ∀ entry ∈ entries, action entry = .ok ()) : entries.forM action = .ok () := by
  induction entries with
  | nil => rfl
  | cons entry entries ih =>
      obtain ⟨first, rest⟩ := List.forall_mem_cons.mp passes
      rw [List.forM, first]
      exact ih rest

/-- Accepted settings pass all checks but those of the log and of the limiter. -/
theorem check_of_accepted (accepted : settings.refusal? = none) :
    check settings =
      if logsSomewhere settings then
        if reachesLimiter settings then .ok () else .error noConnection
      else .error noOutput := by
  obtain ⟨reporting, -, server, clients⟩ := settings.refusal?_eq_none_iff.mp accepted
  rw [check, checkSinks_eq]
  by_cases heard : logsSomewhere settings
  · rw [if_pos heard, if_pos heard, checkReporting_of_accepted reporting]
    cases planned : RateLimit.plan settings.rateLimit (cacheServer? settings).isSome with
    | error fault =>
        obtain ⟨stranded, rfl⟩ := (plan_eq_error_iff fault).mp planned
        rw [stranded]
        rfl
    | ok plan =>
        rw [if_pos (reachesLimiter_of_plan planned), checkServer_of_accepted server]
        exact forM_eq_ok fun entry listed => checkClient_of_accepted (clients entry listed)
  · rw [if_neg heard, if_neg heard]
    rfl

/-- If nothing outside stands in the way, a log is opened once the settings pass its checks. -/
theorem openLog_of_accepted (accepted : settings.reporting.refusal? = none) :
    Log.Logger.openLog settings.log settings.reporting { file := .ok (), reports := .ok () } =
      if logsSomewhere settings then .ok { reporting := settings.reporting.enabled }
      else .error noOutput := by
  rw [Log.Logger.openLog, checkSinks_eq, checkReporting_of_accepted accepted]
  cases logsSomewhere settings with
  | false => rfl
  | true =>
      cases settings.reporting.enabled <;> cases Log.Logger.writesFile settings.log <;> rfl

/-- A service is connected to the cache server exactly if its settings name one. -/
theorem cached_of_connectCache {contact : Redis.Contact} {cached : Bool}
    (connected : connectCache settings contact = .ok cached) :
    cached = (cacheServer? settings).isSome := by
  unfold connectCache at connected
  split at connected
  next absent =>
    cases connected
    rw [absent]
    rfl
  next server named =>
    obtain ⟨-, -, connected⟩ := exists_of_bind connected
    cases connected
    rw [named]
    rfl

/-- No service starts without an output for its log or without a server for its limiter. -/
theorem passes_of_start {outside : Outside} {assembly : Assembly}
    (started : start settings outside = .ok assembly) :
    logsSomewhere settings = true ∧ reachesLimiter settings = true := by
  unfold start at started
  obtain ⟨logger, opened, started⟩ := exists_of_bind started
  obtain ⟨collector, -, started⟩ := exists_of_bind started
  obtain ⟨cached, connected, started⟩ := exists_of_bind started
  obtain ⟨limiter, made, -⟩ := exists_of_bind started
  constructor
  · obtain ⟨_, checked, -⟩ := exists_of_bind opened
    rw [checkSinks_eq] at checked
    by_contra silent
    rw [if_neg silent] at checked
    cases checked
  · obtain ⟨plan, planned, -⟩ := exists_of_bind made
    rw [cached_of_connectCache connected] at planned
    exact reachesLimiter_of_plan planned

/-- Of the checks that the parts of a service make on its settings alone, accepted settings fail at
most two: the log may have no output, and a limiter on a server may have no connection. Both keep
the service from starting. Reports have an address, a secured server never lacks its certificate,
and no secured client skips the verification of its server. -/
theorem accepted_lack_only_output_or_connection (settings : Settings)
    (accepted : settings.refusal? = none) :
    check settings =
      (if logsSomewhere settings then
        if reachesLimiter settings then .ok () else .error noConnection
      else .error noOutput) ∧
    Log.Logger.openLog settings.log settings.reporting { file := .ok (), reports := .ok () } =
      (if logsSomewhere settings then .ok { reporting := settings.reporting.enabled }
      else .error noOutput) ∧
    (∀ outside assembly, start settings outside = .ok assembly →
      logsSomewhere settings = true ∧ reachesLimiter settings = true) ∧
    (∀ files listen,
      Rpc.Server.bind settings.rpc.server files listen ≠ .error Rpc.Credentials.noCertificate) ∧
    (∀ entry ∈ settings.rpc.clients, ∀ files sound,
      Rpc.Endpoint.build files sound entry.2 ≠ .error Rpc.Credentials.unverified) := by
  obtain ⟨reporting, -, server, clients⟩ := settings.refusal?_eq_none_iff.mp accepted
  exact ⟨check_of_accepted accepted, openLog_of_accepted reporting,
    fun outside assembly => passes_of_start, Rpc.Server.bind_ne_noCertificate server,
    fun entry listed => Rpc.Endpoint.build_ne_unverified (clients entry listed)⟩

/-- Reports, a secured server and client, and a limiter on the server of the cache. -/
theorem accepted_lack_only_output_or_connection_secured :
    let tls : Settings.Tls := { enabled := true, certFile := "cert.pem", keyFile := "key.pem" }
    let settings : Settings := {
      reporting := { enabled := true, dsn := "https://key@reports/1" }
      redis := some { url := "redis://localhost" }
      rateLimit := { backend := .redis }
      rpc := { server := { tls := some tls }, clients := [("users", { tls := some tls })] } }
    settings.refusal? = none ∧ check settings = .ok () := by
  intro tls settings
  have accepted : settings.refusal? = none := by decide
  exact ⟨accepted, (accepted_lack_only_output_or_connection settings accepted).1⟩

/-- Accepted settings with which a service does not start: a log without an output, and a limiter on
a server without one. -/
theorem accepted_without_output_or_connection :
    let silent : Settings := { log := { directory := "", stdout := false } }
    let stranded : Settings := { rateLimit := { backend := .redis } }
    (silent.refusal? = none ∧ check silent = .error noOutput) ∧
      (stranded.refusal? = none ∧ check stranded = .error noConnection) := by
  refine ⟨⟨?_, ?_⟩, ⟨?_, ?_⟩⟩ <;> rfl

end Assembly

end Backplane
