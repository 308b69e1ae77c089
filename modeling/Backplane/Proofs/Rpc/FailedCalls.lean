import Backplane.Rpc.Hub

namespace Backplane.Rpc

namespace Server

variable {server : Server} {fault : Fault}

/-- The server without its listener. -/
def withoutListener (server : Server) : Server := { server with listening := false }

/-- A start that fails halfway: there is a listener, but credentials that cannot be served with. -/
def startBreaks (server : Server) (sound : Credentials → Bool) : Bool :=
  server.listening && !server.credentials.all sound

/-- A failed registration leaves the server as it was. -/
theorem register_of_error {service : String}
    (failed : (server.register service).1 = .error fault) :
    (server.register service).2 = server := by
  unfold register at failed ⊢
  cases listening : server.listening with
  | true => simp [listening] at failed
  | false => simp

/-- A failed start leaves it as it was, or takes the listener out of it. -/
theorem start_of_error {sound : Credentials → Bool}
    (failed : (server.start sound).1 = .error fault) :
    (server.start sound).2 =
      if server.startBreaks sound then server.withoutListener else server := by
  unfold start at failed ⊢
  cases listening : server.listening with
  | false => simp [startBreaks, listening]
  | true =>
      cases served : server.credentials.all sound with
      | true => simp [listening, served] at failed
      | false => simp [startBreaks, withoutListener, listening, served]

/-- With credentials that cannot be served with, a start takes the listener. -/
theorem start_of_startBreaks {sound : Credentials → Bool}
    (breaks : server.startBreaks sound = true) :
    server.start sound = (.error (.transport "transport error"), server.withoutListener) := by
  obtain ⟨listening, refused⟩ := Bool.and_eq_true_iff.mp breaks
  rw [Bool.not_eq_true'] at refused
  simp [start, withoutListener, listening, refused]

/-- Without its listener a server passes for started. -/
theorem start_withoutListener (server : Server) (sound : Credentials → Bool) :
    server.withoutListener.start sound = (.error alreadyStarted, server.withoutListener) :=
  rfl

/-- Without its listener a server takes no service on. -/
theorem register_withoutListener (server : Server) (service : String) :
    server.withoutListener.register service =
      (.error (tooLate service), server.withoutListener) :=
  rfl

/-- A server that listens does not say that it was started. -/
theorem start_ne_alreadyStarted (listening : server.listening = true)
    (sound : Credentials → Bool) : (server.start sound).1 ≠ .error alreadyStarted := by
  unfold start
  cases served : server.credentials.all sound <;> simp [listening, alreadyStarted]

end Server

namespace Hub

variable {hub : Hub} {fault : Fault}

/-- Tells whether a call is to set the server up, not to take it down. -/
def Request.setsUp : Request → Bool
  | .bindServer _ _ => true
  | .register _ => true
  | .startServer _ => true
  | .stopServer _ _ => false
  | .close _ _ => false

/-- A call that starts a listening server whose credentials cannot be served with. -/
def startBreaks (hub : Hub) : Request → Bool
  | .startServer sound => hub.server.any (Server.startBreaks · sound)
  | _ => false

/-- The hub after its server lost the listener. -/
def withoutListener (hub : Hub) : Hub :=
  { hub with server := hub.server.map Server.withoutListener }

/-- A failed binding leaves the hub as it was. -/
theorem step_bindServer_of_error {files : Files} {listen : Except InputError String}
    (failed : (hub.step (.bindServer files listen)).1.result = .error fault) :
    (hub.step (.bindServer files listen)).2 = hub := by
  simp only [step, bindServer] at failed ⊢
  cases occupied : hub.server.isSome with
  | true => simp
  | false =>
      cases made : Server.bind hub.settings.server files listen with
      | error fault => simp
      | ok server => simp [occupied, made] at failed

/-- A failed action keeps a hub if it keeps the server. -/
theorem withServer_of_error {action : Server → Except Fault Unit × Server}
    {change : Server → Server}
    (keeps : ∀ {server : Server}, (action server).1 = .error fault →
      (action server).2 = change server)
    (failed : (hub.withServer action).1 = .error fault) :
    (hub.withServer action).2 = { hub with server := hub.server.map change } := by
  obtain ⟨settings, server, bound, clients⟩ := hub
  cases server with
  | none => rfl
  | some server =>
      have kept : (action server).2 = change server := keeps failed
      simp [withServer, kept]

/-- A failed registration leaves the hub as it was. -/
theorem register_of_error {service : String}
    (failed : (hub.register service).1 = .error fault) : (hub.register service).2 = hub := by
  have kept : (hub.register service).2 = { hub with server := hub.server.map id } :=
    withServer_of_error Server.register_of_error failed
  simpa using kept

/-- A failed start does to the hub what it does to the server. -/
theorem startServer_of_error {sound : Credentials → Bool}
    (failed : (hub.startServer sound).1 = .error fault) :
    (hub.startServer sound).2 =
      if hub.startBreaks (.startServer sound) then hub.withoutListener else hub := by
  rw [startServer, withServer_of_error Server.start_of_error failed]
  obtain ⟨settings, server, bound, clients⟩ := hub
  cases server with
  | none => rfl
  | some server =>
      cases breaks : server.startBreaks sound <;>
        simp [startBreaks, withoutListener, breaks]

/-- What a call leaves of a hub when it fails to set the server up. -/
theorem step_of_error {request : Request} (setsUp : request.setsUp = true)
    (failed : (hub.step request).1.result = .error fault) :
    (hub.step request).2 = if hub.startBreaks request then hub.withoutListener else hub := by
  cases request with
  | bindServer files listen => exact step_bindServer_of_error failed
  | register service => exact register_of_error failed
  | startServer sound => exact startServer_of_error failed
  | stopServer waited ending => cases setsUp
  | close waited ending => cases setsUp

/-- A start of the hub with such credentials takes the listener of its server. -/
theorem startServer_of_startBreaks {sound : Credentials → Bool}
    (breaks : hub.startBreaks (.startServer sound) = true) :
    hub.startServer sound = (.error (.transport "transport error"), hub.withoutListener) := by
  obtain ⟨server, holds, broken⟩ := (Option.any_eq_true ..).mp breaks
  simp [startServer, withServer, withoutListener, holds, Server.start_of_startBreaks broken]

/-- Only a server that listens can lose its listener. -/
theorem exists_listening {request : Request} (breaks : hub.startBreaks request = true) :
    ∃ server, hub.server = some server ∧ server.listening = true := by
  cases request with
  | startServer sound =>
      obtain ⟨server, holds, broken⟩ := (Option.any_eq_true ..).mp breaks
      exact ⟨server, holds, (Bool.and_eq_true_iff.mp broken).1⟩
  | _ => cases breaks

/-- A call that fails to set the server up leaves a hub as it was, or at least so that no later
call can tell, exactly if it is no start of a listening server whose credentials cannot be served
with. Such a start keeps all but the listener, and from then on the server that never started says
that it was started. -/
theorem failed_setUp_unnoticed_iff (hub : Hub) (request : Request) (fault : Fault)
    (setsUp : request.setsUp = true) (failed : (hub.step request).1.result = .error fault) :
    let after := (hub.step request).2
    (after = hub ↔ hub.startBreaks request = false) ∧
      ((∀ later, (after.run later).1 = (hub.run later).1) ↔ hub.startBreaks request = false) ∧
      (hub.startBreaks request = true → after = hub.withoutListener ∧
        ∀ sound, (after.startServer sound).1 = .error Server.alreadyStarted ∧
          (hub.startServer sound).1 ≠ .error Server.alreadyStarted) := by
  intro after
  have left : after = if hub.startBreaks request then hub.withoutListener else hub :=
    step_of_error setsUp failed
  cases breaks : hub.startBreaks request with
  | false =>
      rw [breaks] at left
      have same : after = hub := left
      simp [same]
  | true =>
      rw [breaks] at left
      have lost : after = hub.withoutListener := left
      obtain ⟨server, holds, listening⟩ := exists_listening breaks
      -- A registration tells whether there is still a listener.
      have noticed : (after.run [.register ""]).1 ≠ (hub.run [.register ""]).1 := by
        have refused : (after.register "").1 = .error (Server.tooLate "") := by
          simp [lost, withoutListener, register, withServer, holds,
            Server.register_withoutListener]
        have taken : (hub.register "").1 = .ok () := by
          simp [register, withServer, holds, Server.register, listening]
        simp [run, step, refused, taken]
      refine ⟨?_, ?_, fun _ => ⟨lost, fun sound => ⟨?_, ?_⟩⟩⟩
      · simp only [Bool.true_eq_false, iff_false]
        intro same
        exact noticed (by rw [same])
      · simp only [Bool.true_eq_false, iff_false]
        intro unnoticed
        exact noticed (unnoticed _)
      · simp [lost, withoutListener, startServer, withServer, holds, Server.start_withoutListener]
      · rw [startServer, withServer, holds]
        exact Server.start_ne_alreadyStarted listening sound

/-- A start before there is a server, and one whose credentials cannot be served with. -/
theorem failed_setUp_noticed_refused :
    let tls : Settings.Tls := { enabled := true, certFile := "cert.pem", keyFile := "key.pem" }
    let settings : Settings.Remote := { server := { tls := some tls } }
    let files : Files := ⟨[("cert.pem", ⟨#[]⟩), ("key.pem", ⟨#[]⟩)]⟩
    let refused : Request := .startServer fun _ => false
    let hub := ((new settings).run [.bindServer files (.ok "127.0.0.1:9000")]).2
    ((new settings).step refused).1.result = .error notInitialized ∧
      ((new settings).step refused).2 = new settings ∧
      (hub.step refused).1.result = .error (.transport "transport error") ∧
      (hub.step refused).2 = hub.withoutListener ∧
      ¬ ∀ later, ((hub.step refused).2.run later).1 = (hub.run later).1 := by
  intro tls settings files refused hub
  have breaks : hub.startBreaks refused = true := by decide +kernel
  have early : ((new settings).step refused).1.result = .error notInitialized := rfl
  have failed : (hub.step refused).1.result = .error (.transport "transport error") := by
    rw [step, startServer_of_startBreaks breaks]
  obtain ⟨kept, -, -⟩ := failed_setUp_unnoticed_iff (new settings) refused _ rfl early
  obtain ⟨-, unnoticed, lost⟩ := failed_setUp_unnoticed_iff hub refused _ rfl failed
  refine ⟨early, kept.mpr rfl, failed, (lost breaks).1, ?_⟩
  rw [unnoticed, breaks]
  decide

/-- A server that never served takes no services and no second start, once its first start found
credentials that cannot be served with. -/
theorem refused_start_reported_started :
    let tls : Settings.Tls := { enabled := true, certFile := "cert.pem", keyFile := "key.pem" }
    let settings : Settings.Remote := { server := { tls := some tls } }
    let files : Files := ⟨[("cert.pem", ⟨#[]⟩), ("key.pem", ⟨#[]⟩)]⟩
    let hub := ((new settings).run [.bindServer files (.ok "127.0.0.1:9000")]).2
    let after := (hub.startServer fun _ => false).2
    (hub.startServer fun _ => false).1 = .error (.transport "transport error") ∧ after ≠ hub ∧
      after.isServing = false ∧
      (hub.startServer fun _ => true).1 = .ok () ∧
      (after.startServer fun _ => true).1 = .error Server.alreadyStarted ∧
      (hub.register "users.Users").1 = .ok () ∧
      (after.register "users.Users").1 = .error (Server.tooLate "users.Users") := by
  intro tls settings files hub after
  have breaks : hub.startBreaks (.startServer fun _ => false) = true := by decide +kernel
  have idle : after.isServing = false := by decide +kernel
  have refused : hub.startServer (fun _ => false) =
      (.error (.transport "transport error"), hub.withoutListener) :=
    startServer_of_startBreaks breaks
  have failed : (hub.startServer fun _ => false).1 = .error (.transport "transport error") := by
    rw [refused]
  have lost : after = hub.withoutListener := by
    simp only [after, refused]
  obtain ⟨server, holds, listening⟩ := exists_listening breaks
  have started : (hub.startServer fun _ => true).1 = .ok () := by
    simp [startServer, withServer, holds, Server.start, listening]
  have late : (after.startServer fun _ => true).1 = .error Server.alreadyStarted := by
    simp [lost, withoutListener, startServer, withServer, holds, Server.start_withoutListener]
  refine ⟨failed, ?_, idle, started, late, ?_, ?_⟩
  · intro same
    rw [same, started] at late
    cases late
  · simp [register, withServer, holds, Server.register, listening]
  · simp [lost, withoutListener, register, withServer, holds, Server.register_withoutListener]

end Hub

end Backplane.Rpc
