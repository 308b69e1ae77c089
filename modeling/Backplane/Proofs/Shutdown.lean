import Backplane.Assembly
import Backplane.Proofs.Rpc.LifeCycle

namespace Backplane

namespace Rpc

/-- A server that serves has a task that can be waited for. -/
def Server.Attended (server : Server) : Prop := server.serving = true → server.running = true

/-- Neither the server nor a client of a hub is left. -/
structure Hub.IsDown (hub : Hub) : Prop where
  stopped : ∀ server, hub.server = some server → server.running = false ∧ server.serving = false
  forgotten : hub.clients.configured = []
  disconnected : hub.clients.channels = []

namespace Server

variable {server : Server} {waited : Span} {ending : Ending}

/-- A registration keeps a server attended. -/
theorem Attended.register (attended : server.Attended) (service : String) :
    (server.register service).2.Attended := by
  unfold Server.register
  split <;> exact attended

/-- A start gives a running server its listener. -/
theorem Attended.start (attended : server.Attended) (sound : Credentials → Bool) :
    (server.start sound).2.Attended := by
  unfold Server.start
  split
  next => exact attended
  next =>
    split
    next => exact fun _ => rfl
    next => exact attended

/-- A stop leaves no task, not even one that had ended by itself. -/
theorem Attended.stop (attended : server.Attended) (waited : Span) (ending : Ending) :
    (server.stop waited ending).2.running = false ∧
      (server.stop waited ending).2.serving = false := by
  unfold Server.stop
  split
  next => exact ⟨rfl, rfl⟩
  next idle =>
    rw [Bool.not_eq_true] at idle
    refine ⟨idle, Bool.eq_false_iff.mpr fun serving => ?_⟩
    rw [attended serving] at idle
    cases idle

/-- Stopping a server that does not run changes nothing. -/
theorem stop_of_idle (idle : server.running = false) :
    server.stop waited ending = (.ok (), server) := by
  rw [stop, idle]
  rfl

end Server

namespace Hub

variable {hub : Hub}

/-- The server of a hub, if there is one, has a task if it serves. -/
def Attended (hub : Hub) : Prop := ∀ server, hub.server = some server → server.Attended

theorem attended_new (settings : Settings.Remote) : (new settings).Attended := nofun

/-- A task that ended by itself serves no more. -/
theorem attended_exit (hub : Hub) :
    Attended { hub with server := hub.server.map Server.exit } := by
  intro server holds
  obtain ⟨before, -, rfl⟩ := Option.map_eq_some_iff.mp holds
  exact nofun

namespace Attended

/-- Binding keeps a hub attended. -/
theorem bindServer (attended : hub.Attended) (files : Files)
    (listen : Except InputError String) : (hub.bindServer files listen).2.Attended := by
  unfold Hub.bindServer
  split
  next => exact attended
  next =>
    split
    next => exact attended
    next made =>
      obtain ⟨address, credentials, rfl⟩ := Server.eq_of_bind made
      rintro _ ⟨⟩ ⟨⟩

/-- What keeps every server attended keeps the hub attended. -/
theorem withServer (attended : hub.Attended) {action : Server → Except Fault Unit × Server}
    (keeps : ∀ server : Server, server.Attended → (action server).2.Attended) :
    (hub.withServer action).2.Attended := by
  unfold Hub.withServer
  split
  next => exact attended
  next server holds =>
    rintro _ ⟨⟩
    exact keeps server (attended server holds)

/-- After a stop the server neither runs nor serves. -/
theorem stopServer (attended : hub.Attended) (waited : Span) (ending : Ending) :
    ∀ server, (hub.stopServer waited ending).2.server = some server →
      server.running = false ∧ server.serving = false := by
  unfold Hub.stopServer
  split
  next absent =>
    intro server holds
    rw [absent] at holds
    cases holds
  next server holds =>
    rintro _ ⟨⟩
    exact (attended server holds).stop waited ending

/-- Closing an attended hub takes it down. -/
theorem close (attended : hub.Attended) (waited : Span) (ending : Ending) :
    (hub.close waited ending).2.IsDown where
  stopped := attended.stopServer waited ending
  forgotten := rfl
  disconnected := rfl

/-- Every request keeps a hub attended. -/
theorem step (attended : hub.Attended) (request : Request) : (hub.step request).2.Attended := by
  cases request with
  | bindServer files listen =>
      have bound := attended.bindServer files listen
      simp only [Hub.step]
      split
      next made => rwa [made] at bound
      next failed => rwa [failed] at bound
  | register service => exact attended.withServer fun _ server => server.register service
  | startServer sound => exact attended.withServer fun _ server => server.start sound
  | stopServer waited ending =>
      intro server holds serving
      rw [(attended.stopServer waited ending server holds).2] at serving
      cases serving
  | close waited ending =>
      intro server holds serving
      rw [((attended.close waited ending).stopped server holds).2] at serving
      cases serving

end Attended

/-- A stop is answered by how the server ended, if it ran. -/
theorem stopServer_result (hub : Hub) (waited : Span) (ending : Ending) :
    (hub.stopServer waited ending).1 =
      if hub.server.any Server.running then ending.result waited else .ok () := by
  unfold stopServer
  split
  next absent => simp [absent]
  next server holds =>
    simp only [holds, Option.any_some, Server.stop]
    split <;> rfl

namespace IsDown

/-- A hub that is down does not serve. -/
theorem isServing (down : hub.IsDown) : hub.isServing = false := by
  cases holds : hub.server with
  | none => simp [Hub.isServing, holds]
  | some server => simp [Hub.isServing, holds, (down.stopped server holds).2]

/-- Stopping a hub that is down changes nothing. -/
theorem stopServer (down : hub.IsDown) (waited : Span) (ending : Ending) :
    hub.stopServer waited ending = (.ok (), hub) := by
  obtain ⟨settings, server, bound, clients⟩ := hub
  cases server with
  | none => rfl
  | some server =>
      simp only [Hub.stopServer, Server.stop_of_idle (down.stopped server rfl).1]

/-- Closing a hub that is down changes nothing. -/
theorem close (down : hub.IsDown) (waited : Span) (ending : Ending) :
    hub.close waited ending = (.ok (), hub) := by
  obtain ⟨settings, server, bound, configured, channels, built⟩ := hub
  obtain rfl := down.forgotten
  obtain rfl := down.disconnected
  rw [Hub.close, down.stopServer]
  rfl

end IsDown

end Hub

end Rpc

open Rpc

/-- Closing a closed pool changes nothing. -/
theorem Database.Pool.close_of_closed {pool : Pool} (closed : pool.closed = true)
    (unwatched : pool.monitored = false) : pool.close = pool := by
  obtain ⟨closed, monitored⟩ := pool
  subst closed unwatched
  rfl

namespace Assembly

variable {assembly : Assembly}

/-- Nothing of a service is left that has to be let go of. -/
structure IsDown (assembly : Assembly) : Prop where
  hub : assembly.rpc.IsDown
  database : ∀ pool, assembly.database = some pool → pool.closed = true ∧ pool.monitored = false
  logger : assembly.logger = none

/-- The first part of a computation that succeeds has succeeded. -/
theorem exists_of_bind {ε α β : Type} {first : Except ε α} {next : α → Except ε β} {result : β}
    (made : first >>= next = .ok result) :
    ∃ value, first = .ok value ∧ next value = .ok result := by
  cases first with
  | error fault => cases made
  | ok value => exact ⟨value, rfl, made⟩

/-- A service starts without a server, with the clients of its settings. -/
theorem rpc_of_start {settings : Settings} {outside : Outside}
    (started : start settings outside = .ok assembly) : assembly.rpc = .new settings.rpc := by
  unfold start at started
  obtain ⟨logger, -, started⟩ := exists_of_bind started
  obtain ⟨collector, -, started⟩ := exists_of_bind started
  obtain ⟨cached, -, started⟩ := exists_of_bind started
  obtain ⟨limiter, -, started⟩ := exists_of_bind started
  obtain ⟨translator, -, started⟩ := exists_of_bind started
  obtain ⟨database, -, started⟩ := exists_of_bind started
  cases started
  rfl

/-- Every event keeps an assembly attended. -/
theorem attended_step (attended : assembly.rpc.Attended) (event : Event) :
    (assembly.step event).rpc.Attended := by
  cases event with
  | server request => exact attended.step request
  | clients request => exact attended
  | serverExits => exact assembly.rpc.attended_exit
  | databaseCloses => exact attended
  | measured measurement => exact attended
  | translated change => exact attended
  | shutdown waited ending => exact attended.step (.close waited ending)

/-- Every assembly that can be reached is attended. -/
theorem Reachable.attended (reachable : Reachable assembly) : assembly.rpc.Attended := by
  induction reachable with
  | start started =>
      rw [rpc_of_start started]
      exact Hub.attended_new _
  | step before event ih => exact attended_step ih event

/-- What events lead to can be reached. -/
theorem Reachable.foldl (reachable : Reachable assembly) (events : List Event) :
    Reachable (events.foldl Assembly.step assembly) := by
  induction events generalizing assembly with
  | nil => exact reachable
  | cons event events ih => exact ih (reachable.step event)

/-- Shutting down an assembly that is down changes nothing. -/
theorem IsDown.shutdown (down : assembly.IsDown) (waited : Span) (ending : Ending) :
    assembly.shutdown waited ending = (.ok (), assembly) := by
  obtain ⟨hub, database, logger⟩ := down
  have pools : assembly.database.map Database.Pool.close = assembly.database := by
    cases holds : assembly.database with
    | none => rfl
    | some pool =>
        obtain ⟨closed, unwatched⟩ := database pool holds
        exact congrArg some (Database.Pool.close_of_closed closed unwatched)
  rw [Assembly.shutdown, hub.close, pools, ← logger]

/-- An attended assembly is down after a shutdown. -/
theorem isDown_shutdown (attended : assembly.rpc.Attended) (waited : Span) (ending : Ending) :
    (assembly.shutdown waited ending).2.IsDown where
  hub := attended.close waited ending
  database := by
    intro pool holds
    obtain ⟨before, -, rfl⟩ := Option.map_eq_some_iff.mp holds
    exact ⟨rfl, rfl⟩
  logger := rfl

/-- Whatever a service went through, and however the stop of its server ends, a shutdown stops the
server, drops every client, closes the database and takes the log away. Its result is that of the
stop, and another shutdown finds nothing to do. -/
theorem shutdown_complete (reachable : Reachable assembly) (waited : Span) (ending : Ending) :
    let result := (assembly.shutdown waited ending).1
    let after := (assembly.shutdown waited ending).2
    (after.rpc.isServing = false ∧ after.rpc.server.any Server.running = false) ∧
      (after.rpc.clients.configured = [] ∧ after.rpc.clients.channels = []) ∧
      after.database = assembly.database.map (fun _ => { closed := true, monitored := false }) ∧
      (after.logger = none ∧ after.capture = false) ∧
      result = (assembly.rpc.stopServer waited ending).1 ∧
      result = (if assembly.rpc.server.any Server.running then ending.result waited else .ok ()) ∧
      ∀ again other, after.shutdown again other = (.ok (), after) := by
  intro result after
  have down : after.IsDown := isDown_shutdown reachable.attended waited ending
  have idle : after.rpc.server.any Server.running = false := by
    rw [Option.any_eq_false]
    intro server holds
    simp [(down.hub.stopped server holds).1]
  exact ⟨⟨down.hub.isServing, idle⟩, ⟨down.hub.forgotten, down.hub.disconnected⟩, rfl,
    ⟨down.logger, rfl⟩, rfl, assembly.rpc.stopServer_result waited ending, down.shutdown⟩

/-- A server that is still busy when the time is over, with a client and a database beside it. -/
theorem shutdown_complete_late :
    let settings : Settings := {
      reporting := { enabled := true, dsn := "https://key@reports/1" }
      database := some { url := "postgres://localhost/app" }
      rpc := { clients := [("users", { target := "users:50051" })] } }
    let outside : Outside := {
      files := ⟨[]⟩, log := { file := .ok (), reports := .ok () }
      cache := .established, limiter := .established, database := .answered }
    let started : Assembly := {
      settings, logger := some { reporting := true }, collector := .registering { space := "vgo" }
      cached := false, limiter := .memory 100 (.ofSeconds 60), translator := .new .english
      database := some {}, rpc := .new settings.rpc }
    let busy := [Event.server (.bindServer ⟨[]⟩ (.ok "127.0.0.1:9000")),
      .server (.startServer fun _ => true),
      .clients (.client (Endpoint.build ⟨[]⟩ fun _ _ => true) "users")].foldl step started
    let after := (busy.shutdown ⟨5⟩ .late).2
    start settings outside = .ok started ∧
      (busy.rpc.isServing = true ∧ busy.rpc.clients.isConnected "users" = true ∧
        busy.database = some {} ∧ busy.capture = true) ∧
      (busy.shutdown ⟨5⟩ .late).1 = .error (.shutdownTimeout ⟨5⟩) ∧
      after.rpc.isServing = false ∧ after.rpc.clients.channels = [] ∧
      after.database = some { closed := true, monitored := false } ∧
      after.capture = false ∧ after.shutdown ⟨1⟩ .graceful = (.ok (), after) := by
  intro settings outside started busy after
  have begins : start settings outside = .ok started := by
    dsimp only [settings, outside, started]
    rfl
  have reachable : Reachable busy := (Reachable.start begins).foldl _
  obtain ⟨⟨idle, -⟩, ⟨-, disconnected⟩, database, ⟨-, silent⟩, -, result, again⟩ :=
    shutdown_complete reachable ⟨5⟩ .late
  exact ⟨begins, ⟨rfl, rfl, rfl, rfl⟩, result, idle, disconnected, database, silent,
    again ⟨1⟩ .graceful⟩

end Assembly

end Backplane
