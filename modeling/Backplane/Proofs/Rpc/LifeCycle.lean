import Backplane.Rpc.Hub
import Mathlib.Data.List.Basic
import Mathlib.Data.List.TakeWhile

namespace Backplane.Rpc

/-- A server that was just bound is idle. -/
theorem Server.eq_of_bind {settings : Settings.Server} {files : Files}
    {listen : Except InputError String} {server : Server}
    (made : Server.bind settings files listen = .ok server) :
    ∃ address credentials, server = { address, credentials } := by
  unfold Server.bind at made
  cases security : settings.tls.filter Settings.Tls.enabled with
  | none =>
      rw [security] at made
      cases listen with
      | error error => cases made
      | ok address => exact ⟨address, none, (Except.ok.inj made).symm⟩
  | some tls =>
      rw [security] at made
      cases read : Credentials.forServer files tls with
      | error fault =>
          simp only [read] at made
          cases made
      | ok credentials =>
          simp only [read] at made
          cases listen with
          | error error => cases made
          | ok address => exact ⟨address, some credentials, (Except.ok.inj made).symm⟩

namespace Hub

/-- A past call and its answer. -/
abbrev Event := Request × Answer

namespace Event

/-- Tells whether a call bound the server. -/
def binds : Event → Bool
  | (.bindServer _ _, answer) => answer.result.isOk
  | _ => false

/-- Tells whether a call was for a start, however it went. -/
def asksForStart : Event → Bool
  | (.startServer _, _) => true
  | _ => false

/-- Tells whether a call started the server. -/
def starts (event : Event) : Bool := event.asksForStart && event.2.result.isOk

/-- Tells whether a call was for a stop, however it went. -/
def stops : Event → Bool
  | (.stopServer _ _, _) => true
  | (.close _ _, _) => true
  | _ => false

/-- The service that a call registered, if it did. -/
def registered? : Event → Option String
  | (.register service, answer) => if answer.result.isOk then some service else none
  | _ => none

end Event

/-- The address that was answered when the server was bound. -/
def address? (past : List Event) : Option String :=
  (past.find? Event.binds).bind fun event => event.2.address

/-- Tells whether a start was asked for since the server was bound. -/
def wasAskedToStart (past : List Event) : Bool :=
  (past.dropWhile fun event => !event.binds).any Event.asksForStart

/-- The server was started, and no stop was asked for since. -/
def WasStarted (past : List Event) : Prop :=
  ∃ before event after, past = before ++ event :: after ∧ event.starts = true ∧
    ∀ later ∈ after, later.stops = false

section Past

variable (past : List Event) (event : Event)

/-- Something was bound exactly if there is a first event that binds. -/
theorem any_binds_eq : past.any Event.binds = (past.find? Event.binds).isSome := by
  rw [List.isSome_find?]

/-- The address is that of the first event that binds. -/
theorem address?_concat :
    address? (past ++ [event]) =
      if past.any Event.binds then address? past
      else if event.binds then event.2.address else none := by
  rw [address?, address?, List.find?_append, any_binds_eq]
  cases past.find? Event.binds with
  | some found => rfl
  | none => by_cases binds : event.binds <;> simp [binds]

/-- A start counts once something was bound. -/
theorem wasAskedToStart_concat :
    wasAskedToStart (past ++ [event]) =
      (wasAskedToStart past || past.any Event.binds && event.asksForStart) := by
  rw [wasAskedToStart, wasAskedToStart, List.dropWhile_append]
  by_cases bound : past.any Event.binds
  · have reached : (past.dropWhile fun event => !event.binds) ≠ [] := by
      intro none
      obtain ⟨first, listed, binds⟩ := List.any_eq_true.mp bound
      have := List.dropWhile_eq_nil_iff.mp none first listed
      simp [binds] at this
    simp [reached, bound]
  · have never : past.dropWhile (fun event => !event.binds) = [] := by
      rw [List.dropWhile_eq_nil_iff]
      simpa using bound
    have apart : event.binds = true → event.asksForStart = false := by
      rcases event with ⟨_ | _ | _ | _ | _, answer⟩ <;> simp [Event.binds, Event.asksForStart]
    by_cases binds : event.binds
    · simp [never, bound, binds, apart binds]
    · simp [never, bound, binds]

/-- A server was started since, unless the last event stops it. -/
theorem wasStarted_concat :
    WasStarted (past ++ [event]) ↔
      event.starts = true ∨ WasStarted past ∧ event.stops = false := by
  constructor
  · rintro ⟨before, start, after, split, starts, quiet⟩
    rcases List.eq_nil_or_concat' after with rfl | ⟨after, last, rfl⟩
    · obtain ⟨-, same⟩ := List.append_inj' split rfl
      rw [List.singleton_inj.mp same]
      exact .inl starts
    · rw [← List.cons_append, ← List.append_assoc] at split
      obtain ⟨same, final⟩ := List.append_inj' split rfl
      rw [List.singleton_inj.mp final]
      refine .inr ⟨⟨before, start, after, same, starts, ?_⟩, quiet last (by simp)⟩
      intro later listed
      exact quiet later (List.mem_append_left _ listed)
  · rintro (starts | ⟨⟨before, start, after, rfl, starts, quiet⟩, goesOn⟩)
    · exact ⟨past, event, [], rfl, starts, by simp⟩
    · refine ⟨before, start, after ++ [event], by simp, starts, ?_⟩
      intro later listed
      rcases List.mem_append.mp listed with old | new
      · exact quiet later old
      · rw [List.mem_singleton.mp new]
        exact goesOn

end Past

/-- What one call does to the server of a hub. -/
structure Advance (server after : Server) (event : Event) : Prop where
  binds : event.binds = false
  address : after.address = server.address
  listening : after.listening = (server.listening && !event.asksForStart)
  starts : event.starts = true → server.listening = true
  services : after.services = server.services ++ event.registered?.toList
  running : after.running = after.serving
  serving : after.serving = (event.starts || server.serving && !event.stops)

variable {past : List Event} {hub : Hub} {server : Server}

/-- A call that does nothing to a server, because it is not about that or comes too late. -/
theorem Advance.idle {event : Event} (running : server.running = server.serving)
    (binds : event.binds = false) (starts : event.starts = false)
    (registers : event.registered? = none)
    (late : event.asksForStart = true → server.listening = false)
    (rests : event.stops = true → server.serving = false) : Advance server server event where
  binds := binds
  address := rfl
  listening := by
    cases asks : event.asksForStart with
    | true => rw [late asks, Bool.false_and]
    | false => rw [Bool.not_false, Bool.and_true]
  starts := by simp [starts]
  services := by simp [registers]
  running := running
  serving := by
    cases stops : event.stops with
    | true => rw [starts, rests stops, Bool.false_and, Bool.or_false]
    | false => rw [starts, Bool.not_false, Bool.and_true, Bool.false_or]

/-- A registration moves the server on. -/
theorem register_advance (service : String) (running : server.running = server.serving) :
    Advance server (server.register service).2
      (.register service, { result := (server.register service).1 }) := by
  unfold Server.register
  split
  next listening =>
    exact {
      binds := rfl
      address := rfl
      listening := (Bool.and_true server.listening).symm
      starts := nofun
      services := rfl
      running := running
      serving := (Bool.and_true server.serving).symm }
  next => exact .idle running rfl rfl rfl nofun nofun

/-- A start moves the server on. -/
theorem start_advance (sound : Credentials → Bool) (running : server.running = server.serving) :
    Advance server (server.start sound).2
      (.startServer sound, { result := (server.start sound).1 }) := by
  unfold Server.start
  cases listening : server.listening with
  | true =>
      -- The listener is taken before the credentials are tried.
      by_cases served : server.credentials.all sound
      · simp only [Bool.not_true, Bool.false_eq_true, if_false, if_pos served]
        exact {
          binds := rfl
          address := rfl
          listening := (Bool.and_false server.listening).symm
          starts := fun _ => listening
          services := (List.append_nil server.services).symm
          running := rfl
          serving := rfl }
      · simp only [Bool.not_true, Bool.false_eq_true, if_false, if_neg served]
        exact {
          binds := rfl
          address := rfl
          listening := (Bool.and_false server.listening).symm
          starts := nofun
          services := (List.append_nil server.services).symm
          running := running
          serving := (Bool.and_true server.serving).symm }
  | false => exact .idle running rfl rfl rfl (fun _ => listening) nofun

/-- Every call for a stop does the same to a server, whatever it does besides. -/
theorem stop_advance (waited : Span) (ending : Ending) (running : server.running = server.serving)
    {event : Event} (stops : event.stops = true) :
    Advance server (server.stop waited ending).2 event := by
  have apart : event.binds = false ∧ event.asksForStart = false ∧ event.registered? = none := by
    rcases event with ⟨_ | _ | _ | _ | _, answer⟩ <;>
      simp [Event.binds, Event.asksForStart, Event.registered?, Event.stops] at stops ⊢
  obtain ⟨binds, asks, registers⟩ := apart
  have starts : event.starts = false := by rw [Event.starts, asks, Bool.false_and]
  unfold Server.stop
  cases serves : server.running with
  | true =>
      exact {
        binds := binds
        address := rfl
        listening := by simp [asks]
        starts := by simp [starts]
        services := by simp [registers]
        running := rfl
        serving := by simp [starts, stops] }
  | false => exact .idle running binds starts registers (by simp [asks]) fun _ => running ▸ serves

/-- Without a server nothing is done to it. -/
theorem withServer_of_unbound (action : Server → Except Fault Unit × Server)
    (unbound : hub.server = none) : hub.withServer action = (.error notInitialized, hub) := by
  rw [withServer, unbound]

/-- Stopping no server goes well. -/
theorem stopServer_of_unbound (waited : Span) (ending : Ending) (unbound : hub.server = none) :
    hub.stopServer waited ending = (.ok (), hub) := by
  rw [stopServer, unbound]

/-- Every call advances a server that is bound. -/
theorem step_advance (holds : hub.server = some server)
    (running : server.running = server.serving) (request : Request) :
    ∃ after, (hub.step request).2.server = some after ∧ (hub.step request).2.bound = hub.bound ∧
      Advance server after (request, (hub.step request).1) := by
  cases request with
  | bindServer files listen =>
      have refused : hub.bindServer files listen = (.error alreadyInitialized, hub) := by
        simp [bindServer, holds]
      refine ⟨server, ?_, ?_, ?_⟩
      · simpa [step, refused] using holds
      · simp [step, refused]
      · rw [step, refused]
        exact .idle running rfl rfl rfl nofun nofun
  | register service =>
      refine ⟨(server.register service).2, ?_, ?_, ?_⟩
      · simp [step, register, withServer, holds]
      · simp [step, register, withServer, holds]
      · simpa [step, register, withServer, holds] using register_advance service running
  | startServer sound =>
      refine ⟨(server.start sound).2, ?_, ?_, ?_⟩
      · simp [step, startServer, withServer, holds]
      · simp [step, startServer, withServer, holds]
      · simpa [step, startServer, withServer, holds] using start_advance sound running
  | stopServer waited ending =>
      refine ⟨(server.stop waited ending).2, ?_, ?_, ?_⟩
      · simp [step, stopServer, holds]
      · simp [step, stopServer, holds]
      · exact stop_advance waited ending running rfl
  | close waited ending =>
      refine ⟨(server.stop waited ending).2, ?_, ?_, ?_⟩
      · simp [step, close, stopServer, holds]
      · simp [step, close, stopServer, holds]
      · exact stop_advance waited ending running rfl

/-- What past calls tell of a hub without a server: none of them did anything to one. -/
structure Unbound (past : List Event) (hub : Hub) : Prop where
  server : hub.server = none
  bound : hub.bound = none
  idle : ∀ event ∈ past,
    event.binds = false ∧ event.starts = false ∧ event.registered? = none

/-- What past calls tell of the server that a hub has. -/
structure Bound (past : List Event) (hub : Hub) (server : Server) : Prop where
  holds : hub.server = some server
  bound : hub.bound = some server.address
  bindings : past.countP Event.binds = 1
  address : address? past = some server.address
  listening : server.listening = !wasAskedToStart past
  starts : past.countP Event.starts ≤ if server.listening then 0 else 1
  services : server.services = past.filterMap Event.registered?
  running : server.running = server.serving
  serving : server.serving = true ↔ WasStarted past

namespace Bound

/-- A bound hub was bound by some event. -/
theorem any_binds (bound : Bound past hub server) : past.any Event.binds = true := by
  have counted : 0 < past.countP Event.binds := by
    rw [bound.bindings]
    exact Nat.one_pos
  exact List.any_eq_true.mpr (List.countP_pos_iff.mp counted)

/-- One call keeps what its past tells of a server. -/
theorem step (bound : Bound past hub server) (request : Request) :
    ∃ after, Bound (past ++ [(request, (hub.step request).1)]) (hub.step request).2 after := by
  obtain ⟨after, holds, kept, advance⟩ := step_advance bound.holds bound.running request
  refine ⟨after, holds, ?_, ?_, ?_, ?_, ?_, ?_, advance.running, ?_⟩
  · rw [kept, bound.bound, advance.address]
  · simp [bound.bindings, advance.binds]
  · rw [address?_concat, if_pos bound.any_binds, bound.address, advance.address]
  · rw [wasAskedToStart_concat, bound.any_binds, advance.listening, bound.listening]
    simp
  · -- A start takes the listener, so there is none left for another.
    have counted := bound.starts
    rw [List.countP_append, List.countP_singleton, advance.listening]
    by_cases starts : Event.starts (request, (hub.step request).1)
    · obtain ⟨asks, -⟩ := Bool.and_eq_true_iff.mp starts
      rw [advance.starts starts] at counted ⊢
      simpa [starts, asks] using counted
    · cases listening : server.listening with
      | true =>
          rw [listening] at counted
          simpa [starts] using counted.trans (Nat.zero_le _)
      | false =>
          rw [listening] at counted
          simpa [starts] using counted
  · rw [List.filterMap_append, ← bound.services, advance.services]
    cases registers : Event.registered? (request, (hub.step request).1) <;> simp [registers]
  · rw [wasStarted_concat, ← bound.serving, advance.serving]
    simp

end Bound

namespace Unbound

/-- An unbound hub was bound by none. -/
theorem any_binds (unbound : Unbound past hub) : past.any Event.binds = false := by
  rw [List.any_eq_false]
  intro event listed
  simp [(unbound.idle event listed).1]

theorem find?_binds (unbound : Unbound past hub) : past.find? Event.binds = none := by
  rw [List.find?_eq_none]
  intro event listed
  simp [(unbound.idle event listed).1]

theorem countP_binds (unbound : Unbound past hub) : past.countP Event.binds = 0 := by
  rw [List.countP_eq_zero]
  intro event listed
  simp [(unbound.idle event listed).1]

/-- No start counts for an unbound hub. -/
theorem wasAskedToStart (unbound : Unbound past hub) : wasAskedToStart past = false := by
  have never : past.dropWhile (fun event => !event.binds) = [] := by
    rw [List.dropWhile_eq_nil_iff]
    intro event listed
    simp [(unbound.idle event listed).1]
  rw [Hub.wasAskedToStart, never, List.any_nil]

theorem countP_starts (unbound : Unbound past hub) : past.countP Event.starts = 0 := by
  rw [List.countP_eq_zero]
  intro event listed
  simp [(unbound.idle event listed).2.1]

theorem registered (unbound : Unbound past hub) : past.filterMap Event.registered? = [] := by
  rw [List.filterMap_eq_nil_iff]
  intro event listed
  exact (unbound.idle event listed).2.2

/-- An unbound hub was not started. -/
theorem not_wasStarted (unbound : Unbound past hub) : ¬ WasStarted past := by
  rintro ⟨before, event, after, rfl, starts, -⟩
  have rests := (unbound.idle event (by simp)).2.1
  simp [rests] at starts

/-- A call that does nothing to a server. -/
theorem concat (unbound : Unbound past hub) {next : Hub} {event : Event}
    (server : next.server = none) (bound : next.bound = none)
    (idle : event.binds = false ∧ event.starts = false ∧ event.registered? = none) :
    Unbound (past ++ [event]) next where
  server := server
  bound := bound
  idle := by
    intro other listed
    rcases List.mem_append.mp listed with old | new
    · exact unbound.idle other old
    · rw [List.mem_singleton.mp new]
      exact idle

/-- Binding an unbound hub makes it bound, or leaves it. -/
theorem bind (unbound : Unbound past hub) (files : Files) (listen : Except InputError String) :
    let (answer, next) := hub.step (.bindServer files listen)
    let event := (Request.bindServer files listen, answer)
    Unbound (past ++ [event]) next ∨ ∃ server, Bound (past ++ [event]) next server := by
  have free : hub.server.isSome = false := by simp [unbound.server]
  simp only [Hub.step, bindServer, free]
  cases made : Server.bind hub.settings.server files listen with
  | error fault =>
      left
      exact unbound.concat unbound.server unbound.bound ⟨rfl, rfl, rfl⟩
  | ok server =>
      -- A server is new when it is bound, so its past is the one call that binds it.
      right
      obtain ⟨address, credentials, rfl⟩ := Server.eq_of_bind made
      refine ⟨_, rfl, ?_, ?_, ?_, ?_, ?_, ?_, rfl, ?_⟩
      · simp [unbound.bound]
      · simp [unbound.countP_binds, Event.binds, Except.isOk, Except.toBool]
      · rw [address?_concat, unbound.any_binds]
        rfl
      · rw [wasAskedToStart_concat, unbound.wasAskedToStart, unbound.any_binds]
        rfl
      · simp [unbound.countP_starts, Event.starts, Event.asksForStart]
      · simp [unbound.registered, Event.registered?]
      · rw [wasStarted_concat]
        simp [unbound.not_wasStarted, Event.starts, Event.asksForStart]

/-- One call leaves a hub without a server, or binds one. -/
theorem step (unbound : Unbound past hub) (request : Request) :
    Unbound (past ++ [(request, (hub.step request).1)]) (hub.step request).2 ∨
      ∃ server, Bound (past ++ [(request, (hub.step request).1)]) (hub.step request).2 server := by
  cases request with
  | bindServer files listen => exact unbound.bind files listen
  | register service =>
      left
      simp only [Hub.step, register, withServer_of_unbound _ unbound.server]
      exact unbound.concat unbound.server unbound.bound ⟨rfl, rfl, rfl⟩
  | startServer sound =>
      left
      simp only [Hub.step, startServer, withServer_of_unbound _ unbound.server]
      exact unbound.concat unbound.server unbound.bound ⟨rfl, rfl, rfl⟩
  | stopServer waited ending =>
      left
      simp only [Hub.step, stopServer_of_unbound waited ending unbound.server]
      exact unbound.concat unbound.server unbound.bound ⟨rfl, rfl, rfl⟩
  | close waited ending =>
      left
      simp only [Hub.step, close, stopServer_of_unbound waited ending unbound.server]
      exact unbound.concat unbound.server unbound.bound ⟨rfl, rfl, rfl⟩

end Unbound

/-- What past calls tell of a hub. -/
def Tells (past : List Event) (hub : Hub) : Prop :=
  Unbound past hub ∨ ∃ server, Bound past hub server

/-- A new hub is unbound. -/
theorem tells_new (settings : Settings.Remote) : Tells [] (new settings) :=
  .inl ⟨rfl, rfl, by simp⟩

namespace Tells

/-- The past tells the hub after every request. -/
theorem step (tells : Tells past hub) (request : Request) :
    Tells (past ++ [(request, (hub.step request).1)]) (hub.step request).2 := by
  rcases tells with unbound | ⟨server, bound⟩
  · exact unbound.step request
  · exact .inr (bound.step request)

/-- A whole run is told by its calls and their answers. -/
theorem run (tells : Tells past hub) (requests : List Request) :
    Tells (past ++ requests.zip (hub.run requests).1) (hub.run requests).2 := by
  induction requests generalizing past hub with
  | nil => simpa [Hub.run] using tells
  | cons request requests ih =>
      -- The past grows at its end while the run is taken from its front.
      have rest := ih (tells.step request)
      rw [List.append_assoc] at rest
      exact rest

/-- A server is bound once at most. -/
theorem binds_le_one (tells : Tells past hub) : past.countP Event.binds ≤ 1 := by
  rcases tells with unbound | ⟨server, bound⟩
  · rw [unbound.countP_binds]
    exact Nat.zero_le 1
  · exact bound.bindings.le

/-- A server is started once at most. -/
theorem starts_le_one (tells : Tells past hub) : past.countP Event.starts ≤ 1 := by
  rcases tells with unbound | ⟨server, bound⟩
  · rw [unbound.countP_starts]
    exact Nat.zero_le 1
  · have counted := bound.starts
    split at counted
    · exact counted.trans (Nat.zero_le 1)
    · exact counted

/-- There is an address exactly if something was bound. -/
theorem bound_isSome (tells : Tells past hub) : hub.bound.isSome = past.any Event.binds := by
  rcases tells with unbound | ⟨server, bound⟩
  · rw [unbound.bound, unbound.any_binds]
    rfl
  · rw [bound.bound, bound.any_binds]
    rfl

/-- The address is the one that was bound. -/
theorem bound_eq (tells : Tells past hub) : hub.bound = address? past := by
  rcases tells with unbound | ⟨server, bound⟩
  · rw [unbound.bound, address?, unbound.find?_binds]
    rfl
  · rw [bound.bound, bound.address]

/-- The services are those that were registered. -/
theorem services_eq (tells : Tells past hub) :
    hub.services = past.filterMap Event.registered? := by
  rcases tells with unbound | ⟨server, bound⟩
  · rw [services, unbound.server, unbound.registered]
    rfl
  · rw [services, bound.holds, ← bound.services]
    rfl

/-- A server runs exactly if it was started and not stopped since. -/
theorem isServing_iff (tells : Tells past hub) : hub.isServing = true ↔ WasStarted past := by
  rcases tells with unbound | ⟨server, bound⟩
  · simp [isServing, unbound.bound, unbound.not_wasStarted]
  · simp [isServing, bound.bound, bound.holds, bound.serving]

/-- The address stays what it was when the server was bound. -/
theorem bound_run (tells : Tells past hub) (wasBound : past.any Event.binds = true)
    (later : List Request) : (hub.run later).2.bound = hub.bound := by
  rw [(tells.run later).bound_eq, tells.bound_eq, address?, address?, List.find?_append]
  obtain ⟨event, found⟩ := Option.isSome_iff_exists.mp ((any_binds_eq past) ▸ wasBound)
  rw [found]
  rfl

/-- Binding a second time is refused. -/
theorem bindServer_again (tells : Tells past hub) (wasBound : past.any Event.binds = true)
    (files : Files) (listen : Except InputError String) :
    hub.bindServer files listen = (.error alreadyInitialized, hub) := by
  rcases tells with unbound | ⟨server, bound⟩
  · simp [unbound.any_binds] at wasBound
  · simp [bindServer, bound.holds]

/-- Services are registered between the binding and the start. -/
theorem register_answer (tells : Tells past hub) (service : String) :
    (hub.register service).1 =
      if !past.any Event.binds then .error notInitialized
      else if wasAskedToStart past then .error (Server.tooLate service)
      else .ok () := by
  rcases tells with unbound | ⟨server, bound⟩
  · rw [register, withServer_of_unbound _ unbound.server, unbound.any_binds]
    rfl
  · have listening := bound.listening
    cases asked : wasAskedToStart past <;>
      simp_all [register, withServer, bound.holds, bound.any_binds, Server.register]

/-- A start before the binding is refused. -/
theorem startServer_early (tells : Tells past hub) (early : past.any Event.binds = false)
    (sound : Credentials → Bool) : hub.startServer sound = (.error notInitialized, hub) := by
  rcases tells with unbound | ⟨server, bound⟩
  · exact withServer_of_unbound _ unbound.server
  · simp [bound.any_binds] at early

/-- Stopping a server that does not run goes well. -/
theorem stopServer_idle (tells : Tells past hub) (idle : hub.isServing = false) (waited : Span)
    (ending : Ending) : hub.stopServer waited ending = (.ok (), hub) := by
  rcases tells with unbound | ⟨server, bound⟩
  · exact stopServer_of_unbound waited ending unbound.server
  · have rests : server.running = false := by
      rw [bound.running]
      simpa [isServing, bound.bound, bound.holds] using idle
    obtain ⟨settings, _, address, clients⟩ := hub
    obtain rfl := bound.holds
    simp [stopServer, Server.stop, rests]

end Tells

/-- The calls of a run with their answers. -/
def history (hub : Hub) (requests : List Request) : List Event :=
  requests.zip (hub.run requests).1

/-- The server of a hub is bound at most once and started at most once. What the calls so far were
answered tells its address, which never changes, its services, whether it is serving, and which
calls come too early or too late. -/
theorem server_life_cycle (settings : Settings.Remote) (requests : List Request) :
    let past := (new settings).history requests
    let hub := ((new settings).run requests).2
    past.countP Event.binds ≤ 1 ∧ past.countP Event.starts ≤ 1 ∧
      hub.bound.isSome = past.any Event.binds ∧ hub.bound = address? past ∧
      (∀ later, past.any Event.binds = true → (hub.run later).2.bound = hub.bound) ∧
      hub.services = past.filterMap Event.registered? ∧
      (hub.isServing = true ↔ WasStarted past) ∧
      (∀ files listen, past.any Event.binds = true →
        hub.bindServer files listen = (.error alreadyInitialized, hub)) ∧
      (∀ service, (hub.register service).1 =
        if !past.any Event.binds then .error notInitialized
        else if wasAskedToStart past then .error (Server.tooLate service)
        else .ok ()) ∧
      (∀ sound, past.any Event.binds = false →
        hub.startServer sound = (.error notInitialized, hub)) ∧
      (∀ waited ending, hub.isServing = false →
        hub.stopServer waited ending = (.ok (), hub)) := by
  intro past hub
  have tells : Tells past hub := (tells_new settings).run requests
  exact ⟨tells.binds_le_one, tells.starts_le_one, tells.bound_isSome, tells.bound_eq,
    fun later wasBound => tells.bound_run wasBound later, tells.services_eq, tells.isServing_iff,
    fun files listen wasBound => tells.bindServer_again wasBound files listen,
    tells.register_answer, fun sound early => tells.startServer_early early sound,
    fun waited ending idle => tells.stopServer_idle idle waited ending⟩

/-- A start before there is a server, a start that its credentials let fail, and what comes after
it. -/
theorem server_life_cycle_failed_start :
    let tls : Settings.Tls := { enabled := true, certFile := "cert.pem", keyFile := "key.pem" }
    let settings : Settings.Remote := { server := { tls := some tls } }
    let files : Files := ⟨[("cert.pem", ⟨#[]⟩), ("key.pem", ⟨#[]⟩)]⟩
    let requests : List Request := [.bindServer ⟨[]⟩ (.ok "127.0.0.1:1"),
      .bindServer files (.ok "127.0.0.1:9000"), .register "users.Users",
      .startServer fun _ => false]
    let hub := ((new settings).run requests).2
    (new settings).startServer (fun _ => true) = (.error notInitialized, new settings) ∧
      hub.bound = some "127.0.0.1:9000" ∧ hub.services = ["users.Users"] ∧
      hub.isServing = false ∧
      (hub.run [.close ⟨0⟩ .late]).2.bound = hub.bound ∧
      hub.bindServer files (.ok "127.0.0.1:9001") = (.error alreadyInitialized, hub) ∧
      (hub.register "orders.Orders").1 = .error (Server.tooLate "orders.Orders") ∧
      hub.stopServer ⟨5⟩ .late = (.ok (), hub) := by
  intro tls settings files requests
  dsimp only
  have wasBound : ((new settings).history requests).any Event.binds = true := by decide +kernel
  have asked : wasAskedToStart ((new settings).history requests) = true := by decide +kernel
  have idle : ((new settings).run requests).2.isServing = false := by decide +kernel
  obtain ⟨-, -, -, address, stays, services, -, again, registers, -, stop⟩ :=
    server_life_cycle settings requests
  obtain ⟨-, -, -, -, -, -, -, -, -, early, -⟩ := server_life_cycle settings []
  refine ⟨early (fun _ => true) rfl, ?_, ?_, idle, stays _ wasBound, again _ _ wasBound, ?_,
    stop _ _ idle⟩
  · exact address.trans (by decide +kernel)
  · exact services.trans (by decide +kernel)
  · rw [registers, wasBound, asked]
    rfl

end Hub

end Backplane.Rpc
