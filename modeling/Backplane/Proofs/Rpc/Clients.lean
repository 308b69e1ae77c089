import Backplane.Proofs.Entries
import Backplane.Proofs.Rpc.Endpoint
import Backplane.Rpc.Roster

namespace Backplane.Rpc

/-- Closing a client takes its channel away and nothing else, whether or not it has one. -/
theorem Clients.close_frame (clients : Clients) (name : String) :
    (clients.close name).2.configured = clients.configured ∧
      (clients.close name).2.built = clients.built ∧
      ∀ other, (clients.close name).2.channels.get? other =
        if name = other then none else clients.channels.get? other := by
  unfold close
  split
  next => exact ⟨rfl, rfl, fun other => Entries.get?_erase name other clients.channels⟩
  next idle =>
    refine ⟨rfl, rfl, ?_⟩
    intro other
    split
    next same =>
      subst same
      simpa [isConnected] using idle
    next => rfl

/-- Clients and a roster that hold the same. -/
structure Mirrors (clients : Clients) (roster : Roster) : Prop where
  configured : ∀ name, clients.configured.get? name = (roster.record? name).map Record.settings
  channels : ∀ name, clients.channels.get? name = (roster.record? name).bind Record.channel
  built : clients.built = roster.built
  ordered : clients.names.Pairwise (· < ·)

namespace Mirrors

variable {clients next : Clients} {roster : Roster} {name : String}

theorem empty : Mirrors {} {} where
  configured := fun _ => rfl
  channels := fun _ => rfl
  built := rfl
  ordered := .nil

/-- A client has a channel exactly if its record has. -/
theorem isConnected_eq (mirrors : Mirrors clients roster) (name : String) :
    clients.isConnected name = roster.connected name := by
  rw [Clients.isConnected, mirrors.channels, Roster.connected]
  cases roster.record? name <;> rfl

/-- A client has a name exactly if it has a record. -/
theorem mem_names_iff (mirrors : Mirrors clients roster) (name : String) :
    name ∈ clients.names ↔ (roster.record? name).isSome = true := by
  rw [Clients.names, Entries.mem_names_iff, mirrors.configured, Option.isSome_map]

/-- A change of one name is mirrored by a new record. -/
theorem set (mirrors : Mirrors clients roster) {record : Option Record}
    (configured : ∀ other, next.configured.get? other =
      if name = other then record.map Record.settings else clients.configured.get? other)
    (channels : ∀ other, next.channels.get? other =
      if name = other then record.bind Record.channel else clients.channels.get? other)
    (built : next.built = clients.built) (ordered : next.names.Pairwise (· < ·)) :
    Mirrors next (roster.set name record) where
  configured := by
    intro other
    rw [configured, mirrors.configured, Roster.record?_set]
    split <;> rfl
  channels := by
    intro other
    rw [channels, mirrors.channels, Roster.record?_set]
    split <;> rfl
  built := built.trans mirrors.built
  ordered := ordered

/-- Adding a client sets its record. -/
theorem add (mirrors : Mirrors clients roster) (name : String) (settings : Settings.Client) :
    Mirrors (clients.add name settings) (roster.set name (some { settings })) := by
  apply mirrors.set
  · intro other
    exact Entries.get?_insert name other settings clients.configured
  · intro other
    exact Entries.get?_erase name other clients.channels
  · rfl
  · exact Entries.insert_ordered mirrors.ordered

/-- Removing one drops its record. -/
theorem forget (mirrors : Mirrors clients roster) (name : String) :
    Mirrors ((clients.disconnect name).forget name) (roster.set name none) := by
  apply mirrors.set
  · intro other
    exact Entries.get?_erase name other clients.configured
  · intro other
    exact Entries.get?_erase name other clients.channels
  · rfl
  · exact Entries.erase_ordered mirrors.ordered

/-- Closing all drops all records. -/
theorem closeAll (mirrors : Mirrors clients roster) :
    Mirrors clients.closeAll { roster with record? := fun _ => none } where
  configured := fun _ => rfl
  channels := fun _ => rfl
  built := mirrors.built
  ordered := .nil

/-- A channel that is built and not kept is counted and nothing else. -/
theorem count (mirrors : Mirrors clients roster) :
    Mirrors { clients with built := clients.built + 1 }
      { roster with built := roster.built + 1 } where
  configured := mirrors.configured
  channels := mirrors.channels
  built := congrArg (· + 1) mirrors.built
  ordered := mirrors.ordered

/-- A client that is not connected gets the channel that was just built. -/
theorem keep (mirrors : Mirrors clients roster) {settings : Settings.Client}
    (found : roster.record? name = some { settings }) (endpoint : Endpoint) :
    let channel : Channel := { number := roster.built, settings, endpoint }
    (clients.keep name settings endpoint).1 = channel ∧
      Mirrors (clients.keep name settings endpoint).2
        { roster.set name (some { settings, channel }) with built := roster.built + 1 } := by
  have configured := mirrors.configured name
  have free := mirrors.channels name
  rw [found] at configured free
  simp only [Clients.keep, free, Option.bind_some, mirrors.built]
  refine ⟨trivial, mirrors.count.set ?_ ?_ ?_ mirrors.ordered⟩
  · intro other
    split
    next same =>
      subst same
      exact configured
    next => rfl
  · intro other
    exact Entries.get?_insert name other _ clients.channels
  · simp [mirrors.built]

/-- A channel is built exactly if there is a record without one. -/
theorem client (mirrors : Mirrors clients roster) (building : Building) (name : String) :
    (clients.client building name).1 = (roster.client building name).1 ∧
      Mirrors (clients.client building name).2 (roster.client building name).2 := by
  have configured := mirrors.configured name
  have channels := mirrors.channels name
  unfold Clients.client Roster.client
  cases found : roster.record? name with
  | none =>
      rw [found] at configured channels
      simp only [channels, configured, Option.bind_none, Option.map_none]
      exact ⟨trivial, mirrors⟩
  | some record =>
      rw [found] at configured channels
      obtain ⟨settings, _ | channel⟩ := record
      · simp only [channels, configured, Option.bind_some, Option.map_some]
        cases made : building settings with
        | error fault => exact ⟨rfl, mirrors⟩
        | ok endpoint =>
            obtain ⟨same, next⟩ := mirrors.keep found endpoint
            exact ⟨congrArg Except.ok same, next⟩
      · simp only [channels, Option.bind_some]
        exact ⟨trivial, mirrors⟩

/-- Closing is answered by the record. -/
theorem close_answer (mirrors : Mirrors clients roster) (name : String) :
    (clients.close name).1 = roster.closing name := by
  rw [Clients.close, Roster.closing, mirrors.isConnected_eq]
  split <;> rfl

/-- Closing takes the channel out of the record. -/
theorem close (mirrors : Mirrors clients roster) (name : String) :
    Mirrors (clients.close name).2 (roster.set name
      ((roster.record? name).map fun record => { record with channel := none })) := by
  obtain ⟨kept, built, gone⟩ := clients.close_frame name
  apply mirrors.set
  · intro other
    rw [kept]
    split
    next same =>
      subst same
      rw [mirrors.configured, Option.map_map]
      rfl
    next => rfl
  · intro other
    rw [gone]
    split
    next => cases roster.record? name <;> rfl
    next => rfl
  · exact built
  · rw [Clients.names, kept]
    exact mirrors.ordered

/-- One call keeps clients and roster alike, and both give the same answer. -/
theorem step (mirrors : Mirrors clients roster) (request : Clients.Request) :
    (clients.step request).1 = (roster.step request).1 ∧
      Mirrors (clients.step request).2 (roster.step request).2 := by
  cases request with
  | add name settings => exact ⟨rfl, mirrors.add name settings⟩
  | client building name =>
      obtain ⟨answer, next⟩ := mirrors.client building name
      exact ⟨congrArg Clients.Answer.channel answer, next⟩
  | close name =>
      exact ⟨congrArg Clients.Answer.done (mirrors.close_answer name), mirrors.close name⟩
  | removeSettings name =>
      refine ⟨congrArg Clients.Answer.known ?_, mirrors.forget name⟩
      rw [mirrors.configured, Option.isSome_map]
  | remove name =>
      refine ⟨congrArg Clients.Answer.done (mirrors.close_answer name), ?_⟩
      -- Closing changes a record that is struck out right after.
      have next := (mirrors.close name).forget name
      rw [Roster.set_set] at next
      exact next
  | closeAll => exact ⟨rfl, mirrors.closeAll⟩

end Mirrors

namespace Hub

variable (hub : Hub)

/-- Binding the server leaves the clients alone. -/
theorem clients_bindServer (files : Files) (listen : Except InputError String) :
    (hub.bindServer files listen).2.clients = hub.clients := by
  unfold bindServer
  split
  next => rfl
  next => cases Server.bind hub.settings.server files listen <;> rfl

/-- Whatever is done to the server leaves the clients alone. -/
theorem clients_withServer (action : Server → Except Fault Unit × Server) :
    (hub.withServer action).2.clients = hub.clients := by
  unfold withServer
  cases hub.server <;> rfl

/-- Stopping the server leaves the clients alone. -/
theorem clients_stopServer (waited : Span) (ending : Ending) :
    (hub.stopServer waited ending).2.clients = hub.clients := by
  unfold stopServer
  cases hub.server <;> rfl

/-- Of the calls that concern the server only closing the hub concerns the clients, too. -/
theorem clients_step (request : Request) :
    (hub.step request).2.clients =
      match request with
      | .close _ _ => hub.clients.closeAll
      | _ => hub.clients := by
  cases request with
  | bindServer files listen =>
      rw [← hub.clients_bindServer files listen, step]
      cases hub.bindServer files listen with
      | mk result next => cases result <;> rfl
  | register service => exact hub.clients_withServer _
  | startServer sound => exact hub.clients_withServer _
  | stopServer waited ending => exact hub.clients_stopServer waited ending
  | close waited ending =>
      exact congrArg Clients.closeAll (hub.clients_stopServer waited ending)

end Hub

namespace Mirrors

variable {hub : Hub} {roster : Roster}

/-- One operation is answered by the roster, which stays a mirror. -/
theorem take (mirrors : Mirrors hub.clients roster) (operation : Hub.Operation) :
    (hub.take operation).1 = (roster.take operation).1 ∧
      Mirrors (hub.take operation).2.clients (roster.take operation).2 := by
  cases operation with
  | clients request =>
      obtain ⟨answer, next⟩ := mirrors.step request
      exact ⟨congrArg some answer, next⟩
  | server request =>
      simp only [Hub.take, Hub.clients_step]
      cases request with
      | close waited ending => exact ⟨rfl, mirrors.closeAll⟩
      | _ => exact ⟨rfl, mirrors⟩

/-- A run of operations is answered by the roster, which stays a mirror. -/
theorem takeAll (mirrors : Mirrors hub.clients roster) (operations : List Hub.Operation) :
    (hub.takeAll operations).1 = (roster.takeAll operations).1 ∧
      Mirrors (hub.takeAll operations).2.clients (roster.takeAll operations).2 := by
  induction operations generalizing hub roster with
  | nil => exact ⟨rfl, mirrors⟩
  | cons operation operations ih =>
      obtain ⟨answer, next⟩ := mirrors.take operation
      obtain ⟨answers, last⟩ := ih next
      simp only [Hub.takeAll, Roster.takeAll]
      exact ⟨congrArg₂ List.cons answer answers, last⟩

/-- The clients of the settings are those of the first roster. -/
theorem addAll {clients : Clients} (mirrors : Mirrors clients roster)
    (settings : Entries Settings.Client) :
    Mirrors (settings.foldl (fun clients (name, client) => clients.add name client) clients)
      (settings.foldl (fun roster (name, client) => roster.set name (some { settings := client }))
        roster) := by
  induction settings generalizing clients roster with
  | nil => exact mirrors
  | cons entry settings ih => exact ih (mirrors.add entry.1 entry.2)

end Mirrors

namespace Roster

variable {past more : List Hub.Operation} {roster : Roster} {name : String}

/-- Every channel was built by a past call, from the settings that are put down beside it. -/
def Fresh (past : List Hub.Operation) (roster : Roster) : Prop :=
  ∀ name record channel, roster.record? name = some record → record.channel = some channel →
    channel.settings = record.settings ∧
      ∃ building, .clients (.client building name) ∈ past ∧
        building record.settings = .ok channel.endpoint

theorem Fresh.empty {built : Nat} : Fresh past { built } := by
  intro name record channel found
  cases found

/-- A roster stays fresh when more has happened. -/
theorem Fresh.later (fresh : roster.Fresh past) : roster.Fresh (past ++ more) := by
  intro name record channel found connected
  obtain ⟨same, building, listed, built⟩ := fresh name record channel found connected
  exact ⟨same, building, List.mem_append_left more listed, built⟩

/-- A roster stays fresh with a record that is. -/
theorem Fresh.set (fresh : roster.Fresh past) {next : Option Record}
    (made : ∀ record channel, next = some record → record.channel = some channel →
      channel.settings = record.settings ∧
        ∃ building, .clients (.client building name) ∈ past ∧
          building record.settings = .ok channel.endpoint) :
    (roster.set name next).Fresh past := by
  intro other record channel found connected
  rw [record?_set] at found
  split at found
  next same =>
    subst same
    exact made record channel found connected
  next => exact fresh other record channel found connected

/-- A record without a channel has none that is out of date. -/
theorem Fresh.drop (fresh : roster.Fresh past) {next : Option Record}
    (dropped : ∀ record, next = some record → record.channel = none) :
    (roster.set name next).Fresh past := by
  apply fresh.set
  intro record channel found connected
  rw [dropped record found] at connected
  cases connected

/-- Asking for a client builds from the settings kept now. -/
theorem Fresh.client (fresh : roster.Fresh past) (building : Building)
    (called : .clients (.client building name) ∈ past) :
    (roster.client building name).2.Fresh past := by
  unfold Roster.client
  split
  next => exact fresh
  next => exact fresh
  next settings found =>
    split
    next => exact fresh
    next endpoint made =>
      apply fresh.set
      rintro record channel ⟨⟩ ⟨⟩
      exact ⟨rfl, building, called, made⟩

/-- A request keeps a roster fresh. -/
theorem Fresh.step (fresh : roster.Fresh past) (request : Clients.Request)
    (called : .clients request ∈ past) : (roster.step request).2.Fresh past := by
  cases request with
  | add name settings =>
      apply fresh.drop
      rintro record ⟨⟩
      rfl
  | client building name => exact fresh.client building called
  | close name =>
      apply fresh.drop
      intro record dropped
      obtain ⟨old, -, rfl⟩ := Option.map_eq_some_iff.mp dropped
      rfl
  | removeSettings name => exact fresh.drop (by simp)
  | remove name => exact fresh.drop (by simp)
  | closeAll => exact Fresh.empty

/-- An operation keeps a roster fresh. -/
theorem Fresh.take (fresh : roster.Fresh past) (operation : Hub.Operation) :
    (roster.take operation).2.Fresh (past ++ [operation]) := by
  have later : roster.Fresh (past ++ [operation]) := fresh.later
  cases operation with
  | clients request => exact later.step request (by simp)
  | server request =>
      cases request with
      | close waited ending => exact Fresh.empty
      | _ => exact later

/-- A run of operations keeps a roster fresh. -/
theorem Fresh.takeAll (fresh : roster.Fresh past) (operations : List Hub.Operation) :
    (roster.takeAll operations).2.Fresh (past ++ operations) := by
  induction operations generalizing past roster with
  | nil => rwa [List.append_nil]
  | cons operation operations ih =>
      have rest := ih (fresh.take operation)
      rw [List.append_assoc] at rest
      exact rest

/-- The settings at the start make no channel. -/
theorem Fresh.setAll (fresh : roster.Fresh past) (settings : Entries Settings.Client) :
    (settings.foldl (fun roster (name, client) => roster.set name (some { settings := client }))
      roster).Fresh past := by
  induction settings generalizing roster with
  | nil => exact fresh
  | cons entry settings ih =>
      apply ih
      apply fresh.drop
      rintro record ⟨⟩
      rfl

/-- Building an endpoint fails in other ways, so only a client without a record is unknown. -/
theorem client_notFound_iff (roster : Roster) (files : Files) (sound : Endpoint.Soundness)
    (name : String) :
    (∃ text, (roster.client (Endpoint.build files sound) name).1 = .error (.notFound text)) ↔
      roster.record? name = none := by
  unfold Roster.client
  rcases roster.record? name with _ | ⟨settings, _ | channel⟩
  · exact ⟨fun _ => rfl, fun _ => ⟨_, rfl⟩⟩
  · refine ⟨?_, by simp⟩
    rintro ⟨text, unknown⟩
    cases made : Endpoint.build files sound settings with
    | error fault =>
        simp only [made, Except.error.injEq] at unknown
        exact absurd (made.trans (congrArg _ unknown))
          (Endpoint.build_ne_notFound files sound settings text)
    | ok endpoint => simp [made] at unknown
  · simp

end Roster

/-- While one call comes after another, clients answer as a roster does; so a client is unknown
exactly if it has no record, and every channel was built from the settings that are kept now. -/
theorem takeAll_eq_roster (settings : Settings.Remote) (operations : List Hub.Operation) :
    let hub := ((Hub.new settings).takeAll operations).2
    let roster := ((Roster.ofSettings settings.clients).takeAll operations).2
    ((Hub.new settings).takeAll operations).1 =
        ((Roster.ofSettings settings.clients).takeAll operations).1 ∧
      (∀ name, hub.clients.isConnected name = roster.connected name) ∧
      hub.clients.names.Pairwise (· < ·) ∧
      (∀ name, name ∈ hub.clients.names ↔ (roster.record? name).isSome = true) ∧
      (∀ name channel, hub.clients.channels.get? name = some channel →
        hub.clients.configured.get? name = some channel.settings ∧
          ∃ building, .clients (.client building name) ∈ operations ∧
            building channel.settings = .ok channel.endpoint) ∧
      ∀ files sound name,
        (∃ text, (hub.clients.client (Endpoint.build files sound) name).1 =
          .error (.notFound text)) ↔ roster.record? name = none := by
  intro hub roster
  have alike : Mirrors (Hub.new settings).clients (.ofSettings settings.clients) :=
    Mirrors.empty.addAll settings.clients
  have idle : (Roster.ofSettings settings.clients).Fresh [] :=
    Roster.Fresh.empty.setAll settings.clients
  obtain ⟨answers, mirrors⟩ := alike.takeAll operations
  have fresh := idle.takeAll operations
  refine ⟨answers, mirrors.isConnected_eq, mirrors.ordered, mirrors.mem_names_iff, ?_, ?_⟩
  · intro name channel connected
    have configured := mirrors.configured name
    rw [mirrors.channels] at connected
    obtain ⟨record, found, kept⟩ := Option.bind_eq_some_iff.mp connected
    rw [found] at configured
    obtain ⟨same, built⟩ := fresh name record channel found kept
    rw [same]
    exact ⟨configured, built⟩
  · intro files sound name
    rw [(mirrors.client (Endpoint.build files sound) name).1]
    exact roster.client_notFound_iff files sound name

/-- A client that is configured anew while it is connected. -/
theorem takeAll_eq_roster_replaced :
    let building := Endpoint.build ⟨[]⟩ fun _ _ => true
    let settings : Settings.Remote := { clients := [("users", { target := "users:50051" })] }
    let operations : List Hub.Operation := [.clients (.client building "users"),
      .clients (.add "users" { target := "users:50052" }), .clients (.client building "users"),
      .clients (.remove "orders")]
    let hub := ((Hub.new settings).takeAll operations).2
    let channel : Channel :=
      { number := 1, settings := { target := "users:50052" },
        endpoint := { uri := { scheme := some "http", authority := "users:50052" } } }
    hub.clients.channels.get? "users" = some channel ∧
      hub.clients.configured.get? "users" = some channel.settings ∧
      hub.clients.isConnected "users" = true ∧ "orders" ∉ hub.clients.names := by
  intro building settings operations hub channel
  obtain ⟨-, connected, -, listed, fresh, -⟩ := takeAll_eq_roster settings operations
  have kept : hub.clients.channels.get? "users" = some channel := rfl
  obtain ⟨configured, -⟩ := fresh "users" _ kept
  refine ⟨kept, configured, (connected "users").trans rfl, ?_⟩
  rw [listed]
  exact Bool.false_ne_true

end Backplane.Rpc
