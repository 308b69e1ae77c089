/-
This file puts the parts of a service together from its settings, and takes them down again.
-/

import Backplane.Database.Pool
import Backplane.Log.Sinks
import Backplane.Metrics.Registry
import Backplane.RateLimit.Limiter
import Backplane.Rpc.Hub
import Backplane.Rpc.Stack
import Backplane.Settings.Read
import Backplane.Translator

namespace Backplane

/-- The parts of a service. -/
structure Assembly where
  settings : Settings
  logger : Option Log.Logger
  collector : Metrics.Collector
  /-- Tells whether there is a connection to the cache server. -/
  cached : Bool
  limiter : RateLimit.Plan
  translator : Translator
  database : Option Database.Pool
  rpc : Rpc.Hub

namespace Assembly

/-- What a service meets outside itself while it starts. -/
structure Outside where
  files : Files
  log : Log.Opening
  cache : Redis.Contact
  limiter : Redis.Contact
  database : Database.Contact

/-- The cache server of the settings; one without an address does not count. -/
def cacheServer? (settings : Settings) : Option Settings.CacheServer :=
  settings.redis.filter fun server => !server.url.isEmpty

/-- The database of the settings; one without an address does not count. -/
def databaseOf? (settings : Settings) : Option Settings.Database :=
  settings.database.filter fun database => !database.url.isEmpty

/-- A server that is secured names its certificate and key. -/
def checkServer (server : Settings.Server) : Except Fault Unit :=
  match server.tls.filter Settings.Tls.enabled with
  | some tls => if tls.lacksCertificate then .error Rpc.Credentials.noCertificate else .ok ()
  | none => .ok ()

/-- A client that is secured verifies its server. -/
def checkClient (client : Settings.Client) : Except Fault Unit :=
  match Rpc.Endpoint.security? client with
  | some tls => if tls.insecureSkipVerify then .error Rpc.Credentials.unverified else .ok ()
  | none => .ok ()

/-- What the parts demand of the settings alone, in the order in which they are made. -/
def check (settings : Settings) : Except Fault Unit := do
  Log.Logger.checkSinks settings.log
  Log.Logger.checkReporting settings.reporting
  let _ ← RateLimit.plan settings.rateLimit (cacheServer? settings).isSome
  checkServer settings.rpc.server
  settings.rpc.clients.forM fun (_, client) => checkClient client

/-- Makes the collector that settings ask for. -/
def makeCollector (settings : Settings.Metrics) : Except Fault Metrics.Collector :=
  if settings.enabled then
    match Metrics.Registry.create settings.namespaceName with
    | .ok registry => .ok (.registering registry)
    | .error error => .error (.metrics error)
  else .ok .discarding

/-- Makes the limiter that settings ask for; one with an address of its own connects to it. -/
def makeLimiter (settings : Settings.Limiter) (common : Bool) (contact : Redis.Contact) :
    Except Fault RateLimit.Plan := do
  let plan ← RateLimit.plan settings common
  match plan with
  | .shared (some address) _ _ _ => Redis.connect address RateLimit.contactTime contact
  | _ => pure ()
  return plan

/-- Makes the translator that settings ask for. -/
def makeTranslator (settings : Settings.Localization) (files : Files) :
    Except Fault Translator :=
  let empty := Translator.new settings.language
  match settings.directory with
  | none => .ok empty
  | some directory =>
      match empty.load files directory with
      | (loaded, .ok ()) => .ok loaded
      | (_, .error fault) => .error fault

/-- Connects to the cache server that settings name, and tells whether there is one. -/
def connectCache (settings : Settings) (contact : Redis.Contact) : Except Fault Bool :=
  match cacheServer? settings with
  | none => .ok false
  | some server => do
      Redis.connect server.url (.ofSeconds server.connectTimeout.toNat) contact
      return true

/-- Opens the database that settings name. -/
def openDatabase (settings : Settings) (contact : Database.Contact) :
    Except Fault (Option Database.Pool) :=
  match databaseOf? settings with
  | none => .ok none
  | some database => do
      let pool ← Database.Pool.connect database contact
      return some pool

/-- Starts a service. The parts are made in turn, and the first failure ends the start. -/
def start (settings : Settings) (outside : Outside) : Except Fault Assembly := do
  let logger ← Log.Logger.openLog settings.log settings.reporting outside.log
  let collector ← makeCollector settings.metrics
  let cached ← connectCache settings outside.cache
  let limiter ← makeLimiter settings.rateLimit cached outside.limiter
  let translator ← makeTranslator settings.localization outside.files
  let database ← openDatabase settings outside.database
  return {
    settings, logger := some logger, collector, cached, limiter, translator, database
    rpc := .new settings.rpc }

/-- Starts a service from its configuration. -/
def startFrom (config : Config.Value) (outside : Outside) : Except Fault Assembly :=
  match Settings.ofValue config with
  | .error error => .error (.config error)
  | .ok settings => start settings outside

/-- The layers around the server of a service. Calls of health checks are not limited. -/
def stack {σ : Type} (assembly : Assembly)
    (allow : String → Nat → σ → Except Fault Bool × σ) : Rpc.Stack σ where
  recovery := true
  logging := true
  metrics := true
  limit :=
    if assembly.settings.rateLimit.enabled then
      some { allow, exempts := fun call => .ok (Rpc.Bucket.exemptsHealth call) }
    else none
  language :=
    some (.new assembly.settings.localization.header assembly.settings.localization.language)

/-- Reports a message, and tells whether it was sent; nothing is sent without a log. -/
def capture (assembly : Assembly) : Bool := assembly.logger.any Log.Logger.capture

/-- Takes a service down: the server and the clients first, then the database, last the log. Every
step is taken, and the result is that of stopping the server. -/
def shutdown (assembly : Assembly) (waited : Span) (ending : Rpc.Ending) :
    Except Fault Unit × Assembly :=
  let (result, rpc) := assembly.rpc.close waited ending
  (result,
    { assembly with
      rpc
      database := assembly.database.map Database.Pool.close
      logger := none })

/-- Something that happens to a running service. -/
inductive Event
  | server (request : Rpc.Hub.Request)
  | clients (request : Rpc.Clients.Request)
  | serverExits
  | databaseCloses
  | measured (measurement : Metrics.Measurement)
  | translated (change : Translator → Translator)
  | shutdown (waited : Span) (ending : Rpc.Ending)

/-- Changes the server and the clients. -/
def withHub (assembly : Assembly) (change : Rpc.Hub → Rpc.Hub) : Assembly :=
  { assembly with rpc := change assembly.rpc }

def step (assembly : Assembly) : Event → Assembly
  | .server request => assembly.withHub fun hub => (hub.step request).2
  | .clients request =>
      assembly.withHub fun hub => { hub with clients := (hub.clients.step request).2 }
  | .serverExits =>
      assembly.withHub fun hub => { hub with server := hub.server.map Rpc.Server.exit }
  | .databaseCloses => { assembly with database := assembly.database.map Database.Pool.close }
  | .measured measurement => { assembly with collector := assembly.collector.record measurement }
  | .translated change => { assembly with translator := change assembly.translator }
  | .shutdown waited ending => (assembly.shutdown waited ending).2

/-- A service in a state that it comes to after a start. -/
inductive Reachable : Assembly → Prop
  | start {settings : Settings} {outside : Outside} {assembly : Assembly}
      (started : Assembly.start settings outside = .ok assembly) : Reachable assembly
  | step {assembly : Assembly} (before : Reachable assembly) (event : Event) :
      Reachable (assembly.step event)

end Assembly

end Backplane
