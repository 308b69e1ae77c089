/-
This file defines the settings of a service and the combinations that are refused.
-/

import Backplane.Entries
import Backplane.Language
import Backplane.Rpc.Retry
import Backplane.Span

namespace Backplane.Settings

/-- A host and a port as one text. -/
def address (host : String) (port : UInt16) : String := host ++ ":" ++ toString port.toNat

/-- The listener for probes and metrics. -/
structure Listener where
  enabled : Bool := true
  host : String := "0.0.0.0"
  port : UInt16 := 9090

def Listener.address (listener : Listener) : String := Settings.address listener.host listener.port

/-- How often a new log file is begun. -/
inductive Rotation
  | minutely
  | hourly
  | daily
  | never
deriving DecidableEq, Repr

def Rotation.choices : List (String × Rotation) :=
  [("minutely", .minutely), ("hourly", .hourly), ("daily", .daily), ("never", .never)]

/-- The places where log lines go. -/
structure LogSinks where
  level : String := "info"
  directory : String := "./logs"
  filename : String := "app.log"
  stdout : Bool := true
  json : Bool := false
  rotation : Rotation := .daily
  maxFiles : UInt64 := 10

/-- The service to which errors are reported. -/
structure Reporting where
  enabled : Bool := false
  dsn : String := ""
  environment : String := "development"
  debug : Bool := false
  sampleRate : Float32 := 1.0
  tracesSampleRate : Float32 := 0.0

structure Metrics where
  enabled : Bool := true
  namespaceName : String := "vgo"

/-- The server that holds the cache. -/
structure CacheServer where
  url : String
  keyPrefix : Option String := none
  connectTimeout : UInt64 := 5

structure Database where
  url : String
  maxConnections : UInt32 := 25
  minConnections : UInt32 := 5
  maxLifetime : UInt64 := 1800
  idleTimeout : UInt64 := 300
  connectTimeout : UInt64 := 5
  healthCheckInterval : UInt64 := 10

/-- Where a rate limiter keeps its events. -/
inductive Backend
  | memory
  | redis
deriving DecidableEq, Repr

def Backend.choices : List (String × Backend) := [("memory", .memory), ("redis", .redis)]

structure Limiter where
  enabled : Bool := true
  backend : Backend := .memory
  limit : UInt64 := 100
  windowSeconds : UInt64 := 60
  keyPrefix : String := "ratelimit"
  redisUrl : Option String := none

def Limiter.window (limiter : Limiter) : Span := .ofSeconds limiter.windowSeconds.toNat

structure Localization where
  language : Language := .english
  directory : Option String := none
  header : String := "accept-language"

def languageChoices : List (String × Language) :=
  Language.all.map fun language => (language.code, language)

structure KeepAlive where
  time : UInt64 := 30
  timeout : UInt64 := 5
  permitWithoutStream : Bool := true

structure Tls where
  enabled : Bool := false
  certFile : String := ""
  keyFile : String := ""
  caFile : String := ""
  serverName : String := ""
  insecureSkipVerify : Bool := false

/-- Tells whether an optional section is there and enabled. -/
def tlsEnabled (tls : Option Tls) : Bool := tls.any Tls.enabled

/-- The size of the largest message, where none is given. -/
def usualMessageSize : UInt64 := 4194304

structure Server where
  host : String := "0.0.0.0"
  port : UInt16 := 9000
  maxReceiveSize : UInt64 := usualMessageSize
  maxSendSize : UInt64 := usualMessageSize
  requestTimeoutSeconds : UInt64 := 0
  keepAlive : KeepAlive := {}
  tls : Option Tls := none

namespace Server

def address (server : Server) : String := Settings.address server.host server.port

/-- The time a call may take; zero means any time. -/
def requestTimeout (server : Server) : Option UInt64 :=
  if server.requestTimeoutSeconds = 0 then none else some server.requestTimeoutSeconds

end Server

structure Client where
  target : String := ""
  maxReceiveSize : UInt64 := usualMessageSize
  maxSendSize : UInt64 := usualMessageSize
  connectionTimeout : UInt64 := 5
  keepAlive : KeepAlive := {}
  tls : Option Tls := none
  retry : Rpc.Retry := {}

structure Remote where
  server : Server := {}
  clients : Entries Client := []

end Settings

/-- The settings of a service. -/
structure Settings where
  environment : String := "development"
  http : Settings.Listener := {}
  log : Settings.LogSinks := {}
  reporting : Settings.Reporting := {}
  metrics : Settings.Metrics := {}
  redis : Option Settings.CacheServer := none
  database : Option Settings.Database := none
  rateLimit : Settings.Limiter := {}
  localization : Settings.Localization := {}
  rpc : Settings.Remote := {}

namespace Settings

/-- A combination that no adapter can start with. -/
inductive Refusal
  | reportingWithoutDsn
  | windowZero
  | serverWithoutCertificate
  | clientUnverified (name : String)
deriving DecidableEq, Repr

def Refusal.message : Refusal → String
  | .reportingWithoutDsn => "sentry.dsn is required when sentry is enabled"
  | .windowZero => "rate_limit.window_secs must be greater than zero"
  | .serverWithoutCertificate => "cert_file and key_file are required for server TLS"
  | .clientUnverified name =>
      "grpc client " ++ name ++ ": insecure_skip_verify is not supported"

/-- Tells whether a text has nothing but blanks. -/
def isBlankText (text : String) : Bool := text.toList.all Text.isBlank

def Reporting.refusal? (reporting : Reporting) : Option Refusal :=
  if reporting.enabled && isBlankText reporting.dsn then some .reportingWithoutDsn else none

def Limiter.refusal? (limiter : Limiter) : Option Refusal :=
  if limiter.enabled && limiter.windowSeconds == 0 then some .windowZero else none

def Tls.lacksCertificate (tls : Tls) : Bool := tls.certFile.isEmpty || tls.keyFile.isEmpty

def Server.refusal? (server : Server) : Option Refusal :=
  if server.tls.any fun tls => tls.enabled && tls.lacksCertificate then
    some .serverWithoutCertificate
  else none

def Client.isUnverified (client : Client) : Bool :=
  client.tls.any fun tls => tls.enabled && tls.insecureSkipVerify

def Remote.refusal? (remote : Remote) : Option Refusal :=
  remote.server.refusal? <|>
    (remote.clients.find? fun (_, client) => client.isUnverified).map fun (name, _) =>
      .clientUnverified name

/-- The first reason to refuse the settings, if there is one. -/
def refusal? (settings : Settings) : Option Refusal :=
  settings.reporting.refusal? <|> settings.rateLimit.refusal? <|> settings.rpc.refusal?

end Settings

end Backplane
