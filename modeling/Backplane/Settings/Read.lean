/-
This file reads settings from a configuration value. What the configuration does not set keeps
its usual value.
-/

import Backplane.Config.Record
import Backplane.Settings.Basic

namespace Backplane.Settings

open Config

def listenerRecord : Record Listener :=
  { name := "HttpSettings"
    initial := {}
    fields :=
      [.of "enabled" Value.toBool fun value record => { record with enabled := value },
        .of "host" Value.toText fun value record => { record with host := value },
        .of "port" Value.toUInt16 fun value record => { record with port := value }] }

def logRecord : Record LogSinks :=
  { name := "LogSettings"
    initial := {}
    fields :=
      [.of "level" Value.toText fun value record => { record with level := value },
        .of "directory" Value.toText fun value record => { record with directory := value },
        .of "filename" Value.toText fun value record => { record with filename := value },
        .of "stdout" Value.toBool fun value record => { record with stdout := value },
        .of "json" Value.toBool fun value record => { record with json := value },
        .of "rotation" (Value.toChoice "LogRotation" Rotation.choices)
          fun value record => { record with rotation := value },
        .of "max_files" Value.toUInt64 fun value record => { record with maxFiles := value }] }

def reportingRecord : Record Reporting :=
  { name := "SentrySettings"
    initial := {}
    fields :=
      [.of "enabled" Value.toBool fun value record => { record with enabled := value },
        .of "dsn" Value.toText fun value record => { record with dsn := value },
        .of "environment" Value.toText fun value record => { record with environment := value },
        .of "debug" Value.toBool fun value record => { record with debug := value },
        .of "sample_rate" Value.toSingle
          fun value record => { record with sampleRate := value },
        .of "traces_sample_rate" Value.toSingle
          fun value record => { record with tracesSampleRate := value }] }

def metricsRecord : Record Metrics :=
  { name := "MetricsSettings"
    initial := {}
    fields :=
      [.of "enabled" Value.toBool fun value record => { record with enabled := value },
        .of "namespace" Value.toText
          fun value record => { record with namespaceName := value }] }

def cacheRecord : Record CacheServer :=
  { name := "RedisSettings"
    initial := { url := "" }
    fields :=
      [(Field.of "url" Value.toText fun value record => { record with url := value }).needed,
        .of "key_prefix" (Value.toOptional Value.toText)
          fun value record => { record with keyPrefix := value },
        .of "connect_timeout_secs" Value.toUInt64
          fun value record => { record with connectTimeout := value }] }

def databaseRecord : Record Database :=
  { name := "DatabaseSettings"
    initial := { url := "" }
    fields :=
      [(Field.of "url" Value.toText fun value record => { record with url := value }).needed,
        .of "max_connections" Value.toUInt32
          fun value record => { record with maxConnections := value },
        .of "min_connections" Value.toUInt32
          fun value record => { record with minConnections := value },
        .of "max_lifetime_secs" Value.toUInt64
          fun value record => { record with maxLifetime := value },
        .of "idle_timeout_secs" Value.toUInt64
          fun value record => { record with idleTimeout := value },
        .of "connect_timeout_secs" Value.toUInt64
          fun value record => { record with connectTimeout := value },
        .of "health_check_interval_secs" Value.toUInt64
          fun value record => { record with healthCheckInterval := value }] }

def limiterRecord : Record Limiter :=
  { name := "RateLimitSettings"
    initial := {}
    fields :=
      [.of "enabled" Value.toBool fun value record => { record with enabled := value },
        (Field.of "backend" (Value.toChoice "RateLimitBackend" Backend.choices)
          fun value record => { record with backend := value }).orAlias "type",
        .of "limit" Value.toUInt64 fun value record => { record with limit := value },
        .of "window_secs" Value.toUInt64
          fun value record => { record with windowSeconds := value },
        .of "prefix" Value.toText fun value record => { record with keyPrefix := value },
        .of "redis_url" (Value.toOptional Value.toText)
          fun value record => { record with redisUrl := value }] }

def localizationRecord : Record Localization :=
  { name := "I18nSettings"
    initial := {}
    fields :=
      [.of "default_language" (Value.toChoice "Language" languageChoices)
          fun value record => { record with language := value },
        .of "directory" (Value.toOptional Value.toText)
          fun value record => { record with directory := value },
        .of "header" Value.toText fun value record => { record with header := value }] }

def keepAliveRecord : Record KeepAlive :=
  { name := "KeepAliveSettings"
    initial := {}
    fields :=
      [.of "time_secs" Value.toUInt64 fun value record => { record with time := value },
        .of "timeout_secs" Value.toUInt64 fun value record => { record with timeout := value },
        .of "permit_without_stream" Value.toBool
          fun value record => { record with permitWithoutStream := value }] }

def tlsRecord : Record Tls :=
  { name := "TlsSettings"
    initial := {}
    fields :=
      [.of "enabled" Value.toBool fun value record => { record with enabled := value },
        .of "cert_file" Value.toText fun value record => { record with certFile := value },
        .of "key_file" Value.toText fun value record => { record with keyFile := value },
        .of "ca_file" Value.toText fun value record => { record with caFile := value },
        .of "server_name" Value.toText fun value record => { record with serverName := value },
        .of "insecure_skip_verify" Value.toBool
          fun value record => { record with insecureSkipVerify := value }] }

def retryRecord : Record Rpc.Retry :=
  { name := "RetrySettings"
    initial := {}
    fields :=
      [.of "max_attempts" Value.toUInt32
          fun value record => { record with maxAttempts := value },
        .of "initial_backoff_ms" Value.toUInt64
          fun value record => { record with initialBackoff := value },
        .of "max_backoff_ms" Value.toUInt64
          fun value record => { record with maxBackoff := value },
        .of "backoff_multiplier" Value.toFloat
          fun value record => { record with multiplier := value }] }

def serverRecord : Record Server :=
  { name := "GrpcServerSettings"
    initial := {}
    fields :=
      [.of "host" Value.toText fun value record => { record with host := value },
        .of "port" Value.toUInt16 fun value record => { record with port := value },
        .of "max_recv_msg_size" Value.toUInt64
          fun value record => { record with maxReceiveSize := value },
        .of "max_send_msg_size" Value.toUInt64
          fun value record => { record with maxSendSize := value },
        .of "request_timeout_secs" Value.toUInt64
          fun value record => { record with requestTimeoutSeconds := value },
        .of "keepalive" keepAliveRecord.convert
          fun value record => { record with keepAlive := value },
        .of "tls" (Value.toOptional tlsRecord.convert)
          fun value record => { record with tls := value }] }

def clientRecord : Record Client :=
  { name := "GrpcClientSettings"
    initial := {}
    fields :=
      [(Field.of "target" Value.toText
          fun value record => { record with target := value }).orAlias "address",
        .of "max_recv_msg_size" Value.toUInt64
          fun value record => { record with maxReceiveSize := value },
        .of "max_send_msg_size" Value.toUInt64
          fun value record => { record with maxSendSize := value },
        .of "connection_timeout_secs" Value.toUInt64
          fun value record => { record with connectionTimeout := value },
        .of "keepalive" keepAliveRecord.convert
          fun value record => { record with keepAlive := value },
        .of "tls" (Value.toOptional tlsRecord.convert)
          fun value record => { record with tls := value },
        .of "retry" retryRecord.convert fun value record => { record with retry := value }] }

def remoteRecord : Record Remote :=
  { name := "GrpcSettings"
    initial := {}
    fields :=
      [.of "server" serverRecord.convert fun value record => { record with server := value },
        .of "clients" (Value.toMap clientRecord.convert)
          fun value record => { record with clients := value }] }

def record : Record Settings :=
  { name := "Settings"
    initial := {}
    fields :=
      [.of "environment" Value.toText
          fun value record => { record with environment := value },
        .of "http" listenerRecord.convert fun value record => { record with http := value },
        .of "log" logRecord.convert fun value record => { record with log := value },
        .of "sentry" reportingRecord.convert
          fun value record => { record with reporting := value },
        .of "metrics" metricsRecord.convert
          fun value record => { record with metrics := value },
        .of "redis" (Value.toOptional cacheRecord.convert)
          fun value record => { record with redis := value },
        .of "database" (Value.toOptional databaseRecord.convert)
          fun value record => { record with database := value },
        .of "rate_limit" limiterRecord.convert
          fun value record => { record with rateLimit := value },
        .of "i18n" localizationRecord.convert
          fun value record => { record with localization := value },
        .of "grpc" remoteRecord.convert fun value record => { record with rpc := value }] }

/-- Reads settings and refuses those that no adapter can start with. -/
def ofValue (value : Value) : Except Config.Error Settings := do
  let settings ← record.convert value
  match settings.refusal? with
  | some refusal => .error (.message refusal.message)
  | none => return settings

end Backplane.Settings
