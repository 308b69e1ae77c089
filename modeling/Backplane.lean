import Backplane.Assembly
import Backplane.Cache.Call
import Backplane.Cache.Key
import Backplane.Catalogue
import Backplane.Cells
import Backplane.Config.Error
import Backplane.Config.Path
import Backplane.Config.Record
import Backplane.Config.Scalar
import Backplane.Config.Source
import Backplane.Config.Value
import Backplane.Database.Pool
import Backplane.Decimal.Binary
import Backplane.Decimal.Layout
import Backplane.Decimal.Read
import Backplane.Decimal.Shortest
import Backplane.Entries
import Backplane.Fault
import Backplane.Files
import Backplane.Health
import Backplane.Ini
import Backplane.Json.Print
import Backplane.Json.Read
import Backplane.Json.Value
import Backplane.Json5
import Backplane.Language
import Backplane.Log.Event
import Backplane.Log.Filter
import Backplane.Log.Pattern
import Backplane.Log.Sinks
import Backplane.Metrics.Exposition
import Backplane.Metrics.Registry
import Backplane.Metrics.Tally
import Backplane.Proofs.Cache.Expiry
import Backplane.Proofs.Cache.Isolation
import Backplane.Proofs.Cache.Lists
import Backplane.Proofs.Cells
import Backplane.Proofs.Decimal.Whole
import Backplane.Proofs.Disclosure
import Backplane.Proofs.Entries
import Backplane.Proofs.FailedLoad
import Backplane.Proofs.Flattening
import Backplane.Proofs.Json.Leaves
import Backplane.Proofs.Json.Reading
import Backplane.Proofs.Json.Written
import Backplane.Proofs.Language
import Backplane.Proofs.RateLimit.Agreement
import Backplane.Proofs.RateLimit.Batches
import Backplane.Proofs.RateLimit.Change
import Backplane.Proofs.RateLimit.Commands
import Backplane.Proofs.RateLimit.Known
import Backplane.Proofs.RateLimit.Recency
import Backplane.Proofs.RateLimit.Recorded
import Backplane.Proofs.RateLimit.Refinement
import Backplane.Proofs.RateLimit.Scripts
import Backplane.Proofs.RateLimit.Server
import Backplane.Proofs.RateLimit.TrailingWindow
import Backplane.Proofs.Redis.Redaction
import Backplane.Proofs.Redis.SortedSet
import Backplane.Proofs.Rpc.Admission
import Backplane.Proofs.Rpc.Backoff
import Backplane.Proofs.Rpc.Breakdown
import Backplane.Proofs.Rpc.Bucket
import Backplane.Proofs.Rpc.Clients
import Backplane.Proofs.Rpc.Counting
import Backplane.Proofs.Rpc.Course
import Backplane.Proofs.Rpc.Encryption
import Backplane.Proofs.Rpc.Endpoint
import Backplane.Proofs.Rpc.FailedCalls
import Backplane.Proofs.Rpc.LifeCycle
import Backplane.Proofs.Rpc.Negotiation
import Backplane.Proofs.Rpc.Retry
import Backplane.Proofs.Rpc.Stages
import Backplane.Proofs.Rpc.Staleness
import Backplane.Proofs.Shutdown
import Backplane.Proofs.Startup
import Backplane.Proofs.Template
import Backplane.Proofs.Text.Fields
import Backplane.Proofs.Translator
import Backplane.RateLimit.Commands
import Backplane.RateLimit.Ledger
import Backplane.RateLimit.Limiter
import Backplane.RateLimit.Shared
import Backplane.RateLimit.Sliding
import Backplane.Redis.Address
import Backplane.Redis.Command
import Backplane.Redis.Connection
import Backplane.Redis.Error
import Backplane.Redis.Reply
import Backplane.Redis.SortedSet
import Backplane.Redis.Url
import Backplane.Ron
import Backplane.Rpc.Bucket
import Backplane.Rpc.Call
import Backplane.Rpc.Clients
import Backplane.Rpc.Course
import Backplane.Rpc.Credentials
import Backplane.Rpc.Endpoint
import Backplane.Rpc.Headers
import Backplane.Rpc.Hub
import Backplane.Rpc.Layer
import Backplane.Rpc.Negotiation
import Backplane.Rpc.Retry
import Backplane.Rpc.Roster
import Backplane.Rpc.Server
import Backplane.Rpc.Service
import Backplane.Rpc.Stack
import Backplane.Rpc.Stages
import Backplane.Rpc.Status
import Backplane.Rpc.Tasks
import Backplane.Rpc.Turns
import Backplane.Rpc.Uri
import Backplane.Settings.Basic
import Backplane.Settings.Read
import Backplane.Span
import Backplane.SystemError
import Backplane.Template
import Backplane.Text.Alphanumeric
import Backplane.Text.Blank
import Backplane.Text.Cased
import Backplane.Text.Fields
import Backplane.Text.Hexadecimal
import Backplane.Text.Lower
import Backplane.Text.Percent
import Backplane.Text.Printable
import Backplane.Text.Quoted
import Backplane.Text.Ranges
import Backplane.Text.Utf8
import Backplane.Toml.Read
import Backplane.Toml.Scalar
import Backplane.Toml.Table
import Backplane.Translator
import Backplane.Yaml.Block
import Backplane.Yaml.Character
import Backplane.Yaml.Cursor
import Backplane.Yaml.Grammar
import Backplane.Yaml.Lexer
import Backplane.Yaml.Node
import Backplane.Yaml.Quoted
import Backplane.Yaml.Scalar
import Backplane.Yaml.Separation
import Backplane.Yaml.Tag
import Backplane.Yaml.Token
import Backplane.Yaml.Word
