import Admission.Json.Value
import Admission.Json.Parse
import Admission.Json.Print
import Admission.Json.Reader
import Admission.Binary64.Basic
import Admission.Binary64.Arith
import Admission.Decimal.Shortest
import Admission.Decimal.Format
import Admission.Decimal.Read
import Admission.Limit
import Admission.Fault
import Admission.FileSystem
import Admission.Text.Printable
import Admission.Text.Stray
import Admission.Text.Quoted
import Admission.Json.Number
import Admission.Provider
import Admission.Router
import Admission.Role
import Admission.Routing.Cycle
import Admission.Qos.Policy
import Admission.Routing.Pick
import Admission.Time
import Admission.Quota.Item
import Admission.Quota.Sliding
import Admission.Quota.Memory
import Admission.Quota.Counters
import Admission.Quota.Window
import Admission.Quota.Limiter
import Admission.Access.Quotas
import Admission.Notify.Notification
import Admission.Script.Basic
import Admission.Script.Routing
import Admission.Script.Quota
import Admission.Text.Glob
import Admission.KeyValue.Server
import Admission.KeyValue.Client
import Admission.Quota.Remote
import Admission.Script.KeyValue
import Admission.Script.Limiter
import Admission.Access.Checker
import Admission.Script.Access
import Admission.Directory.Cache
import Admission.Script.Cache
import Admission.Text.Duration
import Admission.Config.Settings
import Admission.Script.Config
import Admission.Secrets.StoreUrls
import Admission.Yaml.Reader
import Admission.Yaml.Cursor
import Admission.Yaml.Scalars
import Admission.Yaml.Properties
import Admission.Yaml.Tokens
import Admission.Yaml.Resolve
import Admission.Yaml.Compose
import Admission.Yaml.Decode
import Admission.Text.Expand
import Admission.Directory.Seed
import Admission.Script.Seed
import Admission.Directory.Catalog
import Admission.Directory.Tables
import Admission.Signals.Tracker
import Admission.Signals.Remote
import Admission.Routing.Selector
import Admission.Service
import Admission.Http.Message
import Admission.Http.Route
import Admission.Http.Api
import Admission.Directory.Backend
import Admission.Gateway.World
import Admission.Gateway.Launch
import Admission.Script.Cloud
import Admission.Script.Gateway
import Admission.Script.Database
import Admission.Text.IpAddress
import Admission.Text.Url
import Admission.Http.RequestLine
import Admission.KeyValue.Dial
import Admission.Script.Stores
import Admission.Telemetry.Trace
import Admission.Telemetry.Exporter
import Admission.Script.Trace
import Admission.Script.Process
import Admission.Proofs.CounterStore
import Admission.Proofs.FixedWindow
import Admission.Proofs.MovingWindow
import Admission.Proofs.SlidingWindow
import Admission.Proofs.Remaining
import Admission.Proofs.Independence
import Admission.Proofs.Reads
import Admission.Proofs.FailOpen
import Admission.Proofs.InFlight
import Admission.Proofs.AccessCheck
import Admission.Proofs.Selection
import Admission.Proofs.OffsetStore
import Admission.Proofs.Rotation
import Admission.Proofs.EntryCodec
import Admission.Proofs.RoleCache
import Admission.Proofs.CycleRestart
import Admission.Proofs.Deduplication
import Admission.Proofs.AdminGate
import Admission.Proofs.SubmitCalls
import Admission.Proofs.SeedValidation
import Admission.Proofs.SeededCatalog
import Admission.Proofs.TableRoundTrip
import Admission.Proofs.CounterReset
import Admission.Proofs.CompletionLatency
import Admission.Proofs.SettingsBounds
import Admission.Proofs.AdmissionAnswers
import Admission.Proofs.SignalReads
import Admission.Proofs.CounterExpiry
