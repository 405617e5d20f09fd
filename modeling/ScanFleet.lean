import ScanFleet.Account.Basic
import ScanFleet.Account.Import
import ScanFleet.Account.Pool
import ScanFleet.Area.Basic
import ScanFleet.Area.Definition
import ScanFleet.Area.Part
import ScanFleet.Area.Registry
import ScanFleet.Cache.Expiring
import ScanFleet.Cache.Scan
import ScanFleet.Cli.Arguments
import ScanFleet.Cli.Program
import ScanFleet.Config.Basic
import ScanFleet.Config.Compose
import ScanFleet.Config.EnvFile
import ScanFleet.Config.File
import ScanFleet.Config.FileTree
import ScanFleet.Config.Layer
import ScanFleet.Config.Load
import ScanFleet.Data.Shape
import ScanFleet.Data.Value
import ScanFleet.Decimal.Exact
import ScanFleet.Decimal.Fixed
import ScanFleet.Decimal.Numeral
import ScanFleet.Decimal.Shortest
import ScanFleet.Diagnostic
import ScanFleet.Error
import ScanFleet.Fleet.Accounts
import ScanFleet.Fleet.Quests
import ScanFleet.Fleet.Reload
import ScanFleet.Fleet.State
import ScanFleet.Fleet.Status
import ScanFleet.Fleet.Upkeep
import ScanFleet.Fleet.View
import ScanFleet.Fleet.Workers
import ScanFleet.Geo.Fence
import ScanFleet.Geo.Location
import ScanFleet.Geo.Route
import ScanFleet.Geo.ZoneMap
import ScanFleet.Http.Controller
import ScanFleet.Http.Endpoint
import ScanFleet.Http.Failure
import ScanFleet.Http.Guard
import ScanFleet.Http.MediaType
import ScanFleet.Http.Message
import ScanFleet.Http.Request
import ScanFleet.Http.Server
import ScanFleet.Http.Status
import ScanFleet.Json.Reader
import ScanFleet.Json.Writer
import ScanFleet.Main
import ScanFleet.Proofs.Area.Columns
import ScanFleet.Proofs.Area.EvenParts
import ScanFleet.Proofs.Area.Partition
import ScanFleet.Proofs.Area.QuestStates
import ScanFleet.Proofs.Area.Reconciliation
import ScanFleet.Proofs.Area.Registry
import ScanFleet.Proofs.Cache.Scans
import ScanFleet.Proofs.Cache.Storings
import ScanFleet.Proofs.Decimal.Nearest
import ScanFleet.Proofs.Decimal.Numerals
import ScanFleet.Proofs.Decimal.Rewritten
import ScanFleet.Proofs.Decimal.Rounding
import ScanFleet.Proofs.Fleet.AccountReloads
import ScanFleet.Proofs.Fleet.Accounts
import ScanFleet.Proofs.Fleet.Atlas
import ScanFleet.Proofs.Fleet.Bindings
import ScanFleet.Proofs.Fleet.Bookkeeping
import ScanFleet.Proofs.Fleet.Breaker
import ScanFleet.Proofs.Fleet.Coverage
import ScanFleet.Proofs.Fleet.Credentials
import ScanFleet.Proofs.Fleet.Cuts
import ScanFleet.Proofs.Fleet.Detached
import ScanFleet.Proofs.Fleet.Duties
import ScanFleet.Proofs.Fleet.Entries
import ScanFleet.Proofs.Fleet.Evenness
import ScanFleet.Proofs.Fleet.Jobs
import ScanFleet.Proofs.Fleet.Lapses
import ScanFleet.Proofs.Fleet.Moves
import ScanFleet.Proofs.Fleet.Neighbours
import ScanFleet.Proofs.Fleet.Newcomers
import ScanFleet.Proofs.Fleet.Overhang
import ScanFleet.Proofs.Fleet.Quarantine
import ScanFleet.Proofs.Fleet.QuestPass
import ScanFleet.Proofs.Fleet.QuestRequests
import ScanFleet.Proofs.Fleet.QuestRoutes
import ScanFleet.Proofs.Fleet.QuestStates
import ScanFleet.Proofs.Fleet.QuietReloads
import ScanFleet.Proofs.Fleet.Recalculate
import ScanFleet.Proofs.Fleet.Reconciliation
import ScanFleet.Proofs.Fleet.Refusals
import ScanFleet.Proofs.Fleet.Reload
import ScanFleet.Proofs.Fleet.Roster
import ScanFleet.Proofs.Fleet.RowByRow
import ScanFleet.Proofs.Fleet.Run
import ScanFleet.Proofs.Fleet.Settling
import ScanFleet.Proofs.Fleet.Steady
import ScanFleet.Proofs.Fleet.Sweep
import ScanFleet.Proofs.Fleet.Unedited
import ScanFleet.Proofs.Geo.Order
import ScanFleet.Proofs.Geo.Outline
import ScanFleet.Proofs.Geo.Rewritten
import ScanFleet.Proofs.Geo.Same
import ScanFleet.Proofs.Geo.Written
import ScanFleet.Proofs.Http.Secrets
import ScanFleet.Proofs.Keyed
import ScanFleet.Proofs.Pool.Exclusive
import ScanFleet.Proofs.Pool.Flags
import ScanFleet.Proofs.Pool.Halves
import ScanFleet.Proofs.Pool.InStep
import ScanFleet.Proofs.Pool.Loans
import ScanFleet.Proofs.Pool.Merge
import ScanFleet.Proofs.Pool.Overlap
import ScanFleet.Proofs.Pool.Records
import ScanFleet.Proofs.Pool.Run
import ScanFleet.Proofs.Pool.Selection
import ScanFleet.Proofs.Pool.Waiting
import ScanFleet.Proofs.Quest.OffsetChanges
import ScanFleet.Proofs.Quest.Slots
import ScanFleet.Proofs.Session.Parts
import ScanFleet.Proofs.Session.Registry
import ScanFleet.Proofs.Session.Rotation
import ScanFleet.Proofs.Session.Usage
import ScanFleet.Proofs.Store.Rows
import ScanFleet.Proofs.Time.Calendar
import ScanFleet.Proofs.Traffic.Alone
import ScanFleet.Proofs.Traffic.Basic
import ScanFleet.Proofs.Traffic.LateBinds
import ScanFleet.Proofs.Traffic.Ownership
import ScanFleet.Proofs.Traffic.Steps
import ScanFleet.Quest.Hours
import ScanFleet.Quest.Schedule
import ScanFleet.Remote.Collaborators
import ScanFleet.Remote.Exchange
import ScanFleet.Remote.QuestNotifier
import ScanFleet.Remote.Relay
import ScanFleet.Remote.RouteCalculator
import ScanFleet.Service
import ScanFleet.Session.Basic
import ScanFleet.Session.Registry
import ScanFleet.Session.Usage
import ScanFleet.Store.Basic
import ScanFleet.Store.Connection
import ScanFleet.Store.Tables
import ScanFleet.Text.Alphanumeric
import ScanFleet.Text.Blank
import ScanFleet.Text.CodePointMap
import ScanFleet.Text.CodePoints
import ScanFleet.Text.Composed
import ScanFleet.Text.Invisible
import ScanFleet.Text.Mark
import ScanFleet.Text.Numeral
import ScanFleet.Text.Quoted
import ScanFleet.Time.Calendar
import ScanFleet.Time.Duration
import ScanFleet.Time.Instant
import ScanFleet.Time.Zone
import ScanFleet.Toml.Reader
import ScanFleet.Toml.Scalar
import ScanFleet.Toml.Table
import ScanFleet.Url.Address
import ScanFleet.Url.Basic
import ScanFleet.Url.Domain
import ScanFleet.Url.Domain.Direction
import ScanFleet.Url.Domain.Joiner
import ScanFleet.Url.Domain.Mapping
import ScanFleet.Url.Percent
import ScanFleet.Url.Punycode
import ScanFleet.Url.Reader
