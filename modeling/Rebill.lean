import Rebill.Audit
import Rebill.Backend.Failure
import Rebill.Binary64
import Rebill.Charge.Basic
import Rebill.Charge.State
import Rebill.Cli.Filter
import Rebill.Cli.Ids
import Rebill.Cli.Program
import Rebill.Connection.Domain
import Rebill.Connection.Encoding
import Rebill.Connection.Punycode
import Rebill.Connection.Targets
import Rebill.Connection.Url
import Rebill.Decimal
import Rebill.Error
import Rebill.Event
import Rebill.Gateway.Basic
import Rebill.Gateway.Response
import Rebill.Ident
import Rebill.Json.Reader
import Rebill.Json.Value
import Rebill.Json.Writer
import Rebill.Main
import Rebill.Method
import Rebill.Payment.Basic
import Rebill.Payment.Status
import Rebill.Schedule
import Rebill.Script.Commands
import Rebill.Script.Deployment
import Rebill.Script.Encode
import Rebill.Script.Faults
import Rebill.Script.Fields
import Rebill.Script.Gateways
import Rebill.Script.Line
import Rebill.Script.Names
import Rebill.Script.Queries
import Rebill.Script.Session
import Rebill.Service.Attempts
import Rebill.Service.Basic
import Rebill.Service.LockTable
import Rebill.Service.Expiry
import Rebill.Service.Ledger
import Rebill.Service.Run
import Rebill.Service.Startup
import Rebill.Settings.Environment
import Rebill.Settings.Ini
import Rebill.Settings.Json5
import Rebill.Settings.Layers
import Rebill.Settings.Load
import Rebill.Settings.Number
import Rebill.Settings.Path
import Rebill.Settings.Real
import Rebill.Settings.Ron
import Rebill.Settings.Ron.Cursor
import Rebill.Settings.Ron.Value
import Rebill.Settings.Toml
import Rebill.Settings.Tree
import Rebill.Settings.Yaml
import Rebill.Store.Basic
import Rebill.Text.Bidi
import Rebill.Text.Blank
import Rebill.Text.Pattern
import Rebill.Text.Printable
import Rebill.Text.Quoted
import Rebill.Text.Unicode
import Rebill.Time.Calendar
import Rebill.Time.Instant
import Rebill.Time.Overflow
import Rebill.Time.Reading
import Rebill.Time.Span
import Rebill.Yaml.Document
import Rebill.Yaml.Parser
import Rebill.Yaml.Scanner
import Rebill.Proofs.Execution
import Rebill.Proofs.StoreWrites
import Rebill.Proofs.Effects
import Rebill.Proofs.AttemptMoves
import Rebill.Proofs.Registry
import Rebill.Proofs.Ledger
import Rebill.Proofs.Guard
import Rebill.Proofs.Charging
import Rebill.Proofs.Operations
import Rebill.Proofs.PaymentHistory
import Rebill.Proofs.RetryBudget
import Rebill.Proofs.FailureAtomicity
import Rebill.Proofs.AttemptHistory
import Rebill.Proofs.Lineage
import Rebill.Proofs.ChargeSpacing
import Rebill.Proofs.AuditTrail
import Rebill.Proofs.TimeLine
import Rebill.Proofs.Callbacks
import Rebill.Proofs.Writes
import Rebill.Proofs.Plan
import Rebill.Proofs.Locks
import Rebill.Proofs.Resolution
import Rebill.Proofs.Reactivation
import Rebill.Proofs.Footprint
import Rebill.Proofs.Renaming
import Rebill.Proofs.Independence
import Rebill.Proofs.RunOrder
import Rebill.Proofs.StatusRequests
import Rebill.Proofs.NextCharge
import Rebill.Proofs.GuardedCalls
import Rebill.Proofs.ReactivationContract
import Rebill.Proofs.AttemptEnds
import Rebill.Proofs.ChargeRuns
import Rebill.Proofs.ExpiryRefresh
import Rebill.Proofs.Stopping
import Rebill.Proofs.PoolInvariants
import Rebill.Proofs.BlankSettings
import Rebill.Proofs.Ownership
import Rebill.Proofs.LockSlots
import Rebill.Proofs.LockLeases
import Rebill.Proofs.Announcements
import Rebill.Proofs.Interleavings
import Rebill.Proofs.AnnouncementOrder
import Rebill.Proofs.MoveAnnouncements
import Rebill.Proofs.EventOrder
