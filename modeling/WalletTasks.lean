import WalletTasks.Amount
import WalletTasks.Balances
import WalletTasks.Billing
import WalletTasks.Chain.Client
import WalletTasks.Chain.Fee
import WalletTasks.Chain.Network
import WalletTasks.Chain.Wei
import WalletTasks.Command.Arguments
import WalletTasks.Command.Perform
import WalletTasks.Config
import WalletTasks.Decimal.Basic
import WalletTasks.Decimal.Binary64
import WalletTasks.Decimal.Text
import WalletTasks.DotEnv.Entry
import WalletTasks.DotEnv.File
import WalletTasks.DotEnv.Line
import WalletTasks.Error
import WalletTasks.Executor.Delay
import WalletTasks.Executor.Lifecycle
import WalletTasks.Executor.Mock
import WalletTasks.Executor.Vote
import WalletTasks.Gas
import WalletTasks.Host.Basic
import WalletTasks.Host.Files
import WalletTasks.Host.Path
import WalletTasks.Host.Variables
import WalletTasks.Identifier
import WalletTasks.Job
import WalletTasks.Json.Basic
import WalletTasks.Json.Canonical
import WalletTasks.Json.Decode
import WalletTasks.Json.Overlay
import WalletTasks.Json.Source
import WalletTasks.Limits
import WalletTasks.Main
import WalletTasks.Profile
import WalletTasks.Proofs.Advancing
import WalletTasks.Proofs.Answering
import WalletTasks.Proofs.Approaching
import WalletTasks.Proofs.Auditing
import WalletTasks.Proofs.Books
import WalletTasks.Proofs.Calendar
import WalletTasks.Proofs.Causes
import WalletTasks.Proofs.Charging
import WalletTasks.Proofs.Chronicle
import WalletTasks.Proofs.Closing
import WalletTasks.Proofs.Conclusion
import WalletTasks.Proofs.Confirmation
import WalletTasks.Proofs.Course
import WalletTasks.Proofs.Decision
import WalletTasks.Proofs.Defining
import WalletTasks.Proofs.Delaying
import WalletTasks.Proofs.Denoting
import WalletTasks.Proofs.Describing
import WalletTasks.Proofs.Dispatching
import WalletTasks.Proofs.Dropping
import WalletTasks.Proofs.Exclusion
import WalletTasks.Proofs.Faults
import WalletTasks.Proofs.Fixing
import WalletTasks.Proofs.Fractions
import WalletTasks.Proofs.Frame
import WalletTasks.Proofs.Gathering
import WalletTasks.Proofs.Gating
import WalletTasks.Proofs.Growth
import WalletTasks.Proofs.Interleaving
import WalletTasks.Proofs.Interruption
import WalletTasks.Proofs.Keeping
import WalletTasks.Proofs.Layering
import WalletTasks.Proofs.Layout
import WalletTasks.Proofs.Leasing
import WalletTasks.Proofs.Lifecycle
import WalletTasks.Proofs.Magnitudes
import WalletTasks.Proofs.Meets
import WalletTasks.Proofs.Overlaying
import WalletTasks.Proofs.Pairing
import WalletTasks.Proofs.Passage
import WalletTasks.Proofs.Passing
import WalletTasks.Proofs.Pending
import WalletTasks.Proofs.Pinning
import WalletTasks.Proofs.Placing
import WalletTasks.Proofs.Polling
import WalletTasks.Proofs.Preserving
import WalletTasks.Proofs.Progress
import WalletTasks.Proofs.Provisioning
import WalletTasks.Proofs.Quoting
import WalletTasks.Proofs.Reading
import WalletTasks.Proofs.Reconciling
import WalletTasks.Proofs.Record
import WalletTasks.Proofs.Records
import WalletTasks.Proofs.Remembering
import WalletTasks.Proofs.Reporting
import WalletTasks.Proofs.Rerun
import WalletTasks.Proofs.Restoring
import WalletTasks.Proofs.Resumption
import WalletTasks.Proofs.Retrying
import WalletTasks.Proofs.Roundtrip
import WalletTasks.Proofs.Saving
import WalletTasks.Proofs.ScaleUp
import WalletTasks.Proofs.Sections
import WalletTasks.Proofs.Settling
import WalletTasks.Proofs.Sharing
import WalletTasks.Proofs.Solitude
import WalletTasks.Proofs.Spelling
import WalletTasks.Proofs.Spending
import WalletTasks.Proofs.Standstill
import WalletTasks.Proofs.Storing
import WalletTasks.Proofs.Surfacing
import WalletTasks.Proofs.Timing
import WalletTasks.Proofs.Trace
import WalletTasks.Proofs.Transcript
import WalletTasks.Proofs.Twins
import WalletTasks.Proofs.Unread
import WalletTasks.Proofs.Writing
import WalletTasks.Registry
import WalletTasks.Rehearsal.Concurrent
import WalletTasks.Rehearsal.Instruction
import WalletTasks.Rehearsal.Script
import WalletTasks.Rehearsal.Step
import WalletTasks.Run.Call
import WalletTasks.Run.Drive
import WalletTasks.Run.Leases
import WalletTasks.Run.Program
import WalletTasks.Run.World
import WalletTasks.Runner
import WalletTasks.Settings.Basic
import WalletTasks.Settings.Overlay
import WalletTasks.Settings.Stored
import WalletTasks.Slippage
import WalletTasks.Startup
import WalletTasks.Store
import WalletTasks.Task.Kind
import WalletTasks.Task.Payload
import WalletTasks.Task.Status
import WalletTasks.Task.Update
import WalletTasks.Text.Alphanumeric
import WalletTasks.Text.Blank
import WalletTasks.Text.Bytes
import WalletTasks.Text.Hex
import WalletTasks.Text.Invisible
import WalletTasks.Text.Labelled
import WalletTasks.Text.Numeral
import WalletTasks.Time.Date
import WalletTasks.Time.Instant
import WalletTasks.Time.Span
import WalletTasks.Toml.Document
import WalletTasks.Toml.Scalar
import WalletTasks.Toml.Table
import WalletTasks.Toml.Text
import WalletTasks.Toml.Writer
import WalletTasks.Wire.Client
import WalletTasks.Wire.Job
import WalletTasks.Wire.Scalar
import WalletTasks.Wire.Settings
import WalletTasks.Wire.Task
