import CacheFill.Binary64.Basic
import CacheFill.Binary64.Decimal
import CacheFill.Bus.Channel
import CacheFill.Bus.Memory
import CacheFill.Bus.Partition
import CacheFill.Bus.Topics
import CacheFill.Cache.Entry
import CacheFill.Config.Basic
import CacheFill.Config.Environment
import CacheFill.Json.Basic
import CacheFill.Json.Fields
import CacheFill.Json.Number
import CacheFill.Json.Parser
import CacheFill.Json.Printer
import CacheFill.LoadType
import CacheFill.Loader
import CacheFill.Log
import CacheFill.Message
import CacheFill.Proofs.Binary64.Whole
import CacheFill.Proofs.Bus.Custody
import CacheFill.Proofs.Bus.Delivery
import CacheFill.Proofs.Cache.Absence
import CacheFill.Proofs.Cache.Consistency
import CacheFill.Proofs.Cache.Filling
import CacheFill.Proofs.Cache.Ownership
import CacheFill.Proofs.Cache.Readable
import CacheFill.Proofs.Cache.Refinement
import CacheFill.Proofs.Cache.Turns
import CacheFill.Proofs.Cache.Values
import CacheFill.Proofs.Cache.Writers
import CacheFill.Proofs.Concurrency.Agreement
import CacheFill.Proofs.Concurrency.Announcement
import CacheFill.Proofs.Concurrency.Attempts
import CacheFill.Proofs.Concurrency.Commits
import CacheFill.Proofs.Concurrency.Conduct
import CacheFill.Proofs.Concurrency.Dispatching
import CacheFill.Proofs.Concurrency.Ensures
import CacheFill.Proofs.Concurrency.Executions
import CacheFill.Proofs.Concurrency.Finishing
import CacheFill.Proofs.Concurrency.History
import CacheFill.Proofs.Concurrency.Interleaving
import CacheFill.Proofs.Concurrency.Keeping
import CacheFill.Proofs.Concurrency.Ledger
import CacheFill.Proofs.Concurrency.Lifecycle
import CacheFill.Proofs.Concurrency.Loads
import CacheFill.Proofs.Concurrency.Nesting
import CacheFill.Proofs.Concurrency.Operations
import CacheFill.Proofs.Concurrency.Punctual
import CacheFill.Proofs.Concurrency.Resume
import CacheFill.Proofs.Concurrency.Script
import CacheFill.Proofs.Concurrency.Sweeping
import CacheFill.Proofs.Concurrency.World
import CacheFill.Proofs.Json.Reading
import CacheFill.Proofs.Json.Tokens
import CacheFill.Proofs.Justified
import CacheFill.Proofs.Retry.Delay
import CacheFill.Proofs.Retry.Policies
import CacheFill.Proofs.Service.Alone
import CacheFill.Proofs.Service.Backlog
import CacheFill.Proofs.Service.Coverage
import CacheFill.Proofs.Service.FanOut
import CacheFill.Proofs.Service.Handling
import CacheFill.Proofs.Service.Hearing
import CacheFill.Proofs.Service.Launching
import CacheFill.Proofs.Service.Subscribing
import CacheFill.Proofs.Service.Sweeping
import CacheFill.Proofs.Stream.Entries
import CacheFill.Proofs.Stream.Names
import CacheFill.Proofs.Stream.Polling
import CacheFill.Proofs.Stream.Reports
import CacheFill.Proofs.Task.Clients
import CacheFill.Proofs.Task.Life
import CacheFill.Proofs.Task.Listing
import CacheFill.Proofs.Task.Scans
import CacheFill.Proofs.Task.Store
import CacheFill.Proofs.Task.Succession
import CacheFill.Proofs.Text.Numerals
import CacheFill.Proofs.Text.Utf8
import CacheFill.Proofs.Time.Advance
import CacheFill.Proofs.Time.Calendar
import CacheFill.Proofs.Time.Text
import CacheFill.Proofs.Wire.Lossless
import CacheFill.Proofs.Wire.Parts
import CacheFill.Proofs.Wire.Stored
import CacheFill.Proofs.Worker.Consuming
import CacheFill.Rehearsal.Background
import CacheFill.Rehearsal.Basic
import CacheFill.Rehearsal.Broker
import CacheFill.Rehearsal.Port
import CacheFill.Rehearsal.Script
import CacheFill.Rehearsal.Stage
import CacheFill.Retry.Policies
import CacheFill.Retry.Policy
import CacheFill.Service.Backend
import CacheFill.Service.Basic
import CacheFill.Service.Execution
import CacheFill.Service.Failure
import CacheFill.Service.Launch
import CacheFill.Service.Listening
import CacheFill.Service.Program
import CacheFill.Service.Run
import CacheFill.Service.Sweep
import CacheFill.Service.View
import CacheFill.Store.Error
import CacheFill.Store.Tasks
import CacheFill.Store.Values
import CacheFill.Store.Version
import CacheFill.Stream.Address
import CacheFill.Stream.Bus
import CacheFill.Stream.Command
import CacheFill.Stream.Entry
import CacheFill.Stream.Poller
import CacheFill.Stream.Polling
import CacheFill.Stream.Reply
import CacheFill.Stream.Session
import CacheFill.Table
import CacheFill.Task.Status
import CacheFill.Task.Transition
import CacheFill.TaskId
import CacheFill.Text.Blank
import CacheFill.Text.Digits
import CacheFill.Text.DigitsProperties
import CacheFill.Text.Quoted
import CacheFill.Text.Shown
import CacheFill.Text.Utf8
import CacheFill.Time.Calendar
import CacheFill.Time.Clock
import CacheFill.Time.Duration
import CacheFill.Time.Instant
import CacheFill.Time.Text
import CacheFill.Url.Basic
import CacheFill.Url.Ipv6
import CacheFill.Url.Path
import CacheFill.Url.Percent
import CacheFill.Wire.Cache
import CacheFill.Wire.Failure
import CacheFill.Wire.Message
import CacheFill.Wire.Rehearsal
import CacheFill.Wire.Report
import CacheFill.Wire.Script
import CacheFill.Wire.Settings
import CacheFill.Wire.Stream
import CacheFill.Wire.Task
import CacheFill.Worker.Consumer
import CacheFill.Worker.Periodic
import CacheFill.Worker.RunGuard
