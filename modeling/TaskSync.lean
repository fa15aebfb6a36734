import TaskSync.Config.Address
import TaskSync.Config.Basic
import TaskSync.Config.Checked
import TaskSync.Config.CommandLine
import TaskSync.Config.Flag
import TaskSync.Config.Help
import TaskSync.Dialogue
import TaskSync.Engine
import TaskSync.Failure
import TaskSync.Http.Allowlist
import TaskSync.Http.App
import TaskSync.Http.BodyLimit
import TaskSync.Http.Command
import TaskSync.Http.Escape
import TaskSync.Http.Message
import TaskSync.Http.Route
import TaskSync.Http.Target
import TaskSync.Http.Wire
import TaskSync.Journal.Entry
import TaskSync.Journal.Level
import TaskSync.Journal.Logger
import TaskSync.Main
import TaskSync.Number.Basic
import TaskSync.Number.Numeral
import TaskSync.Number.Shortest
import TaskSync.Operation
import TaskSync.Record
import TaskSync.Scenario.Script
import TaskSync.Scenario.Step
import TaskSync.Scenario.World
import TaskSync.Startup
import TaskSync.Store.Call
import TaskSync.Store.Embedded
import TaskSync.Store.Memory
import TaskSync.Store.Pooled
import TaskSync.Store.Relations
import TaskSync.Store.Statement
import TaskSync.Store.Table
import TaskSync.Text.Blank
import TaskSync.Text.LetterCase
import TaskSync.Text.LowerCase
import TaskSync.Text.Similar
import TaskSync.Text.Utf8
import TaskSync.Urgency
import TaskSync.Uuid
import TaskSync.Proofs.Chains
import TaskSync.Proofs.Ledger
import TaskSync.Proofs.MemoryLedger
import TaskSync.Proofs.EmbeddedCalls
import TaskSync.Proofs.EmbeddedLedger
import TaskSync.Proofs.Contract
import TaskSync.Proofs.Simulation
import TaskSync.Proofs.ChainLaw
import TaskSync.Proofs.Turns
import TaskSync.Proofs.Promises
import TaskSync.Proofs.Interleaving
import TaskSync.Proofs.Races
import TaskSync.Proofs.Uninterrupted
import TaskSync.Proofs.Linearizable
import TaskSync.Proofs.Recovery
import TaskSync.Proofs.Moves
import TaskSync.Proofs.Bookkeeping
import TaskSync.Proofs.Exchanges
import TaskSync.Proofs.Conversations
import TaskSync.Proofs.Serving
import TaskSync.Proofs.Immutability
import TaskSync.Proofs.Agreement
import TaskSync.Proofs.Atomicity
import TaskSync.Proofs.Decimals
import TaskSync.Proofs.ServerTables
import TaskSync.Proofs.PooledServer
import TaskSync.Proofs.PooledCalls
import TaskSync.Proofs.Holdings
import TaskSync.Proofs.Conversing
import TaskSync.Proofs.Pipeline
import TaskSync.Proofs.Outages
import TaskSync.Proofs.Confinement
import TaskSync.Proofs.Separation
import TaskSync.Proofs.Traffic
import TaskSync.Proofs.Attempts
import TaskSync.Proofs.Gate
import TaskSync.Proofs.Urgencies
import TaskSync.Proofs.SnapshotRequests
import TaskSync.Proofs.RowLocks
import TaskSync.Proofs.Lockstep
import TaskSync.Proofs.Opacity
import TaskSync.Proofs.Stored
import TaskSync.Proofs.Uploads
import TaskSync.Proofs.Folding
import TaskSync.Proofs.Targets
import TaskSync.Proofs.CaseBlind
import TaskSync.Proofs.Checks
import TaskSync.Proofs.Precedence
import TaskSync.Proofs.Reports
import TaskSync.Proofs.Addresses
import TaskSync.Proofs.Readiness
import TaskSync.Proofs.AddressLists
import TaskSync.Proofs.Identifiers
import TaskSync.Proofs.MediaTypes
