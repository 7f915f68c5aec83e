import CommandFlow.Binary64.Basic
import CommandFlow.Binary64.Decimal
import CommandFlow.Chat.Client
import CommandFlow.Chat.Interaction
import CommandFlow.Chat.Invocation
import CommandFlow.Chat.Registration
import CommandFlow.Chat.Snowflake
import CommandFlow.Color
import CommandFlow.Condition
import CommandFlow.Context
import CommandFlow.Entries
import CommandFlow.Fault
import CommandFlow.Graph.Basic
import CommandFlow.Graph.Document
import CommandFlow.Graph.Node
import CommandFlow.Graph.Validation
import CommandFlow.Http.Address
import CommandFlow.Http.Fault
import CommandFlow.Http.Library
import CommandFlow.Http.Message
import CommandFlow.Http.Network
import CommandFlow.Http.Script
import CommandFlow.Json.Fault
import CommandFlow.Json.Octets
import CommandFlow.Json.Reader
import CommandFlow.Json.Writer
import CommandFlow.Main
import CommandFlow.Proofs.Binary64.Decimal
import CommandFlow.Proofs.Binary64.Integer
import CommandFlow.Proofs.Binary64.Rounding
import CommandFlow.Proofs.Binary64.Shortest
import CommandFlow.Proofs.Binary64.Written
import CommandFlow.Proofs.Chat.Emissions
import CommandFlow.Proofs.Chat.Polling
import CommandFlow.Proofs.Chat.Reply
import CommandFlow.Proofs.Chat.WellFormed
import CommandFlow.Proofs.Entries
import CommandFlow.Proofs.Except
import CommandFlow.Proofs.Graph.Kept
import CommandFlow.Proofs.Graph.LegacyKeys
import CommandFlow.Proofs.Graph.Saving
import CommandFlow.Proofs.Graph.Validation
import CommandFlow.Proofs.Json.Foreign
import CommandFlow.Proofs.Json.Literal
import CommandFlow.Proofs.Json.Numeral
import CommandFlow.Proofs.Json.Quoted
import CommandFlow.Proofs.Json.Representable
import CommandFlow.Proofs.Random
import CommandFlow.Proofs.Run.Acyclic
import CommandFlow.Proofs.Run.Agreement
import CommandFlow.Proofs.Run.Bindings
import CommandFlow.Proofs.Run.Calculation
import CommandFlow.Proofs.Run.Calls
import CommandFlow.Proofs.Run.Comparison
import CommandFlow.Proofs.Run.Compiled
import CommandFlow.Proofs.Run.Conditions
import CommandFlow.Proofs.Run.Copying
import CommandFlow.Proofs.Run.Deadline
import CommandFlow.Proofs.Run.Delays
import CommandFlow.Proofs.Run.Draws
import CommandFlow.Proofs.Run.Erasure
import CommandFlow.Proofs.Run.Execution
import CommandFlow.Proofs.Run.Extension
import CommandFlow.Proofs.Run.Fetching
import CommandFlow.Proofs.Run.Journal
import CommandFlow.Proofs.Run.Limit
import CommandFlow.Proofs.Run.Operands
import CommandFlow.Proofs.Run.Options
import CommandFlow.Proofs.Run.Ordering
import CommandFlow.Proofs.Run.Outcome
import CommandFlow.Proofs.Run.Path
import CommandFlow.Proofs.Run.Related
import CommandFlow.Proofs.Run.Renaming
import CommandFlow.Proofs.Run.Scenario
import CommandFlow.Proofs.Run.Trace
import CommandFlow.Proofs.Run.Trail
import CommandFlow.Proofs.Run.Transcript
import CommandFlow.Proofs.Run.Upset
import CommandFlow.Proofs.Run.Validated
import CommandFlow.Proofs.Run.Visits
import CommandFlow.Proofs.Schema.Kept
import CommandFlow.Proofs.Schema.Plain
import CommandFlow.Proofs.Schema.Rekeyed
import CommandFlow.Proofs.Schema.RoundTrip
import CommandFlow.Proofs.Service.Accesses
import CommandFlow.Proofs.Service.Answering
import CommandFlow.Proofs.Service.Atomicity
import CommandFlow.Proofs.Service.Catalogue
import CommandFlow.Proofs.Service.Counting
import CommandFlow.Proofs.Service.Exclusion
import CommandFlow.Proofs.Service.Ledger
import CommandFlow.Proofs.Service.Listing
import CommandFlow.Proofs.Service.Loading
import CommandFlow.Proofs.Service.Locking
import CommandFlow.Proofs.Service.Notices
import CommandFlow.Proofs.Service.Priority
import CommandFlow.Proofs.Service.Progress
import CommandFlow.Proofs.Service.Reachable
import CommandFlow.Proofs.Service.Rebuild
import CommandFlow.Proofs.Service.Routing
import CommandFlow.Proofs.Service.Serial
import CommandFlow.Proofs.Service.Shutdown
import CommandFlow.Proofs.Service.Snapshot
import CommandFlow.Proofs.Service.Stability
import CommandFlow.Proofs.Service.Tenants
import CommandFlow.Proofs.Service.Usage
import CommandFlow.Proofs.Service.Versions
import CommandFlow.Proofs.Service.Webhook
import CommandFlow.Proofs.Template.Placement
import CommandFlow.Proofs.Template.Reference
import CommandFlow.Proofs.Template.Segments
import CommandFlow.Proofs.Text.Blank
import CommandFlow.Proofs.Text.Numeral
import CommandFlow.Proofs.Text.Spelling
import CommandFlow.Proofs.Value.Integer
import CommandFlow.Proofs.Value.Length
import CommandFlow.Proofs.Value.Range
import CommandFlow.Proofs.Value.Representable
import CommandFlow.Proofs.Value.Written
import CommandFlow.Random
import CommandFlow.Run.Clock
import CommandFlow.Run.Live
import CommandFlow.Run.Machine
import CommandFlow.Run.Outcome
import CommandFlow.Run.Output
import CommandFlow.Run.Rehearsal
import CommandFlow.Run.Simulation
import CommandFlow.Run.Walk
import CommandFlow.Run.Web
import CommandFlow.Schema.Fault
import CommandFlow.Schema.Reader
import CommandFlow.Schema.Scalar
import CommandFlow.Schema.Shape
import CommandFlow.Schema.Writer
import CommandFlow.Service.Api
import CommandFlow.Service.App
import CommandFlow.Service.Authoring
import CommandFlow.Service.Bot
import CommandFlow.Service.Endpoint
import CommandFlow.Service.Fault
import CommandFlow.Service.LockTable
import CommandFlow.Service.Procedure
import CommandFlow.Service.Router
import CommandFlow.Service.Session
import CommandFlow.Service.Store
import CommandFlow.Service.Tasks
import CommandFlow.Settings
import CommandFlow.Signature.Curve
import CommandFlow.Signature.Sha512
import CommandFlow.Signature.Verify
import CommandFlow.Template
import CommandFlow.Text.Blank
import CommandFlow.Text.Digit
import CommandFlow.Text.Numeral
import CommandFlow.Text.Printable
import CommandFlow.Text.Quoted
import CommandFlow.Text.Ranges
import CommandFlow.Text.Word
import CommandFlow.Uuid
import CommandFlow.Value.Basic
import CommandFlow.Value.Equality
import CommandFlow.Value.Number
import CommandFlow.Value.Text
import CommandFlow.Variable
