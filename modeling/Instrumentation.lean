import Instrumentation.Engine.Control
import Instrumentation.Engine.Scheduler
import Instrumentation.Settings.Loading
import Instrumentation.Proofs.Registry
import Instrumentation.Proofs.Session
import Instrumentation.Proofs.Move
import Instrumentation.Proofs.Simulation
import Instrumentation.Proofs.Coherence
import Instrumentation.Proofs.Patches
import Instrumentation.Proofs.Notices
import Instrumentation.Proofs.Reply
import Instrumentation.Proofs.Life
import Instrumentation.Proofs.Removal
import Instrumentation.Proofs.Dict
import Instrumentation.Proofs.Sound
import Instrumentation.Proofs.Stride
import Instrumentation.Proofs.Stride.Operations
import Instrumentation.Proofs.Stride.Sessions
import Instrumentation.Proofs.Failure
import Instrumentation.Proofs.Deferral
import Instrumentation.Proofs.Sparing
import Instrumentation.Proofs.Alone
import Instrumentation.Proofs.HitLimit
import Instrumentation.Proofs.Ledger
import Instrumentation.Proofs.Json.Decode
import Instrumentation.Proofs.Json.Merge
import Instrumentation.Proofs.Json.Path
import Instrumentation.Proofs.Settings
import Instrumentation.Proofs.Settings.Loading
import Instrumentation.Proofs.Condition.Lexeme
import Instrumentation.Proofs.Condition.Grammar
import Instrumentation.Proofs.Condition.Parse
import Instrumentation.Proofs.Condition.Evaluation
import Instrumentation.Proofs.Ensures
import Instrumentation.Proofs.Ensures.Operations
import Instrumentation.Proofs.Faithful
import Instrumentation.Proofs.Coalescing
import Instrumentation.Proofs.Coalescing.Operations
import Instrumentation.Proofs.Coalescing.Sessions
import Instrumentation.Proofs.Attempts
import Instrumentation.Proofs.Timely
import Instrumentation.Proofs.Timely.Operations
import Instrumentation.Proofs.Timely.Sessions
import Instrumentation.Proofs.RateWindow
import Instrumentation.Proofs.Throttle
import Instrumentation.Proofs.Separation
import Instrumentation.Proofs.Separation.Operations
import Instrumentation.Proofs.Hit
import Instrumentation.Proofs.InstallFailure
import Instrumentation.Proofs.Instrument.Wire
import Instrumentation.Proofs.Instant.Calendar
import Instrumentation.Proofs.Instant.Rfc3339
import Instrumentation.Proofs.Event
import Instrumentation.Proofs.Uninterrupted
import Instrumentation.Proofs.Departures
import Instrumentation.Proofs.Ticks
import Instrumentation.Proofs.Refusals
import Instrumentation.Proofs.Binary64.Rounding
import Instrumentation.Proofs.Binary64.Value
import Instrumentation.Proofs.Binary64.Integer
import Instrumentation.Proofs.Decimal.Nearest
import Instrumentation.Proofs.Condition.Arithmetic
import Instrumentation.Proofs.Condition.Comparison
import Instrumentation.Proofs.Condition.Ordering
import Instrumentation.Proofs.Condition.Access
import Instrumentation.Proofs.Condition.Literal
import Instrumentation.Proofs.Isolation
import Instrumentation.Proofs.Location
import Instrumentation.Proofs.Lookup
import Instrumentation.Proofs.Retry.History
import Instrumentation.Proofs.Condition.Lexing
import Instrumentation.Proofs.Condition.Juxtaposition
import Instrumentation.Proofs.Condition.Offset
import Instrumentation.Proofs.Condition.Quotation
import Instrumentation.Proofs.Condition.Extent
import Instrumentation.Proofs.Lookup.Nesting
