import Instrumentation.Emitter
import Instrumentation.Event
import Instrumentation.Frame
import Instrumentation.Log
import Instrumentation.Registry
import Instrumentation.Settings

/-!
# The state of an engine

An engine holds the registry, the deferred installs, the captured frames and, if it broadcasts,
the channel of its events. It reads the time off a clock that others set.

The journal lists what an engine does that others see: its requests to the transform engine with
their answers, the events it publishes, and its log. An entry about a registration bears its
serial number.
-/

namespace Instrumentation

/-- A request to the transform engine. -/
inductive Request where
  /-- Whether a unit is loaded. -/
  | resolve (unit : String)
  /-- To insert a patch into a unit. -/
  | patch (unit : String) (spec : PatchSpec)
  /-- To take a patch out of a unit. -/
  | unpatch (unit : String) (spec : PatchSpec)
deriving DecidableEq, Inhabited

/-- The answers to a request: a truth value, or success or failure. -/
abbrev Request.Answer : Request → Type
  | resolve _ => Bool
  | patch _ _ => Except TransformError Unit
  | unpatch _ _ => Except TransformError Unit

/-- A call to the transform engine, with the registration it is made for and what it is for. -/
inductive Call where
  /-- An install asks whether its unit is loaded. -/
  | resolve (r : Registration)
  /-- An install inserts its patch. -/
  | patch (r : Registration)
  /-- An install that failed, or whose instrument was removed, takes its patch back. -/
  | restore (r : Registration)
  /-- The removal of a live instrument takes its patch back. -/
  | withdraw (r : Registration)
deriving Inhabited

namespace Call

/-- The registration a call is made for. -/
def registration : Call → Registration
  | resolve r => r
  | patch r => r
  | restore r => r
  | withdraw r => r

/-- What is requested. -/
abbrev request : Call → Request
  | resolve r => .resolve r.instrument.unitName
  | patch r => .patch r.instrument.unitName r.instrument.patchSpec
  | restore r => .unpatch r.instrument.unitName r.instrument.patchSpec
  | withdraw r => .unpatch r.instrument.unitName r.instrument.patchSpec

end Call

/-- An entry of the journal. -/
inductive Entry where
  /-- A request was made on behalf of a registration. -/
  | asked (serial : Nat) (request : Request)
  /-- A request made on behalf of a registration was answered. -/
  | answered (serial : Nat) (request : Request) (answer : request.Answer)
  /-- An event was published, about a registration if it is not about a command or about an
  instrument that was never registered. -/
  | published (serial : Option Nat) (event : Event)
  /-- A record was logged. -/
  | logged (record : Record)

/-- The state of an engine. -/
structure Engine where
  /-- The settings the engine was built with. -/
  settings : Settings
  /-- The registered instruments. -/
  registry : Registry
  /-- The deferred installs. -/
  retries : RetryQueue
  /-- The captured frames. -/
  frames : FrameStore
  /-- The channel of events, if the engine broadcasts them. -/
  emitter : Option (Emitter Event)
  /-- The time. -/
  clock : Instant
  /-- What others saw of the engine, the oldest entry first. -/
  journal : Array Entry
deriving Inhabited

namespace Engine

/-- An engine without instruments whose events no channel carries. -/
def new (settings : Settings) (clock : Instant) : Engine :=
  { settings, registry := .empty, retries := .new settings.retryPolicy, frames := .empty
    emitter := none, clock, journal := #[] }

/-- An engine without instruments that broadcasts its events. -/
def broadcasting (settings : Settings) (clock : Instant) : Engine :=
  { new settings clock with emitter := some (.new settings.channelCapacity.toNat) }

/-- The engine with an entry more in its journal. -/
def note (e : Engine) (entry : Entry) : Engine := { e with journal := e.journal.push entry }

/-- The engine once it has logged a record. -/
def log (e : Engine) (level : Level) (message : String) (fields : List (String × String)) :
    Engine :=
  e.note (.logged { level, message, fields })

/-- The engine once it has published an event. -/
def publish (e : Engine) (serial : Option Nat) (event : Event) : Engine :=
  let e := e.note (.published serial event)
  match e.emitter with
  | none => e
  | some m =>
    let e := e.log .trace "emitting" [("event", event.type)]
    { e with emitter := some (m.emit event).2 }

/-- The number of live instruments. -/
def liveCount (e : Engine) : Nat := e.registry.live.size

/-- The number of applying instruments, the deferred ones included. -/
def applyingCount (e : Engine) : Nat := e.registry.applying.size

/-- The number of deferred installs. -/
def pendingRetries (e : Engine) : Nat := e.retries.size

/-- The identity is applying or live. -/
def isEnabled (e : Engine) (id : InstrumentId) : Bool := e.registry.contains id

/-- The request of a registered instrument. -/
def instrument? (e : Engine) (id : InstrumentId) : Option Instrument :=
  (e.registry.get? id).map Registration.instrument

/-- The requests that answer a lookup for a location. -/
def instrumentsAt (e : Engine) (query : Location) : List Instrument :=
  (e.registry.findByLocation query).map Registration.instrument

/-- The requests of the live instruments. -/
def snapshot (e : Engine) : List Instrument := e.registry.snapshot

end Engine

end Instrumentation
