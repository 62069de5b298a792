import Instrumentation.Identifier
import Instrumentation.Instant
import Instrumentation.Location
import Instrumentation.Text.Blank

/-!
# Instruments

An instrument is a request of the control plane: where to attach, under which condition, for
how long and how often, and what to do on a hit. There are breakpoints, logs and meters.
-/

namespace Instrumentation

/-- A kind of instrument. -/
inductive Kind where
  /-- It captures the frame. -/
  | breakpoint
  /-- It writes a line. -/
  | log
  /-- It records a sample. -/
  | meter
deriving DecidableEq, Inhabited

namespace Kind

/-- The name of a kind. -/
def name : Kind → String
  | breakpoint => "breakpoint"
  | log => "log"
  | meter => "meter"

/-- The name of the event that an instrument of this kind is applied. -/
def appliedEvent (k : Kind) : String := k.name ++ "_applied"

/-- The name of the event that an instrument of this kind is removed. -/
def removedEvent (k : Kind) : String := k.name ++ "_removed"

end Kind

/-- The length of a rate window. -/
inductive Step where
  /-- A second. -/
  | second
  /-- A minute. -/
  | minute
  /-- An hour. -/
  | hour
  /-- A day. -/
  | day
deriving DecidableEq, Inhabited

/-- The length of a step in milliseconds. -/
def Step.millis : Step → Nat
  | second => 1000
  | minute => 60000
  | hour => 3600000
  | day => 86400000

/-- At most `limit` hits per step. -/
structure Rate where
  /-- The hits that a window admits. -/
  limit : UInt32
  /-- The length of a window. -/
  step : Step
deriving DecidableEq, Inhabited

/-- What a meter measures. -/
inductive MeterType where
  /-- A growing count. -/
  | count
  /-- A last value. -/
  | gauge
  /-- A distribution. -/
  | histogram
deriving DecidableEq, Inhabited

/-- How the source of a sample is to be read. -/
inductive SampleType where
  /-- A literal number. -/
  | number
  /-- An expression for a number. -/
  | numberExpression
  /-- A literal value. -/
  | value
  /-- An expression for any value. -/
  | valueExpression
deriving DecidableEq, Inhabited

/-- The source of the samples of a meter. -/
structure Sample where
  /-- How the text is to be read. -/
  type : SampleType
  /-- The literal or the expression. -/
  text : String
deriving DecidableEq, Inhabited

/-- What an instrument does on a hit. -/
inductive Payload where
  /-- It captures objects up to a depth. -/
  | breakpoint (maxDepth : Option UInt32)
  /-- It writes a text with arguments. -/
  | log (format : String) (arguments : List String)
  /-- It records a sample under a name. -/
  | meter (name : String) (type : MeterType) (sample : Sample)
deriving DecidableEq, Inhabited

/-- The kind of a payload. -/
def Payload.kind : Payload → Kind
  | breakpoint _ => .breakpoint
  | log _ _ => .log
  | meter _ _ _ => .meter

/-- A request to attach at a patch point. -/
structure Instrument where
  /-- The identity. -/
  id : InstrumentId
  /-- The patch point. -/
  location : Location
  /-- The text of a predicate that a hit has to satisfy. -/
  condition : Option String
  /-- The number of hits after which the instrument is removed. -/
  hitLimit : Option UInt32
  /-- The time from which on the instrument is to be removed. -/
  expiresAt : Option Instant
  /-- The install fails, and does not wait, if the unit is not loaded. -/
  applyImmediately : Bool
  /-- The rate of admitted hits. -/
  rate : Option Rate
  /-- Values carried along. -/
  metadata : Dict Json
  /-- What is done on a hit. -/
  payload : Payload
deriving Inhabited

namespace Instrument

/-- An instrument without conditions and limits that may wait for its unit. -/
def new (id : InstrumentId) (location : Location) (payload : Payload) : Instrument :=
  { id, location, condition := none, hitLimit := none, expiresAt := none,
    applyImmediately := false, rate := none, metadata := .empty, payload }

/-- The kind of an instrument. -/
def kind (i : Instrument) : Kind := i.payload.kind

/-- The unit to be patched. -/
def unitName (i : Instrument) : String := i.location.unitName

/-- The condition without the blanks around it, unless nothing is left. -/
def conditionText? (i : Instrument) : Option String :=
  i.condition.bind fun s =>
    let t := Text.trim s
    if t.isEmpty then none else some t

/-- The expiry has passed. -/
def isExpiredAt (i : Instrument) (now : Instant) : Bool :=
  match i.expiresAt with
  | some t => t ≤ now
  | none => false

end Instrument

/-- What is inserted into a unit, or taken out again. -/
structure PatchSpec where
  /-- The instrument to be called back. -/
  instrumentId : InstrumentId
  /-- The patch point. -/
  location : Location
  /-- The kind of callback. -/
  kind : Kind
deriving DecidableEq, Inhabited

/-- The patch that an instrument needs. -/
def Instrument.patchSpec (i : Instrument) : PatchSpec :=
  { instrumentId := i.id, location := i.location, kind := i.kind }

end Instrumentation
