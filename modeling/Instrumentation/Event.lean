import Instrumentation.Instant.Rfc3339
import Instrumentation.Instrument.Wire

/-!
# Lifecycle events

The control plane learns that an instrument was applied, that it left the registry and why, and
that a command was refused or failed in part. An event has two written forms: the payload, which
names the instrument by its kind, and the record, which keeps every field.
-/

namespace Instrumentation

/-- A lifecycle notification. -/
inductive Event where
  /-- The patch is installed and the instrument is live. -/
  | applied (instrument : Instrument) (occurredAt : Instant)
  /-- The instrument left the registry, because of a failure if there is a cause. -/
  | removed (instrument : Instrument) (cause : Option String) (occurredAt : Instant)
  /-- A command was refused or failed in part. -/
  | commandFailed (command : Json) (cause : String) (occurredAt : Instant)
deriving Inhabited

namespace Event

/-- The instrument of an event. -/
def instrument? : Event → Option Instrument
  | applied i _ => some i
  | removed i _ _ => some i
  | commandFailed _ _ _ => none

/-- The cause that an event gives. -/
def cause? : Event → Option String
  | applied _ _ => none
  | removed _ cause _ => cause
  | commandFailed _ cause _ => some cause

/-- The time of an event. -/
def occurredAt : Event → Instant
  | applied _ t => t
  | removed _ _ t => t
  | commandFailed _ _ t => t

/-- The name of an event for the control plane. -/
def type : Event → String
  | applied i _ => i.kind.appliedEvent
  | removed i _ _ => i.kind.removedEvent
  | commandFailed _ _ _ => "command_failed"

/-- The members of the payload but for its time. -/
def payloadMembers : Event → List (String × Json)
  | applied i t => [("eventType", .string (applied i t).type), (i.kind.name, i.toJson)]
  | removed i cause t =>
    [("eventType", .string (removed i cause t).type), (i.kind.name, i.toJson),
      ("cause", Json.ofText? cause)]
  | commandFailed command cause t =>
    [("eventType", .string (commandFailed command cause t).type), ("command", command),
      ("cause", .string cause)]

/-- The payload for the control plane, with its time in milliseconds. -/
def payload (e : Event) : Json :=
  Json.ofMembers (e.payloadMembers ++ [("occurredAt", e.occurredAt.toMillisJson)])

/-- The record of an event, with its time as text. -/
def toJson (e : Event) : Json :=
  let time := ("occurredAt", Json.string (Instant.Rfc3339.format e.occurredAt))
  match e with
  | applied i _ =>
    Json.ofMembers [("event", .string "applied"), ("instrument", i.toJson), time]
  | removed i cause _ =>
    Json.ofMembers <|
      [("event", .string "removed"), ("instrument", i.toJson)]
        ++ Instrument.optionalMember "cause" (cause.map .string) ++ [time]
  | commandFailed command cause _ =>
    Json.ofMembers
      [("event", .string "commandFailed"), ("command", command), ("cause", .string cause), time]

/-- The three records. -/
inductive Tag where
  /-- An instrument was applied. -/
  | applied
  /-- An instrument was removed. -/
  | removed
  /-- A command failed. -/
  | commandFailed
deriving DecidableEq, Inhabited

/-- The records by their tags. -/
def Tag.names : List (String × Tag) :=
  [("applied", .applied), ("removed", .removed), ("commandFailed", .commandFailed)]

/-- The tag of a record. -/
def Tag.decode : Decoder Tag
  | .string s => Decoder.named Tag.names s
  | v => .error (.invalidType v "variant identifier")

/-- What messages call a record, and its fields. -/
def Tag.shape : Tag → Shape
  | applied =>
    { name := "struct variant InstrumentEvent::Applied", fields := ["instrument", "occurredAt"] }
  | removed =>
    { name := "struct variant InstrumentEvent::Removed"
      fields := ["instrument", "cause", "occurredAt"] }
  | commandFailed =>
    { name := "struct variant InstrumentEvent::CommandFailed"
      fields := ["command", "cause", "occurredAt"] }

/-- The problem of a given field. -/
def Tag.problem (tag : Tag) (_ : Fields) : String → Decoder Unit
  | "occurredAt", v => Decoder.passes Instant.Rfc3339.decode v
  | "instrument", v =>
    if tag = .commandFailed then .ok () else Decoder.passes (Instrument.decode .heldBack) v
  | "cause", v =>
    match tag with
    | .applied => .ok ()
    | .removed => Decoder.passes (Decoder.optional Decoder.text) v
    | .commandFailed => Decoder.passes Decoder.text v
  | _, _ => .ok ()

/-- The event of a record with this tag. -/
def Tag.build (tag : Tag) (fs : Fields) : Except DecodeError Event :=
  match tag with
  | .applied => do
    let i ← fs.required "instrument" (Instrument.decode .heldBack)
    return .applied i (← fs.required "occurredAt" Instant.Rfc3339.decode)
  | .removed => do
    let i ← fs.required "instrument" (Instrument.decode .heldBack)
    let cause ← fs.orElse "cause" (Decoder.optional Decoder.text) none
    return .removed i cause (← fs.required "occurredAt" Instant.Rfc3339.decode)
  | .commandFailed => do
    let command ← fs.required "command" Decoder.any
    let cause ← fs.required "cause" Decoder.text
    return .commandFailed command cause (← fs.required "occurredAt" Instant.Rfc3339.decode)

/-- An event from its record. -/
def decode : Decoder Event :=
  Decoder.tagged "internally tagged enum InstrumentEvent" "event" Tag.decode fun tag =>
    Decoder.record .heldBack tag.shape tag.problem tag.build

end Event

end Instrumentation
