import Instrumentation.Instrument.Wire

/-!
# Commands

A command of the control plane adds the listed instruments, or removes the listed instruments
and everything at the listed locations.
-/

namespace Instrumentation

/-- What a command asks for. -/
inductive Command.Action where
  /-- To install the instruments. -/
  | add
  /-- To remove the instruments, then everything at the locations. -/
  | remove
deriving DecidableEq, Inhabited

/-- A command. -/
structure Command where
  /-- What is asked for. -/
  action : Command.Action
  /-- The instruments. -/
  instruments : List Instrument
  /-- The locations, of which only a removal takes notice. -/
  locations : List Location
deriving Inhabited

namespace Command

/-- The actions by their wire names. -/
def Action.names : List (String × Action) :=
  [("ADD_LIVE_INSTRUMENT", .add), ("REMOVE_LIVE_INSTRUMENT", .remove)]

/-- The wire name of an action. -/
def Action.wireName : Action → String
  | add => "ADD_LIVE_INSTRUMENT"
  | remove => "REMOVE_LIVE_INSTRUMENT"

/-- An action as the log shows it. -/
def Action.describe : Action → String
  | add => "AddLiveInstrument"
  | remove => "RemoveLiveInstrument"

/-- The command to install instruments. -/
def add (instruments : List Instrument) : Command :=
  { action := .add, instruments, locations := [] }

/-- The command to remove instruments and everything at some locations. -/
def remove (instruments : List Instrument) (locations : List Location) : Command :=
  { action := .remove, instruments, locations }

/-- The command lists nothing to act on. -/
def isEmpty (c : Command) : Bool :=
  match c.action with
  | .add => c.instruments.isEmpty
  | .remove => c.instruments.isEmpty && c.locations.isEmpty

/-- A command on the wire. -/
def toJson (c : Command) : Json :=
  Json.ofMembers
    [("commandType", .string c.action.wireName),
      ("instruments", .array (c.instruments.map Instrument.toJson)),
      ("locations", .array (c.locations.map Location.toJson))]

/-- What messages call a command, and its fields. -/
def shape : Shape :=
  { name := "struct LiveInstrumentCommand", fields := ["commandType", "instruments", "locations"] }

/-- The problem of a given field. -/
def problem (_ : Fields) : String → Decoder Unit
  | "commandType", v => Decoder.passes (Decoder.variant .direct Action.names) v
  | "instruments", v => Decoder.passes (Decoder.list (Instrument.decode .direct)) v
  | "locations", v => Decoder.passes (Decoder.list (Location.decode .direct)) v
  | _, _ => .ok ()

/-- A command from its wire form. -/
def decode : Decoder Command :=
  Decoder.record .direct shape problem fun fs => do
    let action ← fs.required "commandType" (Decoder.variant .direct Action.names)
    let instruments ← fs.orElse "instruments" (Decoder.list (Instrument.decode .direct)) []
    let locations ← fs.orElse "locations" (Decoder.list (Location.decode .direct)) []
    return { action, instruments, locations }

end Command

end Instrumentation
