import Instrumentation.Command
import Instrumentation.Engine.Lifecycle
import Instrumentation.Json.Reader

/-!
# The control plane

Commands are applied member by member, and a member that fails does not stop the others. A
command that cannot be read, or that lists nothing, is refused. Refusals and failures are
answered and published.
-/

namespace Instrumentation

/-- What a command did. -/
structure Outcome where
  /-- The instruments that were installed, or were registered before, or were removed. -/
  affected : List Instrument
  /-- The failures to install. -/
  errors : List InstrumentError
deriving Inhabited

/-- Every part of the command succeeded. -/
def Outcome.isSuccess (o : Outcome) : Bool := o.errors.isEmpty

namespace Control

open Routine

/-- The refusal of a command. -/
def reject (raw : Json) (cause : String) : Routine InstrumentError := do
  log .warn "rejecting command" [("cause", cause)]
  publish none fun t => .commandFailed raw cause t
  return .invalidCommand cause

/-- The installs of an adding command. -/
def add : List Instrument → Routine Outcome
  | [] => return { affected := [], errors := [] }
  | i :: rest => do
    let answer ← Lifecycle.install i
    let o ← add rest
    match answer with
    | .ok installed => return { o with affected := installed :: o.affected }
    | .error err => return { o with errors := err :: o.errors }

/-- The removals of listed instruments. -/
def removeListed : List Instrument → Routine (List Instrument)
  | [] => return []
  | i :: rest => do
    let removed ← Lifecycle.remove i.location (some i.id)
    return removed ++ (← removeListed rest)

/-- The removals at listed locations. -/
def removeAt : List Location → Routine (List Instrument)
  | [] => return []
  | l :: rest => do
    let removed ← Lifecycle.remove l none
    return removed ++ (← removeAt rest)

/-- The removals of a removing command. -/
def remove (instruments : List Instrument) (locations : List Location) : Routine Outcome := do
  let listed ← removeListed instruments
  let located ← removeAt locations
  return { affected := listed ++ located, errors := [] }

/-- A command that was read. -/
def perform (c : Command) : Routine Outcome := do
  log .debug "handling command"
    [("command_type", c.action.describe),
      ("instruments", Lifecycle.countText c.instruments.length),
      ("locations", Lifecycle.countText c.locations.length)]
  match c.action with
  | .add => add c.instruments
  | .remove => remove c.instruments c.locations

/-- A command given as a value. -/
def handle (raw : Json) : Routine (Except InstrumentError Outcome) := do
  match Command.decode raw with
  | .error err => return .error (← reject raw err.message)
  | .ok c =>
    if c.isEmpty then
      return .error (← reject raw "command lists no instruments or locations")
    let o ← perform c
    if ¬o.isSuccess then
      let cause := "; ".intercalate (o.errors.map InstrumentError.message)
      publish none fun t => .commandFailed raw cause t
    return .ok o

/-- A command given as text. -/
def handleText (text : String) : Routine (Except InstrumentError Outcome) := do
  match Json.parse? text with
  | some raw => handle raw
  | none => return .error (← reject (.string text) DecodeError.malformed.message)

end Control

end Instrumentation
