import Instrumentation.Json.Merge
import Instrumentation.Json.Reader
import Instrumentation.Settings

/-!
# Loading settings

Settings come in three layers: the defaults, the values of a file laid over them, and the
variables of the environment over both. A variable that is no number in its range has no effect.
-/

namespace Instrumentation

namespace Settings

/-- The number that decimal digits write, with a plus sign or none before them. -/
def parseDigits? (s : String) : Option Nat :=
  let ds :=
    match s.toList with
    | '+' :: rest => rest
    | cs => cs
  if ds.isEmpty || !ds.all Char.isDigit then none
  else some (ds.foldl (fun n c => 10 * n + (c.toNat - '0'.toNat)) 0)

/-- The number that a text writes, if it lies below `bound` and between two limits. -/
def parseRange? (bound : Nat) (s : String) (least greatest : Nat) : Option Nat :=
  match parseDigits? s with
  | some n => if n < bound ∧ least ≤ n ∧ n ≤ greatest then some n else none
  | none => none

/-- The variables of an environment. -/
abbrev Environment := String → Option String

/-- The variable for the milliseconds between two ticks. -/
def tickInterval? (env : Environment) : Option UInt64 :=
  ((env "LIVEPROBE_TICK_INTERVAL_MS").bind fun s =>
    parseRange? UInt64.size s 100 600000).map UInt64.ofNat

/-- The variable for the milliseconds between two attempts. -/
def backoff? (env : Environment) : Option UInt64 :=
  ((env "LIVEPROBE_RETRY_BACKOFF_MS").bind fun s =>
    parseRange? UInt64.size s 100 3600000).map UInt64.ofNat

/-- The variable for the number of attempts. -/
def maxAttempts? (env : Environment) : Option UInt32 :=
  ((env "LIVEPROBE_RETRY_MAX_ATTEMPTS").bind fun s =>
    parseRange? UInt32.size s 1 1000000).map UInt32.ofNat

/-- The variable for the size of the event channel. -/
def channelCapacity? (env : Environment) : Option UInt64 :=
  ((env "LIVEPROBE_EVENT_CAPACITY").bind fun s =>
    parseRange? UInt64.size s 1 1048576).map UInt64.ofNat

/-- The variable for the level of the log, unless it is empty. -/
def logLevel? (env : Environment) : Option String :=
  (env "LIVEPROBE_LOG_LEVEL").filter fun s => !s.isEmpty

/-- The settings with the variables of an environment over them. -/
def override (s : Settings) (env : Environment) : Settings :=
  { tickInterval := (tickInterval? env).getD s.tickInterval
    backoff := (backoff? env).getD s.backoff
    maxAttempts := maxAttempts? env <|> s.maxAttempts
    channelCapacity := (channelCapacity? env).getD s.channelCapacity
    logLevel := (logLevel? env).getD s.logLevel }

end Settings

/-- What is found at the path of the settings file. -/
inductive SettingsFile where
  /-- Nothing. -/
  | missing
  /-- Something that cannot be read, for a reason that the system gives. -/
  | unreadable (reason : String)
  /-- A file with these bytes. -/
  | bytes (content : ByteArray)

namespace SettingsFile

/-- The value that a file holds. -/
def json (content : ByteArray) : Except SettingsError Json :=
  match String.fromUTF8? content with
  | none => .error (.unreadable "stream did not contain valid UTF-8")
  | some text =>
    match Json.parse? text with
    | some v => .ok v
    | none => .error (.undecodable .malformed)

/-- The value of the defaults with that of a file over them. -/
def layered : SettingsFile → Except SettingsError Json
  | missing => .ok Settings.default.toJson
  | unreadable reason => .error (.unreadable reason)
  | bytes content => do return Settings.default.toJson.merge (← json content)

end SettingsFile

namespace Settings

/-- The settings of a file and an environment. -/
def load (file : SettingsFile) (env : Environment) : Except SettingsError Settings := do
  let merged ← file.layered
  let decoded ←
    match decode merged with
    | .ok s => pure s
    | .error cause => throw (.undecodable cause)
  let s := decoded.override env
  s.validate
  return s

/-- A path with a component more. -/
def joinPath (base component : String) : String :=
  if base.isEmpty || base.endsWith "/" then base ++ component else base ++ "/" ++ component

/-- The path of the settings file under a home directory. -/
def path (home : Option String) : String :=
  joinPath (joinPath (home.getD "/tmp") ".liveprobe") "settings.json"

end Settings

end Instrumentation
