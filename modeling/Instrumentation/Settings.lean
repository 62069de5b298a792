import Instrumentation.Json.Decode
import Instrumentation.Retry

/-!
# Settings

The pace of the scheduler, the policy for deferred installs, the size of the event channel and
the level of the log. On the wire they stand in four sections, each of which may be left out in
whole or in part.
-/

namespace Instrumentation

/-- The settings of an engine. -/
structure Settings where
  /-- The milliseconds between two ticks of the scheduler. -/
  tickInterval : UInt64
  /-- The milliseconds before a deferred install is attempted again. -/
  backoff : UInt64
  /-- The attempts of a deferred install, unless there is no cap. -/
  maxAttempts : Option UInt32
  /-- The events that a slow subscriber may lie behind. -/
  channelCapacity : UInt64
  /-- The least level of the log. -/
  logLevel : String
deriving DecidableEq

/-- A failure to load settings. -/
inductive SettingsError where
  /-- The file could not be read, for a reason that the system gives. -/
  | unreadable (reason : String)
  /-- The file does not hold settings. -/
  | undecodable (cause : DecodeError)
  /-- A value with which no engine can run. -/
  | invalidValue (reason : String)

/-- The wording of a failure to load settings. -/
def SettingsError.message : SettingsError → String
  | unreadable reason => "failed to read settings file: " ++ reason
  | undecodable cause => "failed to parse settings JSON: " ++ cause.message
  | invalidValue reason => "invalid settings value: " ++ reason

namespace Settings

/-- The settings in force when nothing is set. -/
def default : Settings :=
  { tickInterval := 5000, backoff := 5000, maxAttempts := none, channelCapacity := 1024
    logLevel := "warn" }

instance : Inhabited Settings := ⟨default⟩

/-- The policy for deferred installs. -/
def retryPolicy (s : Settings) : RetryPolicy :=
  { backoff := s.backoff.toNat, maxAttempts := s.maxAttempts }

/-- No value is refused. -/
def validate (s : Settings) : Except SettingsError Unit :=
  if s.tickInterval = 0 then
    .error (.invalidValue "scheduler.tickIntervalMs must be greater than 0")
  else if s.maxAttempts = some 0 then
    .error (.invalidValue "retry.maxAttempts must be at least 1 when set")
  else if s.channelCapacity = 0 then
    .error (.invalidValue "events.channelCapacity must be greater than 0")
  else .ok ()

/-- The settings on the wire. -/
def toJson (s : Settings) : Json :=
  let cap :=
    match s.maxAttempts with
    | some n => Json.ofUInt32 n
    | none => .null
  Json.ofMembers
    [("scheduler", Json.ofMembers [("tickIntervalMs", Json.ofUInt64 s.tickInterval)]),
      ("retry", Json.ofMembers [("backoffMs", Json.ofUInt64 s.backoff), ("maxAttempts", cap)]),
      ("events", Json.ofMembers [("channelCapacity", Json.ofUInt64 s.channelCapacity)]),
      ("logging", Json.ofMembers [("level", .string s.logLevel)])]

/-- A section with its fields read into the settings. -/
abbrev Section := Json → Except DecodeError (Settings → Settings)

/-- The scheduler section. -/
def schedulerSection : Section :=
  let problem (_ : Fields) : String → Decoder Unit
    | "tickIntervalMs", v => Decoder.passes Decoder.uint64 v
    | _, _ => .ok ()
  Decoder.record .direct { name := "struct SchedulerSettings", fields := ["tickIntervalMs"] }
    problem fun fs => do
      let tickInterval ← fs.orElse "tickIntervalMs" Decoder.uint64 default.tickInterval
      return fun s => { s with tickInterval }

/-- The retry section. -/
def retrySection : Section :=
  let problem (_ : Fields) : String → Decoder Unit
    | "backoffMs", v => Decoder.passes Decoder.uint64 v
    | "maxAttempts", v => Decoder.passes (Decoder.optional Decoder.uint32) v
    | _, _ => .ok ()
  Decoder.record .direct
    { name := "struct RetrySettings", fields := ["backoffMs", "maxAttempts"] }
    problem fun fs => do
      let backoff ← fs.orElse "backoffMs" Decoder.uint64 default.backoff
      let maxAttempts ← fs.orElse "maxAttempts" (Decoder.optional Decoder.uint32) none
      return fun s => { s with backoff, maxAttempts }

/-- The events section. -/
def eventsSection : Section :=
  let problem (_ : Fields) : String → Decoder Unit
    | "channelCapacity", v => Decoder.passes Decoder.count v
    | _, _ => .ok ()
  Decoder.record .direct { name := "struct EventSettings", fields := ["channelCapacity"] }
    problem fun fs => do
      let channelCapacity ← fs.orElse "channelCapacity" Decoder.count default.channelCapacity
      return fun s => { s with channelCapacity }

/-- The logging section. -/
def loggingSection : Section :=
  let problem (_ : Fields) : String → Decoder Unit
    | "level", v => Decoder.passes Decoder.text v
    | _, _ => .ok ()
  Decoder.record .direct { name := "struct LoggingSettings", fields := ["level"] }
    problem fun fs => do
      let logLevel ← fs.orElse "level" Decoder.text default.logLevel
      return fun s => { s with logLevel }

/-- What messages call the settings, and their sections. -/
def shape : Shape :=
  { name := "struct LiveProbeSettings", fields := ["scheduler", "retry", "events", "logging"] }

/-- The problem of a given section. -/
def problem (_ : Fields) : String → Decoder Unit
  | "events", v => Decoder.passes eventsSection v
  | "logging", v => Decoder.passes loggingSection v
  | "retry", v => Decoder.passes retrySection v
  | "scheduler", v => Decoder.passes schedulerSection v
  | _, _ => .ok ()

/-- The settings from their wire form, with defaults for what is absent. -/
def decode : Decoder Settings :=
  Decoder.record .direct shape problem fun fs => do
    let scheduler ← fs.orElse "scheduler" schedulerSection id
    let retry ← fs.orElse "retry" retrySection id
    let events ← fs.orElse "events" eventsSection id
    let logging ← fs.orElse "logging" loggingSection id
    return logging (events (retry (scheduler default)))

end Settings

end Instrumentation
