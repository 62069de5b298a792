import Instrumentation.Json.Decode

/-!
# Points in time

An instant counts seconds and nanoseconds from the start of 1970, within the range of the
calendar from the year -262143 to the year 262142. A fraction of a whole second or more lies
within the leap second after its second.

Control messages give instants in milliseconds.
-/

namespace Instrumentation

/-- A point in time. -/
structure Instant where
  /-- The whole seconds since the start of 1970. -/
  seconds : Int
  /-- The nanoseconds beyond them. -/
  nanos : Nat
  /-- The calendar begins with the year -262143. -/
  le_seconds : -8334601228800 ≤ seconds
  /-- The calendar ends with the year 262142. -/
  seconds_lt : seconds < 8210266876800
  /-- A leap second lasts for one second. -/
  nanos_lt : nanos < 2000000000
deriving DecidableEq

namespace Instant

instance : Inhabited Instant := ⟨⟨0, 0, by decide, by decide, by decide⟩⟩

/-- The last instant of the calendar. -/
def latest : Instant := ⟨8210266876799, 999999999, by decide, by decide, by decide⟩

/-- The instant with these parts, if it lies in the calendar. -/
def ofParts? (seconds : Int) (nanos : Nat) : Option Instant :=
  if h : -8334601228800 ≤ seconds ∧ seconds < 8210266876800 ∧ nanos < 2000000000 then
    some ⟨seconds, nanos, h.1, h.2.1, h.2.2⟩
  else none

/-- Instants are ordered by their seconds, then by their nanoseconds. -/
def le (s t : Instant) : Bool :=
  s.seconds < t.seconds || (s.seconds = t.seconds && s.nanos ≤ t.nanos)

instance : LE Instant := ⟨fun s t => s.le t = true⟩

instance (s t : Instant) : Decidable (s ≤ t) := inferInstanceAs (Decidable (s.le t = true))

/-- The whole milliseconds since the start of 1970. -/
def millis (t : Instant) : Int := t.seconds * 1000 + t.nanos / 1000000

/-- The instant at so many milliseconds, if it lies in the calendar. -/
def ofMillis? (z : Int) : Option Instant :=
  ofParts? (z / 1000) ((z % 1000).toNat * 1000000)

/-- The instant so many nanoseconds later, or the last one if the calendar ends before. A leap
second is left only for what lies beyond it, and is not counted then. -/
def later (t : Instant) (elapsed : Nat) : Instant :=
  let added := elapsed % 1000000000
  if 1000000000 ≤ t.nanos ∧ elapsed < 1000000000 ∧ t.nanos + added < 2000000000 then
    (ofParts? t.seconds (t.nanos + added)).getD latest
  else
    let nanos := t.nanos % 1000000000 + added
    (ofParts? (t.seconds + elapsed / 1000000000 + nanos / 1000000000) (nanos % 1000000000)).getD
      latest

/-- The milliseconds as a JSON number. -/
def toMillisJson (t : Instant) : Json := Json.ofInt t.millis

/-- An instant given in milliseconds. -/
def decodeMillis : Decoder Instant
  | .number (.integer n) =>
    match ofMillis? n.val with
    | some t => .ok t
    | none => .error (.illegalTimestamp n.val)
  | v => .error (.invalidType v "a unix timestamp in milliseconds")

end Instant

end Instrumentation
