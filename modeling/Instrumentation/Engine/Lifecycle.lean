import Instrumentation.Engine.Routine

/-!
# The life of an instrument

An install reserves an instrument, asks whether its unit is loaded, and patches the unit; an
instrument whose unit is not loaded fails or waits for another attempt. A removal takes an
instrument out of the registry, takes back the patch of a live one, and publishes an event. A
hit asks the throttle and the condition, and removes an instrument that has had its last hit or
whose condition fails. A tick sweeps out what has expired and attempts what is due.

Every removal publishes an event, with the failure that caused it if there is one.
-/

namespace Instrumentation

/-- What one tick did. -/
structure TickReport where
  /-- The instruments removed because they expired. -/
  expired : Nat
  /-- The installs that were attempted again. -/
  retried : Nat
deriving DecidableEq, Inhabited

namespace Lifecycle

open Routine

/-- A count as a log field. -/
def countText (n : Nat) : String := String.ofList (Decimal.digits n)

/-! ## Install -/

/-- The end of an install that fails. The instrument is taken out and its removal published,
unless it was removed in the meantime. -/
def failInstall (r : Registration) (err : InstrumentError) : Routine InstrumentError := do
  modify fun e => { e with retries := e.retries.cancel r.id }
  log .warn "instrument install failed" [("error", err.message), ("code", err.code)]
  let detached ← update fun e =>
    let (detached, registry) := e.registry.detach r.id
    (detached, { e with registry })
  match detached with
  | none => return err
  | some _ =>
    modify fun e => { e with frames := e.frames.clear r.id }
    publish (some r.serial) fun t => .removed r.instrument (some err.message) t
    return err

/-- An instrument whose unit is not loaded at `now` fails or waits. -/
def deferInstall (r : Registration) (now : Instant) : Routine (Except InstrumentError Unit) := do
  let unit := r.instrument.unitName
  if r.instrument.applyImmediately then
    return .error (← failInstall r (.targetNotFound r.id unit))
  let decision ← update fun e =>
    let (decision, retries) := e.retries.schedule r.id now
    (decision, { e with retries })
  match decision with
  | .scheduled dueAt attempts =>
    log .debug "target not loaded, deferring install"
      [("due_at", Instant.Rfc3339.format dueAt), ("attempts", countText attempts.toNat),
        ("unit", unit)]
    return .ok ()
  | .exhausted attempts => return .error (← failInstall r (.retriesExhausted r.id attempts))

/-- The end of an install whose patch is in place. The instrument becomes live, unless it was
removed in the meantime; its patch is taken back then. -/
def confirmInstall (r : Registration) : Routine Unit := do
  let unit := r.instrument.unitName
  modify fun e => { e with retries := e.retries.cancel r.id }
  let promoted ← update fun e =>
    let (promoted, registry) := e.registry.promote r.id
    (promoted, { e with registry })
  match promoted with
  | some _ =>
    log .info "instrument applied" [("kind", r.instrument.kind.name)]
    publish (some r.serial) fun t => .applied r.instrument t
  | none =>
    log .debug "instrument removed while applying, reversing patch" []
    match ← request (.restore r) with
    | .ok _ => return ()
    | .error err =>
      log .warn "failed to reverse patch of removed instrument"
        [("error", err.message), ("unit", unit)]

/-- An attempt at `now` to patch the unit of a reserved instrument. A unit that could not be
patched is left as it was. -/
def apply (r : Registration) (now : Instant) : Routine (Except InstrumentError Unit) := do
  let unit := r.instrument.unitName
  if ← request (.resolve r) then
    match ← request (.patch r) with
    | .ok _ =>
      confirmInstall r
      return .ok ()
    | .error source =>
      let err ← failInstall r (.patchFailed r.id source)
      match ← request (.restore r) with
      | .ok _ => return .error err
      | .error secondary =>
        log .warn "unpatch after failed patch also failed"
          [("error", secondary.message), ("unit", unit)]
        return .error err
  else deferInstall r now

/-- The install of an instrument. An identity that is registered already keeps its instrument,
which is the answer then. -/
def install (i : Instrument) : Routine (Except InstrumentError Instrument) := do
  match ← gets fun e => e.registry.get? i.id with
  | some r =>
    log .debug "instrument already registered, coalescing" []
    return .ok r.instrument
  | none =>
    match Candidate.ofInstrument i with
    | .error err =>
      log .warn "rejecting instrument" [("error", err.message)]
      publish none fun t => .removed i (some err.message) t
      return .error err
    | .ok candidate =>
      let reservation ← update fun e =>
        let (reservation, registry) := e.registry.reserve candidate
        (reservation, { e with registry })
      match reservation with
      | .existing r =>
        log .debug "instrument registered concurrently, coalescing" []
        return .ok r.instrument
      | .fresh r =>
        match ← apply r (← gets Engine.clock) with
        | .ok _ => return .ok i
        | .error err => return .error err

/-! ## Removal -/

/-- The cause of a removal once the patch of a live instrument is taken back: the given one,
or else a failure to do so. -/
def reverseLive (r : Registration) (cause : Option String) : Routine (Option String) := do
  if r.isLive then
    match ← request (.withdraw r) with
    | .ok _ => return cause
    | .error source =>
      let err := InstrumentError.unpatchFailed r.id source
      log .warn "unpatch failed, removing anyway"
        [("instrument_id", r.id), ("error", err.message)]
      return cause <|> some err.message
  else return cause

/-- The removal of an identity for a cause, with its frame or without. -/
def removeEntry (id : InstrumentId) (cause : Option String) (withFrame : Bool) :
    Routine (Option Instrument) := do
  let detached ← update fun e =>
    let (detached, registry) := e.registry.detach id
    (detached, { e with registry })
  match detached with
  | none => return none
  | some r =>
    modify fun e => { e with retries := e.retries.cancel id }
    if withFrame then modify fun e => { e with frames := e.frames.clear r.id }
    let cause ← reverseLive r cause
    let given := cause.elim [] fun text => [("cause", text)]
    log .info "instrument removed"
      ([("instrument_id", r.id), ("kind", r.instrument.kind.name)] ++ given)
    publish (some r.serial) fun t => .removed r.instrument cause t
    return some r.instrument

/-- The removal of an identity for a cause. -/
def removeById (id : InstrumentId) (cause : Option String) : Routine (Option Instrument) :=
  removeEntry id cause true

/-- The removal of identities one after another. -/
def removeEach : List InstrumentId → Routine (List Instrument)
  | [] => return []
  | id :: ids => do
    let removed ← removeById id none
    let others ← removeEach ids
    return removed.toList ++ others

/-- The removal of every instrument that answers a lookup for a location. -/
def removeByLocation (query : Location) : Routine (List Instrument) := do
  let found ← gets fun e => e.registry.findByLocation query
  removeEach (found.map Registration.id)

/-- The removal of an identity, or of every instrument at a location. -/
def remove (query : Location) (id : Option InstrumentId) : Routine (List Instrument) :=
  match id with
  | some id => return (← removeById id none).toList
  | none => removeByLocation query

/-! ## Hits -/

/-- The removal of an instrument that has had its last hit. The frame belongs to that hit. -/
def finishIfDone (r : Registration) : Routine Unit := do
  if r.throttle.isFinished then
    modify fun e =>
      { e with registry := e.registry.modify r.id fun r => { r with isDone := true } }
    log .debug "hit limit reached" [("instrument_id", r.id)]
    let _ ← removeEntry r.id none false

/-- The end of a hit that was admitted: it counts if the condition holds in the frame. -/
def judge (r : Registration) : Routine Bool := do
  match r.predicate with
  | none =>
    finishIfDone r
    return true
  | some p =>
    match p.evaluate (← gets fun e => e.frames.get r.id) with
    | .ok true =>
      finishIfDone r
      return true
    | .ok false =>
      log .trace "condition false" [("instrument_id", r.id)]
      modify fun e => { e with frames := e.frames.clear r.id }
      return false
    | .error source =>
      modify fun e => { e with frames := e.frames.clear r.id }
      let err := InstrumentError.evaluationFailed r.id source
      log .warn "condition evaluation failed, removing instrument"
        [("instrument_id", r.id), ("condition", p.source), ("error", err.message)]
      let _ ← removeEntry r.id (some err.message) false
      return false

/-- Whether a pass through the patch point counts as a hit. -/
def hit (id : InstrumentId) : Routine Bool := do
  match ← gets fun e => e.registry.getLive? id with
  | none =>
    log .trace "hit for unknown instrument" [("instrument_id", id)]
    return false
  | some r =>
    let now ← gets Engine.clock
    if r.isFinishedAt now then
      let _ ← removeEntry id none true
      return false
    let (admitted, throttle) := r.throttle.allow now.millis
    let r := { r with throttle }
    modify fun e =>
      { e with registry := e.registry.modify id fun r => { r with throttle } }
    if admitted then judge r
    else
      log .trace "hit throttled" [("instrument_id", id)]
      modify fun e => { e with frames := e.frames.clear id }
      return false

/-! ## Ticks -/

/-- The removal of every instrument whose expiry has passed at `now`, and their number. -/
def sweep (now : Instant) : Routine Nat := do
  let expired ← gets fun e => e.registry.expired now
  if ¬expired.isEmpty then
    log .debug "sweeping expired instruments" [("count", countText expired.length)]
  return (← removeEach expired).length

/-- An attempt at `now` for each of the listed deferred installs, and the number of those
attempted. What is no longer applying is forgotten, and what has expired is left to a sweep. -/
def retryEach (now : Instant) : List InstrumentId → Routine Nat
  | [] => return 0
  | id :: ids => do
    match ← gets fun e => e.registry.getApplying? id with
    | none =>
      modify fun e => { e with retries := e.retries.cancel id }
      retryEach now ids
    | some r =>
      if r.instrument.isExpiredAt now then retryEach now ids
      else
        log .debug "retrying deferred install" [("instrument_id", id)]
        match ← apply r now with
        | .ok _ => return (← retryEach now ids) + 1
        | .error err =>
          log .debug "deferred install failed" [("instrument_id", id), ("error", err.message)]
          return (← retryEach now ids) + 1

/-- An attempt for each deferred install that is due at `now`, and their number. -/
def retryDue (now : Instant) : Routine Nat := do
  let due ← update fun e =>
    let (due, retries) := e.retries.takeDue now
    (due, { e with retries })
  retryEach now due

/-- A tick at `now`: a sweep, then the attempts that are due. -/
def tick (now : Instant) : Routine TickReport := do
  let expired ← sweep now
  let retried ← retryDue now
  return { expired, retried }

/-! ## Reset -/

/-- Every instrument and every deferred install is dropped. No patch is taken back and no
event is published. -/
def clear : Routine Unit :=
  modify fun e => { e with registry := e.registry.clear.2, retries := e.retries.clear }

end Lifecycle

end Instrumentation
