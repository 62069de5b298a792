import Instrumentation.Condition
import Instrumentation.Throttle

/-!
# Registered instruments

A registry holds instruments in two stores: the applying ones, whose install is under way or
deferred, and the live ones, whose patch is in place. An instrument is reserved among the
applying, promoted to the live, and detached from either. Each registration has a serial number
of its own, which tells it from other registrations of the same identity.

A store lists its instruments in the order of their identities. No order is promised: where the
instruments of a store are listed, any other order will do.
-/

namespace Instrumentation

/-- An instrument that is ready to be registered. -/
structure Candidate where
  /-- The request. -/
  instrument : Instrument
  /-- The condition that was read, if there is one. -/
  predicate : Option Predicate
deriving Inhabited

/-- The candidate of a request whose condition, if it is not blank, can be read. -/
def Candidate.ofInstrument (i : Instrument) : Except InstrumentError Candidate :=
  match i.conditionText? with
  | none => .ok { instrument := i, predicate := none }
  | some text =>
    match Predicate.compile text with
    | .ok p => .ok { instrument := i, predicate := some p }
    | .error source => .error (.conditionInvalid i.id source)

/-- A registered instrument with what changes during its life. -/
structure Registration where
  /-- The number of registrations before this one. -/
  serial : Nat
  /-- The request. -/
  instrument : Instrument
  /-- The condition, if there is one. -/
  predicate : Option Predicate
  /-- The admission of hits. -/
  throttle : Throttle
  /-- The patch is in place. -/
  isLive : Bool
  /-- The registration was given up. -/
  isRemoved : Bool
  /-- The last hit was seen. -/
  isDone : Bool
deriving Inhabited

namespace Registration

/-- The registration of a candidate. -/
def ofCandidate (serial : Nat) (c : Candidate) : Registration :=
  { serial, instrument := c.instrument, predicate := c.predicate
    throttle := .new c.instrument.hitLimit c.instrument.rate
    isLive := false, isRemoved := false, isDone := false }

/-- The identity of the instrument. -/
def id (r : Registration) : InstrumentId := r.instrument.id

/-- The instrument has had its last hit, or its expiry has passed at `now`. -/
def isFinishedAt (r : Registration) (now : Instant) : Bool :=
  r.isDone || r.throttle.isFinished || r.instrument.isExpiredAt now

/-- The registration once it is given up. -/
def remove (r : Registration) : Registration := { r with isRemoved := true }

end Registration

/-- The registered instruments. -/
structure Registry where
  /-- The serial number of the next registration. -/
  nextSerial : Nat
  /-- The instruments whose install is under way or deferred. -/
  applying : Dict Registration
  /-- The instruments whose patch is in place. -/
  live : Dict Registration
deriving Inhabited

/-- The answer to a reservation. -/
inductive Reservation where
  /-- The candidate was registered. -/
  | fresh (r : Registration)
  /-- The identity was registered before. -/
  | existing (r : Registration)

namespace Registry

/-- The registry without instruments. -/
def empty : Registry := { nextSerial := 0, applying := .empty, live := .empty }

/-- The live instrument of an identity. -/
def getLive? (g : Registry) (id : InstrumentId) : Option Registration := g.live.get? id

/-- The applying instrument of an identity. -/
def getApplying? (g : Registry) (id : InstrumentId) : Option Registration := g.applying.get? id

/-- The registered instrument of an identity. -/
def get? (g : Registry) (id : InstrumentId) : Option Registration :=
  g.live.get? id <|> g.applying.get? id

/-- The identity is registered. -/
def contains (g : Registry) (id : InstrumentId) : Bool := (g.get? id).isSome

/-- A candidate put among the applying, unless its identity is registered. -/
def reserve (g : Registry) (c : Candidate) : Reservation × Registry :=
  match g.get? c.instrument.id with
  | some r => (.existing r, g)
  | none =>
    let r := Registration.ofCandidate g.nextSerial c
    (.fresh r,
      { g with nextSerial := g.nextSerial + 1, applying := g.applying.insert r.id r })

/-- An applying instrument moved to the live ones, unless it was given up. -/
def promote (g : Registry) (id : InstrumentId) : Option Registration × Registry :=
  match g.applying.get? id with
  | none => (none, g)
  | some r =>
    if r.isRemoved then (none, g)
    else
      let r := { r with isLive := true }
      (some r, { g with applying := g.applying.erase id, live := g.live.insert r.id r })

/-- An instrument taken out of the store that holds it, and given up. -/
def detach (g : Registry) (id : InstrumentId) : Option Registration × Registry :=
  match g.live.get? id with
  | some r => (some r.remove, { g with live := g.live.erase id })
  | none =>
    match g.applying.get? id with
    | some r => (some r.remove, { g with applying := g.applying.erase id })
    | none => (none, g)

/-- The registered instrument of an identity changed by `f`. -/
def modify (g : Registry) (id : InstrumentId) (f : Registration → Registration) : Registry :=
  match g.live.get? id with
  | some _ => { g with live := g.live.modify id f }
  | none => { g with applying := g.applying.modify id f }

/-- The registered instruments, the applying ones first, those of each store in any order. -/
def registrations (g : Registry) : List Registration := g.applying.values ++ g.live.values

/-- The entries of a store that answer a lookup for a location, in any order. -/
def answering (d : Dict Registration) (query : Location) : List (InstrumentId × Registration) :=
  d.entries.filter fun e => e.2.instrument.location.answers query

/-- The instruments that answer a lookup for a location, each identity once: the applying ones
first, those of each store in any order. -/
def findByLocation (g : Registry) (query : Location) : List Registration :=
  let applying := answering g.applying query
  let live := (answering g.live query).filter fun e => (applying.lookup e.1).isNone
  (applying ++ live).map Prod.snd

/-- The requests of the live instruments, in any order. -/
def snapshot (g : Registry) : List Instrument := g.live.values.map Registration.instrument

/-- The identities whose expiry has passed at `now`: the applying ones first, those of each store in
any order. -/
def expired (g : Registry) (now : Instant) : List InstrumentId :=
  let keys (d : Dict Registration) : List InstrumentId :=
    (d.entries.filter fun e => e.2.instrument.isExpiredAt now).map Prod.fst
  keys g.applying ++ keys g.live

/-- Every instrument given up, and the registry without any. -/
def clear (g : Registry) : List Registration × Registry :=
  (g.registrations.map Registration.remove, { g with applying := .empty, live := .empty })

end Registry

end Instrumentation
