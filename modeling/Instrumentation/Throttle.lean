import Instrumentation.Instrument

/-!
# Hit admission

A throttle combines a limit on all hits, after which an instrument is finished, with a rate
window that admits so many hits per step. Times are milliseconds on a clock of 64 bits.
-/

namespace Instrumentation

/-- A rate window. It opens with the first hit, and again with the first hit after its step
has passed. -/
structure RateWindow where
  /-- The hits that one opening admits. -/
  limit : Nat
  /-- The length of the window. -/
  step : Nat
  /-- The time at which the window was opened last. -/
  openedAt : Option Int
  /-- The hits admitted since. -/
  count : Nat
deriving DecidableEq, Inhabited

namespace RateWindow

/-- The window of a rate before any hit. -/
def ofRate (r : Rate) : RateWindow :=
  { limit := r.limit.toNat, step := r.step.millis, openedAt := none, count := 0 }

/-- The time between two readings of the clock. -/
def elapsed (start now : Int) : Int := (now - start).bmod UInt64.size

/-- The window has to be opened at `now`. -/
def isOver (w : RateWindow) (now : Int) : Bool :=
  match w.openedAt with
  | none => true
  | some start => w.step ≤ elapsed start now

/-- The window as a hit at `now` finds it. -/
def refresh (w : RateWindow) (now : Int) : RateWindow :=
  if w.isOver now then { w with openedAt := some now, count := 0 } else w

/-- The admission of a hit at `now`, and the window after it. -/
def pass (w : RateWindow) (now : Int) : Bool × RateWindow :=
  let w := w.refresh now
  if w.count < w.limit then (true, { w with count := w.count + 1 }) else (false, w)

end RateWindow

/-- The admission of hits for one instrument. -/
structure Throttle where
  /-- The limit on all hits. -/
  hitLimit : Option Nat
  /-- The rate window. -/
  window : Option RateWindow
  /-- The hits admitted so far. -/
  hits : Nat
  /-- The hits that the rate window refused. -/
  limited : Nat
deriving DecidableEq, Inhabited

namespace Throttle

/-- The throttle with a limit and a rate before any hit. -/
def new (hitLimit : Option UInt32) (rate : Option Rate) : Throttle :=
  { hitLimit := hitLimit.map UInt32.toNat, window := rate.map .ofRate, hits := 0, limited := 0 }

/-- The throttle that admits every hit. -/
def unlimited : Throttle := new none none

/-- The limit on all hits is reached. -/
def isFinished (t : Throttle) : Bool :=
  match t.hitLimit with
  | some limit => limit ≤ t.hits
  | none => false

/-- The admission of a hit at `now`, and the throttle after it. -/
def allow (t : Throttle) (now : Int) : Bool × Throttle :=
  if t.isFinished then (false, t)
  else
    match t.window with
    | none => (true, { t with hits := t.hits + 1 })
    | some w =>
      let (admitted, w) := w.pass now
      if admitted then (true, { t with window := some w, hits := t.hits + 1 })
      else (false, { t with window := some w, limited := t.limited + 1 })

end Throttle

end Instrumentation
