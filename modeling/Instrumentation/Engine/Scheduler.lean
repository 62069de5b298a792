import Instrumentation.Engine.Lifecycle

/-!
# The scheduler

A started scheduler ticks at even intervals, the first time one interval after its start, until
it is stopped. An engine that is shut down drops everything once its scheduler has stopped.
-/

namespace Instrumentation.Scheduler

open Routine

/-- The milliseconds between two ticks, at least one. -/
def period (s : Settings) : Nat := max s.tickInterval.toNat 1

/-- The start. -/
def start : Routine Unit := do
  let s ← gets Engine.settings
  log .info "starting live instrument engine"
    [("tick_interval_ms", Lifecycle.countText s.tickInterval.toNat)]
  log .info "instrument scheduler started" [("period_ms", Lifecycle.countText (period s))]

/-- One interval and the tick at its end. -/
def advance : Routine Unit := do
  modify fun e => { e with clock := e.clock.later (period e.settings) }
  let report ← Lifecycle.tick (← gets Engine.clock)
  if 0 < report.expired ∨ 0 < report.retried then
    log .debug "scheduler tick"
      [("expired", Lifecycle.countText report.expired),
        ("retried", Lifecycle.countText report.retried)]

/-- Ticks until the engine satisfies `goal`, at most so many, and whether it does. -/
def awaitGoal (goal : Engine → Bool) : Nat → Routine Bool
  | 0 => gets goal
  | most + 1 => do
    if ← gets goal then return true
    advance
    awaitGoal goal most

/-- The stop. -/
def stop : Routine Unit := log .info "instrument scheduler stopped" []

/-- The stop, after which everything is dropped. -/
def shutdown : Routine Unit := do
  stop
  Lifecycle.clear
  log .info "live instrument engine stopped" []

end Instrumentation.Scheduler
