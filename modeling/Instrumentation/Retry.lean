import Instrumentation.Identifier
import Instrumentation.Instant

/-!
# Deferred installs

An install whose unit is not loaded waits here for its next attempt. Each attempt is counted,
and the last one that the policy allows takes the install out. An install whose attempt is in
progress stays, but is not due until it is scheduled again.
-/

namespace Instrumentation

/-- When a deferred install is attempted again, and how often. -/
structure RetryPolicy where
  /-- The whole milliseconds between attempts. -/
  backoff : Nat
  /-- The nanoseconds beyond them. -/
  backoffNanos : Nat := 0
  /-- The attempts in all, the first one included, unless there is no cap. -/
  maxAttempts : Option UInt32
deriving DecidableEq, Inhabited

/-- The nanoseconds between attempts. -/
def RetryPolicy.delay (p : RetryPolicy) : Nat := p.backoff * 1000000 + p.backoffNanos

/-- A deferred install. -/
structure PendingRetry where
  /-- The time of the next attempt, unless one is in progress. -/
  dueAt : Option Instant
  /-- The attempts made. -/
  attempts : UInt32
deriving DecidableEq, Inhabited

/-- What becomes of an install after a failed attempt. -/
inductive RetryDecision where
  /-- The next attempt is due at some time. -/
  | scheduled (dueAt : Instant) (attempts : UInt32)
  /-- No attempt is left. -/
  | exhausted (attempts : UInt32)
deriving DecidableEq

/-- The deferred installs. -/
structure RetryQueue where
  /-- The policy in force. -/
  policy : RetryPolicy
  /-- The deferred installs by instrument. -/
  pending : Dict PendingRetry
deriving DecidableEq, Inhabited

namespace RetryQueue

/-- The queue without installs. -/
def new (policy : RetryPolicy) : RetryQueue := { policy, pending := .empty }

/-- One attempt more, up to the greatest count. -/
def countUp (n : UInt32) : UInt32 := if n = 4294967295 then n else n + 1

/-- The attempts made for an instrument. -/
def attempts? (q : RetryQueue) (id : InstrumentId) : Option UInt32 :=
  (q.pending.get? id).map PendingRetry.attempts

/-- An instrument waits for an attempt, or is being attempted. -/
def isPending (q : RetryQueue) (id : InstrumentId) : Bool := q.pending.contains id

/-- So many attempts are all that the policy allows. -/
def isLast (q : RetryQueue) (attempts : UInt32) : Bool :=
  match q.policy.maxAttempts with
  | some most => most ≤ attempts
  | none => false

/-- A failed attempt at `now`: the install is due again after the backoff, or is dropped. -/
def schedule (q : RetryQueue) (id : InstrumentId) (now : Instant) : RetryDecision × RetryQueue :=
  let attempts := countUp ((q.attempts? id).getD 0)
  if q.isLast attempts then (.exhausted attempts, { q with pending := q.pending.erase id })
  else
    let dueAt := now.later q.policy.delay
    (.scheduled dueAt attempts,
      { q with pending := q.pending.insert id { dueAt := some dueAt, attempts } })

/-- The queue without an instrument. -/
def cancel (q : RetryQueue) (id : InstrumentId) : RetryQueue :=
  { q with pending := q.pending.erase id }

/-- The install is due at `now`. -/
def PendingRetry.isDue (p : PendingRetry) (now : Instant) : Bool :=
  match p.dueAt with
  | some t => t ≤ now
  | none => false

/-- The instruments due at `now`, in order. -/
def due (q : RetryQueue) (now : Instant) : List InstrumentId :=
  (q.pending.entries.filter fun e => PendingRetry.isDue e.2 now).map Prod.fst

/-- The instruments due at `now`, and the queue in which their attempts are in progress. -/
def takeDue (q : RetryQueue) (now : Instant) : List InstrumentId × RetryQueue :=
  (q.due now,
    { q with pending := q.pending.map fun p =>
        if PendingRetry.isDue p now then { p with dueAt := none } else p })

/-- The queue without any instrument. -/
def clear (q : RetryQueue) : RetryQueue := { q with pending := .empty }

/-- The number of deferred installs. -/
def size (q : RetryQueue) : Nat := q.pending.size

end RetryQueue

end Instrumentation
