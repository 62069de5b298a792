import Instrumentation.Proofs.Timely.Operations
import Mathlib

/-!
# Attempts over time

In a session in which one operation runs after another, the attempts for a registration are listed
with their times. Between two operations the next attempt of an applying registration is due when
the backoff has passed since the last one, however the clock and the times of the ticks have run.

So a tick attempts what has not expired if and only if it is due, and once only. The attempts that
miss are recorded up to the cap, and the last of them takes the registration out.
-/

namespace Instrumentation

/-! ### One operation after another -/

namespace Conduct

/-- One operation runs after another, and calls are answered in any way. Ticks attempt what is due,
and nothing is dropped as a whole. -/
def ticking : Conduct where
  starts _ calls op := calls = [] ∧ op ≠ .clear ∧ ∀ now, op ≠ .retryDue now
  answers _ _ _ := True

/-- Operations start one after another, and reach the goal again. It lists a time for each attempt
for the registration `n`, and withstands what is of no concern. -/
structure Reaches (c : Conduct) (n : Nat) (goal : List Instant → Engine → Prop) : Prop where
  /-- No operation waits when one starts, which reaches the goal. -/
  start {s : Session} {op : Operation} {times : List Instant}
    (may : c.starts s.engine.view s.calls op) : s.waiting = []
      ∧ (goal times s.engine
        → op.routine.Ensures (.timed n op.time) (fun _ => goal) times s.engine)
  /-- Each attempt has its time. -/
  counted {times : List Instant} {e : Engine} (h : goal times e) :
    times.length = e.view.attempts n
  /-- Nothing of concern happens. -/
  quiet {times : List Instant} {e e' : Engine} (h : goal times e) (quiet : e'.Quiet e) :
    goal times e'

/-- The next attempt is due between operations. -/
theorem ticking_reaches (n backoff : Nat) :
  ticking.Reaches n fun times e => e.Timely n backoff [] times
  where
  start := by
    rintro ⟨e, waiting, finished⟩ op times ⟨none, keeps, sweeps⟩
    use List.map_eq_nil_iff.mp none
    intro h
    apply op.ensures_timely keeps sweeps h
  counted h := h.counted
  quiet h quiet := h.quiet quiet

end Conduct

namespace Session

/-- The attempts for the registration `n` were made at the given times. One operation waits at most.
The goal holds between operations, and when the one that waits has ended. -/
structure Timed (s : Session) (n : Nat) (goal : List Instant → Engine → Prop)
    (times : List Instant) : Prop where
  /-- Each attempt has its time. -/
  counted : times.length = s.engine.view.attempts n
  /-- The goal holds between operations. -/
  rests (none : s.waiting = []) : goal times s.engine
  /-- It holds when the operation that waits has ended. -/
  waits {p : Pending} {below : List Pending} (top : s.waiting = p :: below) : below = []
    ∧ ∀ answer e', e'.Quiet s.engine
      → (p.resume answer).Ensures (.timed n p.op.time) (fun _ => goal) times e'

/-- No attempt is begun, or one by the operation that waits now. -/
inductive Begins (s : Session) (times : List Instant) : List Instant → Prop where
  /-- No attempt is begun. -/
  | none : Begins s times times
  /-- An attempt is begun. -/
  | attempt (p : Pending) (waits : s.waiting = [p]) : Begins s times (p.op.time s.engine :: times)

/-- The attempts before are the same. -/
theorem Begins.suffix {s : Session} {times times' : List Instant} (h : s.Begins times times') :
  times <:+ times'
  := by
  cases h with
  | none => exact List.suffix_rfl
  | attempt p waits => apply List.suffix_cons

namespace Timed

variable {c : Conduct} {s s' : Session} {n : Nat} {goal : List Instant → Engine → Prop}
  {times : List Instant}

/-- An operation goes on up to its next call, or to its end. -/
theorem proceed (reaches : c.Reaches n goal) {op : Operation}
    (finished : List ((op : Operation) × op.Result)) {r : Routine op.Result} {e : Engine}
    (h : r.Ensures (.timed n op.time) (fun _ => goal) times e) :
  ∃ times', (proceed op [] finished r e).Timed n goal times'
    ∧ (proceed op [] finished r e).Begins times times'
  := by
  induction r generalizing e with
  | done a =>
    use times
    constructor
    · exact ⟨reaches.counted h, fun _ => h, nofun⟩
    · exact .none
  | read next ih => apply ih e h
  | write e' next ih => apply ih h
  | ask call next ih =>
    obtain ⟨counted, goesOn⟩ := h
    use call.stamp n (op.time e) times
    constructor
    · refine ⟨counted, nofun, ?_⟩
      rintro p below ⟨⟩
      exact ⟨rfl, goesOn⟩
    · cases call with
      | resolve r =>
        rw [Call.stamp]
        split
        · exact .attempt { op, call := .resolve r, resume := next } rfl
        · exact .none
      | patch r | restore r | withdraw r => exact .none

/-- One thing more happens. -/
theorem step (reaches : c.Reaches n goal) (h : s.Timed n goal times) (step : c.Step s s') :
  ∃ times', s'.Timed n goal times' ∧ s'.Begins times times'
  := by
  cases step with
  | drift _ clock frames emitter =>
    have quiet : ({ s.engine with clock, frames, emitter } : Engine).Quiet s.engine :=
      .of_same rfl rfl rfl
    use times
    constructor
    · refine ⟨h.counted, fun none => reaches.quiet (h.rests none) quiet, ?_⟩
      intro p below top
      obtain ⟨alone, goesOn⟩ := h.waits top
      use alone
      intro answer e' quiet'
      exact goesOn answer e' (quiet'.trans quiet)
    · exact .none
  | start _ op may =>
    obtain ⟨none, goesOn⟩ := reaches.start may
    rw [Session.start, none]
    apply proceed reaches _ (goesOn (h.rests none))
  | reply e p waiting finished answer may =>
    obtain ⟨rfl, goesOn⟩ := h.waits rfl
    apply proceed reaches _ (goesOn answer e (.refl e))

/-- More things happen. -/
theorem run (reaches : c.Reaches n goal) (h : s.Timed n goal times) (run : c.Run s s') :
  ∃ times', s'.Timed n goal times' ∧ times <:+ times'
  := by
  induction run with
  | refl => exact ⟨times, h, List.suffix_rfl⟩
  | tail _ next ih =>
    obtain ⟨times₁, h₁, more₁⟩ := ih
    obtain ⟨times₂, h₂, begins⟩ := h₁.step reaches next
    exact ⟨times₂, h₂, more₁.trans begins.suffix⟩

end Timed

/-- An operation comes to its end when it is answered often enough. -/
theorem exists_finished {op : Operation} (finished : List ((op : Operation) × op.Result))
    (r : Routine op.Result) (e : Engine) :
  ∃ s, Conduct.finishing.Run (proceed op [] finished r e) s ∧ s.waiting = []
  := by
  induction r generalizing e with
  | done a => exact ⟨_, .refl, rfl⟩
  | read next ih => apply ih e
  | write e' next ih => apply ih
  | ask call next ih =>
    obtain ⟨s, run, ends⟩ := ih (call.grant true) e
    have reply := Conduct.Step.reply (c := .finishing) e { op, call, resume := next } [] finished
      (call.grant true) trivial
    exact ⟨s, .head reply run, ends⟩

/-- What waits comes to its end when it is answered often enough. -/
theorem Timed.exists_finished {s : Session} {n : Nat} {goal : List Instant → Engine → Prop}
    {times : List Instant} (h : s.Timed n goal times) :
  ∃ s', Conduct.finishing.Run s s' ∧ s'.waiting = []
  := by
  obtain ⟨e, waiting, finished⟩ := s
  cases waiting with
  | nil => exact ⟨_, .refl, rfl⟩
  | cons p below =>
    obtain ⟨rfl, -⟩ := h.waits rfl
    apply Session.exists_finished finished (.ask p.call p.resume) e

end Session

/-! ### The last attempt -/

namespace Conduct

variable {settings : Settings} {clock : Instant} {s s' : Session} {n : Nat} {t : Instant}

/-- In a run from `start` to `s` the last attempt for the registration `n` was made at `t`: it was
begun in one step, after which its operation waits, and none since. -/
inductive LastAttempt (c : Conduct) (start s : Session) (n : Nat) (t : Instant) : Prop where
  /-- The session before the attempt, and the one in which its operation waits. -/
  | intro (before after : Session) (p : Pending) (run : c.Run start before)
      (step : c.Step before after)
      (begins : after.engine.view.attempts n = before.engine.view.attempts n + 1)
      (waits : after.waiting = [p]) (time : p.op.time after.engine = t) (later : c.Run after s)
      (none : s.engine.view.attempts n = after.engine.view.attempts n)

/-- In every run the attempts have their times, and the next one is due between operations. -/
theorem Run.timed (run : ticking.Run (.idle (.new settings clock)) s) (n : Nat) :
  ∃ times, s.Timed n (fun times e => e.Timely n settings.retryPolicy.delay [] times) times
    ∧ ∀ t, times.head? = some t → ticking.LastAttempt (.idle (.new settings clock)) s n t
  := by
  induction run with
  | refl =>
    use []
    constructor
    · exact ⟨rfl, fun _ => .new settings clock n, nofun⟩
    · intro t head
      cases head
  | @tail s s' before step ih =>
    obtain ⟨times, h, last⟩ := ih
    obtain ⟨times', h', begins⟩ := h.step (ticking_reaches n settings.retryPolicy.delay) step
    use times', h'
    cases begins with
    | none =>
      intro t head
      obtain ⟨s₀, s₁, p, run, attempt, one, waits, time, later, none⟩ := last t head
      have same := h'.counted.symm.trans (h.counted.trans none)
      exact ⟨s₀, s₁, p, run, attempt, one, waits, time, later.tail step, same⟩
    | attempt p waits =>
      intro t head
      have one : s'.engine.view.attempts n = s.engine.view.attempts n + 1 := by
        rw [← h'.counted, ← h.counted, List.length_cons]
      exact ⟨s, s', p, before, step, one, waits, Option.some.inj head, .refl, rfl⟩

/-- The next attempt is due when the backoff has passed since the last one. -/
theorem LastAttempt.timed (last : ticking.LastAttempt (.idle (.new settings clock)) s n t) :
  ∃ times, s.Timed n (fun times e => e.Timely n settings.retryPolicy.delay [] times) times
    ∧ times.head? = some t
  := by
  obtain ⟨before, after, p, run, step, begins, waits, time, later, none⟩ := last
  have reaches := ticking_reaches n settings.retryPolicy.delay
  obtain ⟨times, h, -⟩ := run.timed n
  obtain ⟨times₁, h₁, begun⟩ := h.step reaches step
  obtain ⟨times₂, h₂, more⟩ := h₁.run reaches later
  obtain rfl : times₁ = times₂ := by
    apply more.eq_of_length
    rw [h₁.counted, h₂.counted, none]
  use times₁, h₂
  cases begun with
  | none =>
    rw [← h₁.counted, ← h.counted] at begins
    omega
  | attempt q waits' =>
    obtain ⟨rfl, -⟩ := List.cons.inj (waits.symm.trans waits')
    rw [List.head?_cons, time]

/-- A tick attempts what is applying and has not expired when the backoff has passed since the last
attempt, and once only. It comes to its end. -/
theorem LastAttempt.tick (last : ticking.LastAttempt (.idle (.new settings clock)) s n t)
    (rests : s.waiting = []) {x : InstrumentId} {r : Registration}
    (applying : s.engine.registry.applying.get? x = some r) (own : r.serial = n) {now : Instant}
    (lasts : r.instrument.isExpiredAt now = false)
    (run : finishing.Run (s.start (.tick now)) s') :
  (∃ s'', finishing.Run s' s'' ∧ s''.waiting = [])
    ∧ s'.engine.view.attempts n
      ≤ s.engine.view.attempts n + (if t.later settings.retryPolicy.delay ≤ now then 1 else 0)
    ∧ (s'.waiting = [] → s'.engine.view.attempts n
      = s.engine.view.attempts n + if t.later settings.retryPolicy.delay ≤ now then 1 else 0)
  := by
  obtain ⟨times, h, head⟩ := last.timed
  let goal (times' : List Instant) (e : Engine) : Prop :=
    e.Timely n settings.retryPolicy.delay [] times'
      ∧ times' = if t.later settings.retryPolicy.delay ≤ now then now :: times else times
  have reaches : finishing.Reaches n goal := by
    constructor
    · exact fun may => may.elim
    · exact fun h => h.1.counted
    · exact fun h quiet => ⟨h.1.quiet quiet, h.2⟩
  have ticks : (Operation.tick now).routine.Ensures (.timed n (Operation.tick now).time)
      (fun _ => goal) times s.engine := by
    apply (Lifecycle.ensures_tick_timely now (h.rests rests)).mono
    rintro _ times' e' ⟨timely, attempts⟩
    exact ⟨timely, attempts x r t applying own lasts head⟩
  have ended {s' : Session} {times' : List Instant} (h' : s'.Timed n goal times')
      (none : s'.waiting = []) : s'.engine.view.attempts n
        = s.engine.view.attempts n + if t.later settings.retryPolicy.delay ≤ now then 1 else 0 := by
    rw [← h'.counted, ← h.counted, (h'.rests none).2]
    split <;> rfl
  obtain ⟨times₁, h₁, -⟩ := Session.Timed.proceed reaches s.finished ticks
  rw [← rests] at h₁
  obtain ⟨times₂, h₂, -⟩ := Session.Timed.run reaches h₁ run
  obtain ⟨s'', rest, none⟩ := h₂.exists_finished
  obtain ⟨times₃, h₃, more⟩ := h₂.run reaches rest
  use ⟨s'', rest, none⟩
  constructor
  · rw [← ended h₃ none, ← h₂.counted, ← h₃.counted]
    exact more.length_le
  · exact ended h₂

end Conduct

end Instrumentation
