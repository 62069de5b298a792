import Instrumentation.Proofs.Attempts
import Instrumentation.Proofs.Ensures

/-!
# The times of attempts

The attempts for a registration are listed with their times, the last one first. While the
registration is applying, and no attempt for it is underway, its next attempt is due when the
backoff has passed since the last one.

An identity is busy while an attempt for it is underway, or has been taken up and is still to come.
Nothing is known then of when the next attempt is due.
-/

namespace Instrumentation

/-! ### Times -/

/-- The times of the attempts for a registration `n` once a call is made at `t`. -/
def Call.stamp (n : Nat) (t : Instant) : Call → List Instant → List Instant
  | resolve r, times => if r.serial = n then t :: times else times
  | _, times => times

/-- A call is listed if it is an attempt. -/
theorem View.attempts_add_asked (v : View) (n : Nat) (t : Instant) (call : Call)
    {times : List Instant} (counted : times.length = v.attempts n) :
  (call.stamp n t times).length = (v.add [call.asked]).attempts n
  := by
  cases call with
  | resolve r =>
    rw [Call.stamp]
    split
    next own =>
      subst own
      rw [attempts, trace_append (w := v.add [(Call.resolve r).asked]) rfl
        (by simp [Entry.serial?, Call.registration]), List.countP_append, List.length_cons, counted]
      rfl
    next other =>
      rw [counted, attempts, attempts, trace_eq (w := v.add [(Call.resolve r).asked]) rfl]
      rintro entry (_ | ⟨_, ⟨⟩⟩) own
      exact other (Option.some.inj own)
  | patch r | restore r | withdraw r =>
    rw [attempts_add (by simp [Entry.isAttempt])]
    exact counted

/-- What is of no concern is no attempt. -/
theorem Engine.Quiet.attempts {e e' : Engine} (quiet : e'.Quiet e) (n : Nat) :
  e'.view.attempts n = e.view.attempts n
  := by
  obtain ⟨entries, adds, aside⟩ := quiet.adds
  have none : ∀ entry ∈ entries, entry.isAttempt = false := by
    intro entry mem
    have apart := aside entry mem
    cases entry with
    | asked serial request =>
      cases request with
      | resolve => cases apart
      | patch | unpatch => rfl
    | answered | published | logged => rfl
  have same : e'.view.attempts n = (e.view.add entries).attempts n := by
    rw [View.attempts, View.attempts, View.trace, View.trace, view_history, adds]
    rfl
  rw [same, View.attempts_add none]

/-! ### Due times -/

/-- The registration `n` of the identity is applying. -/
def Registry.Applies (g : Registry) (x : InstrumentId) (n : Nat) : Prop :=
  ∃ r, g.applying.get? x = some r ∧ r.serial = n

/-- A registration is applying under one identity. -/
theorem Registry.Applies.id_eq {g : Registry} {x : InstrumentId} {n : Nat} {r : Registration}
    (h : g.Applies x n) (w : g.WellKept) (applying : g.applying.get? r.id = some r)
    (own : r.serial = n) :
  x = r.id
  := by
  obtain ⟨s, found, serial⟩ := h
  obtain rfl : s = r := w.eq_of_serial (w.get?_of_applying found) (w.get?_of_applying applying)
    (serial.trans own.symm)
  exact (w.applying_id found).symm

/-- The registration `n` was attempted at the given times, and its next attempt is due so many
nanoseconds after the last one, unless its identity is busy. -/
structure Engine.Timely (e : Engine) (n backoff : Nat) (busy : List InstrumentId)
    (times : List Instant) : Prop where
  /-- The engine is sound. -/
  sound : e.Sound
  /-- The backoff is the one of the policy. -/
  policy : e.retries.policy.delay = backoff
  /-- Each attempt has its time. -/
  counted : times.length = e.view.attempts n
  /-- The next attempt is due after the last one. -/
  due {x : InstrumentId} (applies : e.registry.Applies x n) (rests : x ∉ busy) :
    ∃ t p, times.head? = some t ∧ e.retries.pending.get? x = some p
      ∧ p.dueAt = some (t.later backoff)

namespace Engine.Timely

variable {e e' : Engine} {n backoff : Nat} {busy : List InstrumentId} {times : List Instant}
  {x : InstrumentId} {r : Registration}

/-- An engine without instruments. -/
protected theorem new (settings : Settings) (clock : Instant) (n : Nat) :
  (Engine.new settings clock).Timely n settings.retryPolicy.delay [] []
  := by
  constructor
  · apply Sound.new
  · rfl
  · rfl
  · rintro x ⟨r, found, -⟩
    cases found

/-- Nothing is known of one identity more. -/
theorem busier (h : e.Timely n backoff busy times) (x : InstrumentId) :
  e.Timely n backoff (x :: busy) times
  := by
  refine ⟨h.sound, h.policy, h.counted, ?_⟩
  intro y applies rests
  apply h.due applies
  intro mem
  exact rests (.tail x mem)

/-- Nothing but attempts has to do with the registration. -/
theorem keep (h : e.Timely n backoff busy times) (registry : e'.registry = e.registry)
    (retries : e'.retries = e.retries) (attempts : e'.view.attempts n = e.view.attempts n) :
  e'.Timely n backoff busy times
  := by
  constructor
  · exact (h.sound.keep registry).sound
  · rw [retries]
    exact h.policy
  · rw [attempts]
    exact h.counted
  · intro x applies
    rw [registry] at applies
    rw [retries]
    apply h.due applies

/-- Nothing of concern happens. -/
theorem quiet (h : e.Timely n backoff busy times) (quiet : e'.Quiet e) :
  e'.Timely n backoff busy times
  := h.keep quiet.registry quiet.retries (quiet.attempts n)

/-- An event is published. -/
theorem publish (h : e.Timely n backoff busy times) (serial : Option Nat) (event : Event) :
  (e.publish serial event).Timely n backoff busy times
  := by
  have same : (e.publish serial event).Alike e := .publish e serial event
  apply h.keep same.registry same.retries
  rw [view_publish, View.attempts_add (by simp [Entry.isAttempt])]

/-- A call is made, which is no attempt for an identity that is not busy. -/
theorem ask (h : e.Timely n backoff busy times) (t : Instant) (call : Call)
    (taken : ∀ r, call = .resolve r → r.id ∈ busy ∧ e.registry.applying.get? r.id = some r) :
  (e.note call.asked).Timely n backoff busy (call.stamp n t times)
  := by
  constructor
  · exact (h.sound.alike (.note e _)).sound
  · exact h.policy
  · rw [view_note_asked]
    apply View.attempts_add_asked _ _ _ _ h.counted
  · intro x applies rests
    cases call with
    | resolve r =>
      obtain ⟨mem, applying⟩ := taken r rfl
      have other : r.serial ≠ n := by
        intro own
        rw [Registry.Applies.id_eq applies h.sound.wellKept applying own] at rests
        exact rests mem
      rw [Call.stamp, if_neg other]
      apply h.due applies rests
    | patch r | restore r | withdraw r => apply h.due applies rests

/-- An entry is changed. -/
theorem touch (h : e.Timely n backoff busy times) (x : InstrumentId)
    {f : Registration → Registration} (alike : ∀ r, (f r).Alike r) :
  ({ e with registry := e.registry.modify x f } : Engine).Timely n backoff busy times
  := by
  have w := h.sound.wellKept
  refine ⟨(h.sound.modify x alike).sound, h.policy, h.counted, ?_⟩
  rintro y ⟨s, found, serial⟩ rests
  apply h.due _ rests
  dsimp only at found
  rw [w.applying_modify] at found
  split at found
  next own =>
    subst own
    obtain ⟨r, applying, rfl⟩ := Option.map_eq_some_iff.mp found
    exact ⟨r, applying, (alike r).serial.symm.trans serial⟩
  next other => exact ⟨s, found, serial⟩

/-- A busy identity has stopped applying, or is that of another registration. -/
theorem settle (h : e.Timely n backoff (x :: busy) times) {g : Registry}
    (sound : ({ e with registry := g } : Engine).Sound)
    (applies : ∀ {y}, g.Applies y n → y ≠ x ∧ e.registry.Applies y n) :
  ({ e with registry := g } : Engine).Timely n backoff busy times
  := by
  refine ⟨sound, h.policy, h.counted, ?_⟩
  intro y still rests
  obtain ⟨other, before⟩ := applies still
  apply h.due before
  intro mem
  rcases List.mem_cons.mp mem with own | mem
  · exact other own
  · exact rests mem

/-- A busy identity is skipped under which the registration is not applying. -/
theorem skip (h : e.Timely n backoff (x :: busy) times) (gone : ¬e.registry.Applies x n) :
  e.Timely n backoff busy times
  := by
  apply h.settle h.sound
  intro y applies
  exact ⟨fun own => gone (own ▸ applies), applies⟩

/-- A busy identity is detached. -/
theorem detach (h : e.Timely n backoff (x :: busy) times) :
  ({ e with registry := (e.registry.detach x).2 } : Engine).Timely n backoff busy times
  := by
  apply h.settle (h.sound.detach x).sound
  rintro y ⟨s, found, serial⟩
  rw [h.sound.wellKept.applying_detach] at found
  split at found
  next => cases found
  next other => exact ⟨other, s, found, serial⟩

/-- A busy identity is promoted. -/
theorem promote (h : e.Timely n backoff (x :: busy) times) :
  ({ e with registry := (e.registry.promote x).2 } : Engine).Timely n backoff busy times
  := by
  apply h.settle (h.sound.promote x).sound
  rintro y ⟨s, found, serial⟩
  rw [h.sound.wellKept.applying_promoted] at found
  split at found
  next => cases found
  next other => exact ⟨other, s, found, serial⟩

/-- The deferred install of a busy identity is dropped. -/
theorem cancel (h : e.Timely n backoff (x :: busy) times) :
  ({ e with retries := e.retries.cancel x } : Engine).Timely n backoff (x :: busy) times
  := by
  refine ⟨(h.sound.retry _).sound, h.policy, h.counted, ?_⟩
  intro y applies rests
  dsimp only
  rw [RetryQueue.get?_cancel_of_ne (List.ne_of_not_mem_cons rests)]
  apply h.due applies rests

/-- An attempt at `t` is deferred, and is the last one of its registration. -/
theorem defer {t dueAt : Instant} {attempts : UInt32}
    (h : e.Timely n backoff (x :: busy) times)
    (last : e.registry.Applies x n → times.head? = some t)
    (scheduled : (e.retries.schedule x t).1 = .scheduled dueAt attempts) :
  ({ e with retries := (e.retries.schedule x t).2 } : Engine).Timely n backoff busy times
  := by
  obtain ⟨-, -, queue⟩ := RetryQueue.schedule_scheduled scheduled
  constructor
  · exact (h.sound.retry _).sound
  · dsimp only
    rw [queue]
    exact h.policy
  · exact h.counted
  · intro y applies rests
    by_cases own : y = x
    · subst own
      refine ⟨t, ⟨some (t.later backoff), attempts⟩, last applies, ?_, rfl⟩
      dsimp only
      rw [queue, Dict.get?_insert, if_pos rfl, h.policy]
    · dsimp only
      rw [RetryQueue.get?_schedule_of_ne own]
      apply h.due applies
      intro mem
      rcases List.mem_cons.mp mem with same | mem
      · exact own same
      · exact rests mem

/-- What is due is taken up. -/
theorem takeDue (h : e.Timely n backoff [] times) (now : Instant) :
  ({ e with retries := (e.retries.takeDue now).2 } : Engine).Timely n backoff (e.retries.due now)
    times
  := by
  constructor
  · exact (h.sound.retry _).sound
  · exact h.policy
  · exact h.counted
  · intro x applies rests
    obtain ⟨t, p, last, found, dueAt⟩ := h.due applies List.not_mem_nil
    have later : RetryQueue.PendingRetry.isDue p now = false := by
      apply eq_false_of_ne_true
      intro isDue
      exact rests (RetryQueue.mem_due_iff.mpr ⟨p, found, isDue⟩)
    refine ⟨t, p, last, ?_, dueAt⟩
    dsimp only
    rw [RetryQueue.get?_takeDue, found, Option.map_some, later]
    rfl

/-- What is applying is due when the backoff has passed since its last attempt. -/
theorem mem_due_iff {t : Instant} (h : e.Timely n backoff [] times)
    (applies : e.registry.Applies x n) (last : times.head? = some t) (now : Instant) :
  x ∈ e.retries.due now ↔ t.later backoff ≤ now
  := by
  obtain ⟨t', p, last', found, dueAt⟩ := h.due applies List.not_mem_nil
  obtain rfl := Option.some.inj (last.symm.trans last')
  have isDue : RetryQueue.PendingRetry.isDue p now = true ↔ t.later backoff ≤ now := by
    rw [RetryQueue.PendingRetry.isDue, dueAt]
    apply decide_eq_true_iff
  rw [RetryQueue.mem_due_iff, ← isDue]
  constructor
  · rintro ⟨q, found', passed⟩
    obtain rfl := Option.some.inj (found.symm.trans found')
    exact passed
  · intro passed
    exact ⟨p, found, passed⟩

/-- An instrument is registered, and its identity is busy. -/
theorem register (h : e.Timely n backoff busy times) {c : Candidate} {g : Registry}
    (fresh : e.registry.reserve c = (.fresh r, g)) :
  ({ e with registry := g } : Engine).Timely n backoff (r.id :: busy) times
  := by
  refine ⟨(h.sound.reserve fresh).sound, h.policy, h.counted, ?_⟩
  rintro y ⟨s, found, serial⟩ rests
  have other : y ≠ r.id := List.ne_of_not_mem_cons rests
  have free : y ∉ busy := List.not_mem_of_not_mem_cons rests
  dsimp only at found
  rw [Registry.applying_reserve fresh, if_neg other] at found
  exact h.due ⟨s, found, serial⟩ free

end Engine.Timely

end Instrumentation
