import Instrumentation.Proofs.Ensures.Operations
import Instrumentation.Proofs.Timely

/-!
# The times at which operations make attempts

An install attempts its instrument at the time of the clock, and a tick attempts what is due at the
time of the tick. Every operation that attempts nothing else keeps the next attempts due.

A tick takes out exactly what has expired. Of what is applying and has not expired it attempts what
is due, and everything once.
-/

namespace Instrumentation

/-- While a call waits, nothing of concern happens. The attempts for the registration `n` are listed
with the time that the operation goes by. -/
def Handling.timed (n : Nat) (time : Engine → Instant) : Handling (List Instant) where
  before call after times e := (call.stamp n (time e) times).length = e.view.attempts n
    ∧ ∀ answer e', e'.Quiet e → after answer (call.stamp n (time e) times) e'
  mono h weaker := ⟨h.1, fun answer e' quiet => weaker _ _ _ (h.2 answer e' quiet)⟩

/-- The time at which an operation makes attempts. -/
def Operation.time : Operation → Engine → Instant
  | retryDue now, _ => now
  | tick now, _ => now
  | _, e => e.clock

variable {n backoff : Nat} {time : Engine → Instant} {busy : List InstrumentId}
  {times : List Instant} {e : Engine} {r : Registration} {now : Instant}

/-- What is known of the times and of the registry withstands what is of no concern. -/
theorem Engine.Timely.calm (n backoff : Nat) (busy : List InstrumentId) (time : Engine → Instant)
    (known : List Instant → Registry → Prop) :
  Calm (.timed n time)
    fun times e => e.Timely n backoff busy times ∧ known times e.registry
  where
  quiet := by
    rintro times e e' ⟨h, known⟩ quiet
    use h.quiet quiet
    rw [quiet.registry]
    exact known
  withdraw := by
    rintro times e ⟨h, known⟩ r after goesOn
    use h.counted
    intro answer e' quiet
    apply goesOn
    use h.quiet quiet
    rw [quiet.registry]
    exact known

/-- The attempt for a registration is over at the given times. Other instruments are applying as
they were, and nobody else is under its identity. -/
structure Registry.Tried (g : Registry) (r : Registration) (n backoff : Nat)
    (busy : List InstrumentId) (times times' : List Instant) (e : Engine) : Prop where
  /-- No other attempt was made. -/
  times_eq : times' = times
  /-- The next attempt is due. -/
  timely : e.Timely n backoff busy times'
  /-- The others are applying as they were. -/
  others {x : InstrumentId} (other : x ≠ r.id) :
    e.registry.applying.get? x = g.applying.get? x
  /-- Nobody else is applying under the identity. -/
  own {s : Registration} (found : e.registry.applying.get? r.id = some s) : s = r

namespace Registry.Tried

variable {g : Registry} {times' : List Instant} {e' : Engine}

/-- The attempt has ended before. -/
theorem keep (h : g.Tried r n backoff busy times times' e) (timely : e'.Timely n backoff busy times')
    (same : e'.registry = e.registry) :
  g.Tried r n backoff busy times times' e'
  := by
  refine ⟨h.times_eq, timely, ?_, ?_⟩
  · intro x other
    rw [same]
    apply h.others other
  · intro s found
    rw [same] at found
    apply h.own found

/-- Nothing of concern happens. -/
theorem quiet (h : g.Tried r n backoff busy times times' e) (quiet : e'.Quiet e) :
  g.Tried r n backoff busy times times' e'
  := h.keep (h.timely.quiet quiet) quiet.registry

/-- The registration has stopped applying. -/
theorem of_left (timely : e.Timely n backoff busy times)
    (left : ∀ x, e.registry.applying.get? x = if x = r.id then none else g.applying.get? x) :
  g.Tried r n backoff busy times times e
  := by
  refine ⟨rfl, timely, ?_, ?_⟩
  · intro x other
    rw [left, if_neg other]
  · intro s found
    rw [left, if_pos rfl] at found
    cases found

/-- What is applying and has not expired before has not expired. -/
theorem waits (h : g.Tried r n backoff busy times times' e)
    (applying : g.applying.get? r.id = some r)
    (before : ∀ x s, g.applying.get? x = some s → s.serial = n
      → s.instrument.isExpiredAt now = false) :
  ∀ x s, e.registry.applying.get? x = some s → s.serial = n → s.instrument.isExpiredAt now = false
  := by
  intro x s found
  by_cases own : x = r.id
  · subst own
    obtain rfl := h.own found
    exact before _ _ applying
  · rw [h.others own] at found
    exact before x s found

end Registry.Tried

/-- The registration `n` is attempted at `now`, and once only, if it is applying under one of the
identities. -/
structure Registry.Attempts (g : Registry) (n : Nat) (ids : List InstrumentId) (now : Instant)
    (times times' : List Instant) : Prop where
  /-- It is attempted under its identity. -/
  once {x : InstrumentId} (mem : x ∈ ids) (applies : g.Applies x n) : times' = now :: times
  /-- Otherwise it is not attempted. -/
  never (gone : ∀ x ∈ ids, ¬g.Applies x n) : times' = times

namespace Registry.Attempts

variable {g : Registry} {ids : List InstrumentId} {times' : List Instant} {x : InstrumentId}

/-- It is not applying under the first identity. -/
theorem skip (h : g.Attempts n ids now times times') (gone : ¬g.Applies x n) :
  g.Attempts n (x :: ids) now times times'
  := by
  constructor
  · intro y mem applies
    rcases List.mem_cons.mp mem with rfl | mem
    · exact absurd applies gone
    · exact h.once mem applies
  · intro none
    apply h.never
    intro y mem
    exact none y (.tail x mem)

/-- It is applying under the first identity. -/
theorem take (applies : g.Applies x n) :
  g.Attempts n (x :: ids) now times (now :: times)
  := by
  constructor
  · intro _ _ _
    rfl
  · intro none
    exact absurd applies (none x List.mem_cons_self)

/-- An attempt is over under the first identity. -/
theorem cons {e : Engine} {times₂ : List Instant}
    (tried : g.Tried r n backoff busy ((Call.resolve r).stamp n now times) times₂ e)
    (w : g.WellKept) (applying : g.applying.get? r.id = some r) (apart : r.id ∉ ids)
    (h : e.registry.Attempts n ids now times₂ times') :
  g.Attempts n (r.id :: ids) now times times'
  := by
  have others {x : InstrumentId} (mem : x ∈ ids) : e.registry.Applies x n ↔ g.Applies x n := by
    have other : x ≠ r.id := by
      rintro rfl
      exact apart mem
    rw [Applies, Applies, tried.others other]
  rw [tried.times_eq, Call.stamp] at h
  by_cases own : r.serial = n
  · rw [if_pos own] at h
    have once : times' = now :: times := by
      apply h.never
      intro x mem again
      rw [others mem] at again
      rw [again.id_eq w applying own] at mem
      exact apart mem
    rw [once]
    exact .take ⟨r, applying, own⟩
  · rw [if_neg own] at h
    apply Attempts.skip
    · constructor
      · intro x mem applies
        exact h.once mem ((others mem).mpr applies)
      · intro none
        apply h.never
        intro x mem
        rw [others mem]
        exact none x mem
    · rintro ⟨s, found, serial⟩
      obtain rfl := Option.some.inj (found.symm.trans applying)
      exact own serial

end Registry.Attempts

namespace Routine

/-- A call that is no attempt for an identity that is not busy. -/
theorem ensures_ask_timely {call : Call}
    {goal : call.request.Answer → List Instant → Engine → Prop}
    (h : e.Timely n backoff busy times)
    (taken : ∀ r, call = .resolve r → r.id ∈ busy ∧ e.registry.applying.get? r.id = some r)
    (goesOn : ∀ answer e', e'.registry = e.registry
      → e'.Timely n backoff busy (call.stamp n (time (e.note call.asked)) times)
      → goal answer (call.stamp n (time (e.note call.asked)) times) e') :
  (request call).Ensures (.timed n time) goal times e
  := by
  have asked := h.ask (time (e.note call.asked)) call taken
  apply ensures_request
  use asked.counted
  intro answer e₁ quiet e₂ quiet₂
  have quiet' := quiet₂.trans quiet
  apply goesOn answer e₂ quiet'.registry (asked.quiet quiet')

end Routine

namespace Lifecycle

open Routine

/-! ### Attempts -/

/-- An install that fails. -/
theorem ensures_failInstall_timely {T : Handling (List Instant)}
    (h : e.Timely n backoff (r.id :: busy) times) (err : InstrumentError) :
  (failInstall r err).Ensures T (fun _ => e.registry.Tried r n backoff busy times) times e
  := by
  simp only [failInstall, ensures_bind]
  apply ensures_modify
  apply ensures_log
  intro e₁ quiet
  have detached := (h.cancel.quiet quiet).detach
  have failed : e.registry.Tried r n backoff busy times times
      { e₁ with registry := (e₁.registry.detach r.id).2 } := by
    apply Registry.Tried.of_left detached
    intro x
    dsimp only
    rw [quiet.registry, h.sound.wellKept.applying_detach]
  apply ensures_detach
  cases (e₁.registry.detach r.id).1 with
  | none => exact failed
  | some s =>
    simp only [ensures_bind]
    apply ensures_modify
    refine ensures_publish trivial ?_
    intro e₂ quiet₂
    exact failed.quiet (quiet₂.trans (.frames _ _))

/-- An attempt whose unit is not loaded. -/
theorem ensures_deferInstall_timely {T : Handling (List Instant)}
    (h : e.Timely n backoff (r.id :: busy) times)
    (applying : e.registry.applying.get? r.id = some r)
    (last : r.serial = n → times.head? = some now) :
  (deferInstall r now).Ensures T (fun _ => e.registry.Tried r n backoff busy times) times e
  := by
  rw [deferInstall]
  dsimp only
  split
  · rw [ensures_bind]
    apply ensures_failInstall_timely h
  · rw [ensures_bind]
    apply ensures_update
    cases decision : (e.retries.schedule r.id now).1 with
    | scheduled dueAt attempts =>
      dsimp only
      simp only [ensures_bind]
      have timely := h.defer (t := now) (by
        rintro ⟨s, found, own⟩
        obtain rfl := Option.some.inj (applying.symm.trans found)
        exact last own) decision
      have deferred : e.registry.Tried r n backoff busy times times
          { e with retries := (e.retries.schedule r.id now).2 } := by
        refine ⟨rfl, timely, fun _ => rfl, ?_⟩
        intro s found
        exact Option.some.inj (found.symm.trans applying)
      apply ensures_log
      intro e₁ quiet
      exact deferred.quiet quiet
    | exhausted attempts =>
      rw [RetryQueue.schedule_exhausted decision]
      dsimp only
      rw [ensures_bind]
      apply ensures_failInstall_timely h.cancel

/-- An attempt whose patch is in place. -/
theorem ensures_confirmInstall_timely (h : e.Timely n backoff (r.id :: busy) times) :
  (confirmInstall r).Ensures (.timed n time) (fun _ => e.registry.Tried r n backoff busy times)
    times e
  := by
  simp only [confirmInstall, ensures_bind]
  apply ensures_modify
  apply ensures_update
  have left : e.registry.Tried r n backoff busy times times
      { e with registry := (e.registry.promote r.id).2, retries := e.retries.cancel r.id } :=
    .of_left h.cancel.promote (h.sound.wellKept.applying_promoted r.id)
  cases (e.registry.promote r.id).1 with
  | some s =>
    dsimp only
    simp only [ensures_bind]
    apply ensures_log
    intro e₁ quiet
    apply ensures_modify
    have logged := left.quiet quiet
    exact logged.keep (logged.timely.publish _ _) (Engine.Alike.publish _ _ _).registry
  | none =>
    dsimp only
    simp only [ensures_bind]
    apply ensures_log
    intro e₁ quiet
    have logged := left.quiet quiet
    apply ensures_ask_timely logged.timely (by rintro s ⟨⟩)
    intro answer e₂ same timely
    have reverted := logged.keep timely same
    cases answer with
    | ok => exact reverted
    | error err =>
      apply ensures_log
      intro e₃ quiet₃
      exact reverted.quiet quiet₃

/-- An attempt. -/
theorem ensures_apply_timely (h : e.Timely n backoff (r.id :: busy) times)
    (applying : e.registry.applying.get? r.id = some r)
    (reads : time (e.note (Call.resolve r).asked) = now) :
  (apply r now).Ensures (.timed n time)
    (fun _ => e.registry.Tried r n backoff busy ((Call.resolve r).stamp n now times)) times e
  := by
  simp only [apply, ensures_bind]
  apply ensures_ask_timely h
  · rintro s ⟨⟩
    exact ⟨List.mem_cons_self, applying⟩
  · intro loaded e₁ same timely
    rw [reads] at timely ⊢
    rw [← same] at applying ⊢
    cases loaded with
    | false =>
      apply ensures_deferInstall_timely timely applying
      intro own
      rw [Call.stamp, if_pos own, List.head?_cons]
    | true =>
      rw [if_pos rfl, ensures_bind]
      apply ensures_ask_timely timely (by rintro s ⟨⟩)
      intro answer e₂ same₂ timely₂
      rw [← same₂]
      cases answer with
      | ok =>
        dsimp only
        rw [ensures_bind]
        apply ensures_confirmInstall_timely timely₂
      | error source =>
        dsimp only
        simp only [ensures_bind]
        apply (ensures_failInstall_timely timely₂ _).mono
        intro err times₃ e₃ failed
        apply ensures_ask_timely failed.timely (by rintro s ⟨⟩)
        intro answer e₄ same₄ timely₄
        have restored := failed.keep timely₄ same₄
        cases answer with
        | ok => exact restored
        | error secondary =>
          dsimp only
          simp only [ensures_bind]
          apply ensures_log
          intro e₅ quiet
          exact restored.quiet quiet

/-- An install. -/
theorem ensures_install_timely (i : Instrument) (h : e.Timely n backoff [] times) :
  (install i).Ensures (.timed n Engine.clock)
    (fun _ times' e' => e'.Timely n backoff [] times') times e
  := by
  rw [install, ensures_bind]
  apply ensures_gets
  cases registered : e.registry.get? i.id with
  | some r =>
    dsimp only
    rw [ensures_bind]
    apply ensures_log
    intro e₁ quiet
    exact h.quiet quiet
  | none =>
    cases valid : Candidate.ofInstrument i with
    | error err =>
      dsimp only
      simp only [ensures_bind]
      apply ensures_log
      intro e₁ quiet
      refine ensures_publish trivial ?_
      intro e₂ quiet₂
      exact h.quiet (quiet₂.trans quiet)
    | ok candidate =>
      obtain rfl := Candidate.instrument_of valid
      dsimp only
      simp only [ensures_bind]
      apply ensures_update
      obtain ⟨g, fresh⟩ : ∃ g, e.registry.reserve candidate
          = (.fresh (.ofCandidate e.registry.nextSerial candidate), g) := by
        rw [Registry.reserve, registered]
        exact ⟨_, rfl⟩
      rw [fresh]
      dsimp only
      rw [ensures_bind]
      apply ensures_gets
      rw [ensures_bind]
      have applying : g.applying.get? candidate.instrument.id
          = some (.ofCandidate e.registry.nextSerial candidate) := by
        rw [Registry.applying_reserve fresh]
        apply if_pos rfl
      apply (ensures_apply_timely (h.register fresh) applying rfl).mono
      intro a times₁ e₁ tried
      cases a with
      | ok => exact tried.timely
      | error err => exact tried.timely

/-! ### Ticks -/

/-- The removal of identities one after another takes out what is listed, and nothing else. -/
theorem ensures_removeEach_timely (ids : List InstrumentId) (h : e.Timely n backoff [] times) :
  (removeEach ids).Ensures (.timed n time) (fun _ times' e' => e'.Timely n backoff [] times'
    ∧ times' = times ∧ ∀ x, e'.registry.applying.get? x
      = if x ∈ ids then none else e.registry.applying.get? x) times e
  := by
  induction ids generalizing e with
  | nil => exact ⟨h, rfl, fun x => by rw [if_neg List.not_mem_nil]⟩
  | cons y ids ih =>
    have w := h.sound.wellKept
    simp only [removeEach, ensures_bind]
    have calm := Engine.Timely.calm n backoff [] time fun times' g => times' = times
      ∧ ∀ x, g.applying.get? x = if x = y then none else e.registry.applying.get? x
    apply (ensures_detachEntry calm y none true _ _).mono
    · rintro removed times₁ e₁ ⟨h₁, rfl, left⟩
      apply (ih h₁).mono
      rintro others times₂ e₂ ⟨h₂, rfl, left₂⟩
      use h₂, rfl
      intro x
      rw [left₂, left]
      simp only [List.mem_cons]
      by_cases own : x = y
      · simp [own]
      · simp [own]
    · intro free
      use h, rfl
      exact Registry.applying_of_free (Registry.get?_eq_none_iff.mp free).2
    · use (h.busier y).cancel.detach, rfl
      exact w.applying_detach y

/-- A sweep takes out what is applying and has expired, and leaves the rest of what is applying. -/
theorem ensures_sweep_timely (now : Instant) (h : e.Timely n backoff [] times) :
  (sweep now).Ensures (.timed n time) (fun _ times' e' => e'.Timely n backoff [] times'
    ∧ times' = times ∧ ∀ {x r}, e'.registry.applying.get? x = some r
      ↔ e.registry.applying.get? x = some r ∧ r.instrument.isExpiredAt now = false) times e
  := by
  apply ensures_expired
  intro e₁ quiet
  apply (ensures_removeEach_timely _ (h.quiet quiet)).mono
  rintro removed times₂ e₂ ⟨h₂, rfl, left⟩
  use h₂, rfl
  intro x r
  rw [left, quiet.registry]
  cases applying : e.registry.applying.get? x with
  | none => simp
  | some s =>
    have listed := h.sound.wellKept.mem_expired_iff
      (h.sound.wellKept.get?_of_applying applying) now
    by_cases passed : s.instrument.isExpiredAt now = true
    · rw [if_pos (listed.mpr passed)]
      constructor
      · nofun
      · rintro ⟨⟨⟩, waits⟩
        rw [passed] at waits
        cases waits
    · rw [if_neg (mt listed.mp passed)]
      constructor
      · rintro ⟨⟩
        exact ⟨rfl, eq_false_of_ne_true passed⟩
      · rintro ⟨found, -⟩
        exact found

/-- Attempts that were taken up. None of the identities has expired under which the registration is
applying. -/
theorem ensures_retryEach_timely (ids : List InstrumentId) (distinct : ids.Nodup)
    (h : e.Timely n backoff ids times)
    (waits : ∀ x s, e.registry.applying.get? x = some s → s.serial = n
      → s.instrument.isExpiredAt now = false) :
  (retryEach now ids).Ensures (.timed n fun _ => now) (fun _ times' e' =>
    e'.Timely n backoff [] times' ∧ e.registry.Attempts n ids now times times') times e
  := by
  induction ids generalizing e times with
  | nil => exact ⟨h, nofun, fun _ => rfl⟩
  | cons y ids ih =>
    obtain ⟨apart, nodup⟩ := List.nodup_cons.mp distinct
    have w := h.sound.wellKept
    rw [retryEach, ensures_bind]
    apply ensures_gets
    cases applying : e.registry.getApplying? y with
    | none =>
      have gone : ¬e.registry.Applies y n := by
        rintro ⟨s, found, -⟩
        rw [Registry.getApplying?, found] at applying
        cases applying
      dsimp only
      rw [ensures_bind]
      apply ensures_modify
      apply (ih nodup (h.cancel.skip gone) waits).mono
      rintro _ times' e' ⟨h', attempts⟩
      exact ⟨h', attempts.skip gone⟩
    | some r =>
      obtain rfl : r.id = y := w.applying_id applying
      dsimp only
      split
      next passed =>
        have gone : ¬e.registry.Applies r.id n := by
          rintro ⟨s, found, own⟩
          obtain rfl := Option.some.inj (found.symm.trans applying)
          rw [waits _ _ applying own] at passed
          cases passed
        apply (ih nodup (h.skip gone) waits).mono
        rintro _ times' e' ⟨h', attempts⟩
        exact ⟨h', attempts.skip gone⟩
      next =>
        simp only [ensures_bind]
        apply ensures_log
        intro e₁ quiet
        rw [← quiet.registry] at w applying waits ⊢
        apply (ensures_apply_timely (h.quiet quiet) applying rfl).mono
        rintro a times₂ e₂ tried
        have rest {e₃ : Engine} (quiet₃ : e₃.Quiet e₂) :
            (retryEach now ids).Ensures (.timed n fun _ => now) (fun _ times' e' =>
              e'.Timely n backoff [] times'
                ∧ e₁.registry.Attempts n (r.id :: ids) now times times') times₂ e₃ := by
          have tried₃ := tried.quiet quiet₃
          apply (ih nodup tried₃.timely (tried₃.waits applying waits)).mono
          rintro _ times' e' ⟨h', attempts⟩
          exact ⟨h', .cons tried₃ w applying apart attempts⟩
        cases a with
        | ok =>
          dsimp only
          rw [ensures_bind]
          exact rest (.refl e₂)
        | error err =>
          dsimp only
          simp only [ensures_bind]
          apply ensures_log
          intro e₃ quiet₃
          exact rest quiet₃

/-- A tick attempts what is due and has not expired, and once only. -/
theorem ensures_tick_timely (now : Instant) (h : e.Timely n backoff [] times) :
  (tick now).Ensures (.timed n fun _ => now) (fun _ times' e' => e'.Timely n backoff [] times'
    ∧ ∀ x r t, e.registry.applying.get? x = some r → r.serial = n
      → r.instrument.isExpiredAt now = false → times.head? = some t
      → times' = if t.later backoff ≤ now then now :: times else times) times e
  := by
  simp only [tick, retryDue, ensures_bind]
  apply (ensures_sweep_timely now h).mono
  rintro removed _ e₁ ⟨h₁, rfl, left⟩
  apply ensures_update
  have waits : ∀ x s, e₁.registry.applying.get? x = some s → s.serial = n
      → s.instrument.isExpiredAt now = false := by
    intro x s found _
    exact (left.mp found).2
  have distinct := e₁.retries.nodup_due now
  apply (ensures_retryEach_timely _ distinct (h₁.takeDue now) waits).mono
  rintro retried times' e' ⟨h', attempts⟩
  use h'
  intro x r t found own lasts last
  have applying := left.mpr ⟨found, lasts⟩
  have applies : e₁.registry.Applies x n := ⟨r, applying, own⟩
  have listed := h₁.mem_due_iff applies last now
  split
  next due => exact attempts.once (listed.mpr due) applies
  next early =>
    apply attempts.never
    intro y mem again
    have w := h₁.sound.wellKept
    obtain rfl : r.id = x := w.applying_id applying
    rw [again.id_eq w applying own] at mem
    exact early (listed.mp mem)

end Lifecycle

/-! ### Operations -/

/-- The next attempt stays due during removals and hits. -/
theorem Engine.Timely.upkeep (n backoff : Nat) (time : Engine → Instant) :
  Upkeep (.timed n time) fun P times e => P ∧ e.Timely n backoff [] times
  where
  weaken h weaker := ⟨weaker h.1, h.2⟩
  quiet h quiet := ⟨h.1, h.2.quiet quiet⟩
  touch h x _ alike := ⟨h.1, h.2.touch x alike⟩
  leave h x := ⟨h.1, (h.2.busier x).cancel.detach⟩
  withdraw h _ _ goesOn :=
    ⟨h.2.counted, fun answer e' quiet => goesOn answer _ e' ⟨h.1, h.2.quiet quiet⟩⟩

/-- The next attempt stays due during every operation but one that attempts what is due without
taking out what has expired. -/
theorem Operation.ensures_timely (op : Operation) (keeps : op ≠ .clear)
    (sweeps : ∀ now, op ≠ .retryDue now) (h : e.Timely n backoff [] times) :
  op.routine.Ensures (.timed n op.time) (fun _ times' e' => e'.Timely n backoff [] times') times e
  := by
  have upkeep (time : Engine → Instant) := Engine.Timely.upkeep n backoff time
  have known : True ∧ e.Timely n backoff [] times := ⟨trivial, h⟩
  have installs (i : Instrument) {P : Prop} {times : List Instant} {e : Engine}
      (h : P ∧ e.Timely n backoff [] times) :
      (Lifecycle.install i).Ensures (.timed n Engine.clock)
        (fun _ times' e' => (P ∧ True) ∧ e'.Timely n backoff [] times') times e := by
    apply (Lifecycle.ensures_install_timely i h.2).mono
    intro _ _ _ h'
    exact ⟨⟨h.1, trivial⟩, h'⟩
  have timely {α : Type} {known : α → Prop} {T : Handling (List Instant)} {r : Routine α}
      (ends : r.Ensures T (fun a times' e' => known a ∧ e'.Timely n backoff [] times') times e) :
      r.Ensures T (fun _ times' e' => e'.Timely n backoff [] times') times e := by
    apply ends.mono
    intro _ _ _ h'
    exact h'.2
  cases op with
  | install i => exact Lifecycle.ensures_install_timely i h
  | removeById x cause =>
    exact timely (Lifecycle.ensures_removeEntry (upkeep _).toRemoving known x cause true)
  | remove query x => exact timely (Lifecycle.ensures_remove (upkeep _).toRemoving known query x)
  | hit x => exact timely (Lifecycle.ensures_hit (upkeep _) known x)
  | sweep now => exact timely (Lifecycle.ensures_sweep (upkeep _).toRemoving known now)
  | retryDue now => exact absurd rfl (sweeps now)
  | tick now =>
    apply (Lifecycle.ensures_tick_timely now h).mono
    intro _ _ _ h'
    exact h'.1
  | handle raw => exact timely (Control.ensures_handle (upkeep _).toRemoving installs known raw)
  | handleText text =>
    exact timely (Control.ensures_handleText (upkeep _).toRemoving installs known text)
  | clear => exact absurd rfl keeps

end Instrumentation
