import Instrumentation.Proofs.Alone
import Instrumentation.Proofs.Deferral
import Instrumentation.Proofs.Removal
import Instrumentation.Proofs.Separation.Operations

/-!
# Installs that fail

An install fails in one of four ways: the condition cannot be read, the unit is not loaded, no
attempt is left, or the patch is refused. Each way undoes what was done so far, so that what is
registered and what is deferred afterwards is what was before. The failure is seen only in an event
and in the calls, of which the last one takes back the patch that was refused.

What was deferred under the identity would be lost with the install. There is nothing of the kind
when one operation runs after another, for then nothing is pending but what is applying.
-/

namespace Instrumentation

/-! ### One operation after another -/

/-- One operation runs after another, whatever it is, and calls are answered in any way. -/
def Conduct.successive : Conduct where
  starts _ calls _ := calls = []
  answers _ _ _ := True

/-- At most one call waits, and the unit of an instrument is asked for only while the instrument is
applying. -/
structure Position.InTurn (p : Position) : Prop where
  /-- At most one call waits. -/
  single : p.calls.length ≤ 1
  /-- The instrument whose unit is asked for is applying. -/
  applying : ∀ r, .resolve r ∈ p.calls → ∃ s, p.view.registry.applying.get? r.id = some s

namespace Position.InTurn

/-- No call waits. -/
theorem idle (v : View) :
  Position.InTurn ⟨v, []⟩
  := by
  use Nat.zero_le 1
  intro r mem
  cases mem

/-- The unit of an applying instrument is asked for. -/
theorem resolving {v : View} {r s : Registration} (h : v.registry.applying.get? r.id = some s) :
  Position.InTurn ⟨v, [.resolve r]⟩
  := by
  use Nat.le_refl 1
  intro q mem
  obtain rfl : q = r := Call.resolve.inj (List.mem_singleton.mp mem)
  exact ⟨s, h⟩

/-- A call waits that does not ask for a unit. -/
theorem waiting {v : View} {call : Call} (h : ∀ r, call ≠ .resolve r) :
  Position.InTurn ⟨v, [call]⟩
  := by
  use Nat.le_refl 1
  intro r mem
  exact absurd (List.mem_singleton.mp mem).symm (h r)

/-- A call waits by itself. -/
theorem alone {v : View} {call : Call} {calls : List Call}
    (h : Position.InTurn ⟨v, call :: calls⟩) :
  calls = []
  := by
  have single : calls.length + 1 ≤ 1 := h.single
  apply List.length_eq_zero_iff.mp
  omega

end Position.InTurn

/-- Operations that run one after another keep their turns. -/
theorem Move.inTurn {p q : Position} (move : Move Conduct.successive p q)
    (w : p.view.registry.WellKept) (h : p.InTurn) :
  q.InTurn
  := by
  -- what opens an operation finds no call waiting, and what an answer leaves waiting is one call
  cases move with
  | touch v calls x f alike =>
    use h.single
    intro r mem
    obtain ⟨s, before⟩ := h.applying r mem
    change ∃ s', (v.registry.modify x f).applying.get? r.id = some s'
    rw [w.applying_modify]
    split
    next own =>
      rw [← own, before]
      exact ⟨_, rfl⟩
    next => exact ⟨s, before⟩
  | refuse => exact ⟨h.single, h.applying⟩
  | complain => exact ⟨h.single, h.applying⟩
  | takeDue => exact ⟨h.single, h.applying⟩
  | forget => exact ⟨h.single, h.applying⟩
  | register v calls i candidate r g opens valid fresh =>
    obtain ⟨_, _, rfl⟩ := opens
    apply Position.InTurn.resolving (s := r)
    change g.applying.get? r.id = some r
    rw [Registry.applying_reserve fresh, if_pos rfl]
  | attempt v calls x r opens applying =>
    obtain ⟨_, _, rfl⟩ := opens
    obtain rfl : r.id = x := w.applying_id applying
    exact .resolving applying
  | found =>
    obtain rfl := h.alone
    exact .waiting fun _ same => by cases same
  | defer =>
    obtain rfl := h.alone
    exact .idle _
  | fail =>
    obtain rfl := h.alone
    exact .idle _
  | reject =>
    obtain rfl := h.alone
    exact .waiting fun _ same => by cases same
  | confirm =>
    obtain rfl := h.alone
    exact .idle _
  | revert =>
    obtain rfl := h.alone
    exact .waiting fun _ same => by cases same
  | settle =>
    obtain rfl := h.alone
    exact .idle _
  | drop v calls x r cause t opens =>
    obtain ⟨_, _, rfl⟩ := opens
    exact .idle _
  | withdraw v calls x r opens =>
    obtain ⟨_, _, rfl⟩ := opens
    exact .waiting fun _ same => by cases same
  | part =>
    obtain rfl := h.alone
    exact .idle _
  | clear v calls may =>
    obtain rfl := may
    exact .idle _

/-- Where one operation runs after another each deferral finds its identity applying. -/
theorem Conduct.Run.heeding {settings : Settings} {clock : Instant} {s : Session}
    (run : Conduct.successive.Run (.idle (.new settings clock)) s) :
  Conduct.heeding.Run (.idle (.new settings clock)) s
  := by
  induction run with
  | refl => exact .refl
  | tail before step ih =>
    apply ih.tail
    cases step with
    | drift => exact .drift _ _ _ _
    | start _ op => exact .start _ op trivial
    | reply e p waiting finished answer =>
      apply Conduct.Step.reply
      have inTurn := Conduct.Run.coherent_invariant before
        (fun move coherent => move.inTurn coherent.wellKept) fun retries => .idle _
      obtain ⟨op, call, resume⟩ := p
      intro defers
      cases call with
      | resolve r => exact inTurn.applying r (.head _)
      | patch r => cases defers
      | restore r => cases defers
      | withdraw r => cases defers

/-! ### The undoing of an install -/

/-- When a fresh registration is detached, the stores are as before. -/
theorem Registry.detach_reserve {g g' : Registry} {r : Registration} {c : Candidate}
    (w : g.WellKept) (fresh : g.reserve c = (.fresh r, g')) :
  (g'.detach r.id).2.live = g.live ∧ (g'.detach r.id).2.applying = g.applying
  := by
  obtain ⟨notLive, notApplying⟩ := get?_eq_none_iff.mp (reserve_fresh fresh).1
  constructor
  · apply Dict.ext
    intro y
    rw [live_detach, live_reserve fresh]
    split
    next own => rw [own, notLive]
    next => rfl
  · apply Dict.ext
    intro y
    rw [(w.reserve fresh).applying_detach, applying_reserve fresh]
    split
    next own => rw [own, notApplying]
    next => rfl

/-! ### The ways to fail -/

/-- How an install fails, and the requests that it makes. A patch that is refused is taken back. -/
inductive Instrument.Fails (i : Instrument) : InstrumentError → List Request → Prop where
  /-- The condition cannot be read. -/
  | unread (source : ConditionError) : i.Fails (.conditionInvalid i.id source) []
  /-- The unit is not loaded. -/
  | unloaded : i.Fails (.targetNotFound i.id i.unitName) [.resolve i.unitName]
  /-- The unit is not loaded, and no attempt is left. -/
  | exhausted (attempts : UInt32) :
      i.Fails (.retriesExhausted i.id attempts) [.resolve i.unitName]
  /-- The patch is refused. -/
  | refused (source : TransformError) :
      i.Fails (.patchFailed i.id source)
        [.resolve i.unitName, .patch i.unitName i.patchSpec, .unpatch i.unitName i.patchSpec]

/-- An instrument whose condition cannot be read makes no requests. -/
theorem Instrument.fails_of_invalid {i : Instrument} {err : InstrumentError}
    (invalid : Candidate.ofInstrument i = .error err) :
  i.Fails err []
  := by
  rw [Candidate.ofInstrument] at invalid
  split at invalid
  · cases invalid
  · split at invalid
    · cases invalid
    · obtain rfl := Except.error.inj invalid
      exact .unread _

/-- The install of a registered instrument is given up between two series of calls. -/
structure Registration.GivesUp (r : Registration) (err : InstrumentError) (v v' : View)
    (t : Instant) (before after : List Entry) : Prop where
  /-- What is seen. -/
  view : v' = ((v.add before).abandon r err t).add after
  /-- Nothing is published but the failure. -/
  silent : (before ++ after).filterMap Entry.event? = []
  /-- The requests are those of the way in which the install fails. -/
  requests : r.instrument.Fails err ((before ++ after).filterMap Entry.request?)

/-- What is left when the install of an instrument has failed. -/
structure View.Restored (v' v : View) (i : Instrument) (err : InstrumentError) (t : Instant) :
    Prop where
  /-- The live instruments are the same. -/
  live : v'.registry.live = v.registry.live
  /-- The applying instruments are the same. -/
  applying : v'.registry.applying = v.registry.applying
  /-- The deferred installs are the same. -/
  retries : v'.retries = v.retries
  /-- One event is published, with the failure as the cause, and the requests are those of the way in
  which the install fails. -/
  history : ∃ entries, v'.history = v.history ++ entries
    ∧ entries.filterMap Entry.event? = [.removed i (some err.message) t]
    ∧ i.Fails err (entries.filterMap Entry.request?)

/-- What is left when a fresh registration is given up. -/
theorem Registration.GivesUp.restored {r : Registration} {err : InstrumentError} {v v' : View}
    {t : Instant} {before after : List Entry} {g : Registry} {c : Candidate}
    (h : r.GivesUp err { v with registry := g } v' t before after)
    (w : v.registry.WellKept) (free : v.retries.isPending r.id = false)
    (fresh : v.registry.reserve c = (.fresh r, g)) :
  v'.Restored v r.instrument err t
  := by
  obtain ⟨rfl, silent, requests⟩ := h
  obtain ⟨live, applying⟩ := Registry.detach_reserve w fresh
  rw [List.filterMap_append, List.append_eq_nil_iff] at silent
  rw [List.filterMap_append] at requests
  have registered : g.get? r.id = some r := by rw [Registry.get?_reserve fresh, if_pos rfl]
  have failure : (View.add { v with registry := g } before).failure r err t
      = [.published (some r.serial) (.removed r.instrument (some err.message) t)] :=
    View.failure_of_registered registered err t
  constructor
  · exact live
  · exact applying
  · exact RetryQueue.cancel_of_free free
  · use before ++ .published (some r.serial) (.removed r.instrument (some err.message) t) :: after
    constructor
    · rw [View.history_add, View.history_abandon, failure]
      simp
    · constructor
      · simp [List.filterMap_append, silent, Entry.event?]
      · rw [List.filterMap_append, List.filterMap_cons_none rfl]
        exact requests

namespace Lifecycle

open Routine

variable {answer : (request : Request) → request.Answer} {r : Registration} {v : View}
  {t now : Instant}

/-- An install that fails is given up. -/
theorem shows_failInstall {goal : InstrumentError → View → Prop} {err : InstrumentError}
    (h : goal err (v.abandon r err t)) :
  (failInstall r err).Shows answer goal v t
  := by
  rw [failInstall]
  apply Shows.bind
  refine shows_modify (fun v => { v with retries := v.retries.cancel r.id }) (fun _ => rfl)
    (fun _ => rfl) ?_
  apply Shows.bind
  apply shows_log
  apply Shows.bind
  refine shows_update (fun v =>
    ((v.registry.detach r.id).1, { v with registry := (v.registry.detach r.id).2 })) (fun _ => rfl)
    (fun _ => rfl) ?_
  dsimp only
  have detached := v.registry.detach_fst r.id
  rw [View.abandon] at h
  cases found : v.registry.get? r.id with
  | none =>
    rw [found] at detached
    rw [View.failure_of_free found, View.add_nil] at h
    rw [detached]
    exact shows_pure h
  | some s =>
    rw [found] at detached
    rw [View.failure_of_registered found] at h
    rw [detached]
    apply Shows.bind
    refine shows_modify (fun v => v) (fun _ => rfl) (fun _ => rfl) ?_
    apply Shows.bind
    apply shows_publish
    exact shows_pure h

/-- An install whose patch is in place does not fail. -/
theorem shows_confirmInstall {goal : Unit → View → Prop} (h : ∀ v', goal () v') :
  (confirmInstall r).Shows answer goal v t
  := by
  rw [confirmInstall]
  apply Shows.bind
  refine shows_modify (fun v => { v with retries := v.retries.cancel r.id }) (fun _ => rfl)
    (fun _ => rfl) ?_
  apply Shows.bind
  refine shows_update (fun v =>
    ((v.registry.promote r.id).1, { v with registry := (v.registry.promote r.id).2 })) (fun _ => rfl)
    (fun _ => rfl) ?_
  dsimp only
  cases (v.registry.promote r.id).1 with
  | some s =>
    apply Shows.bind
    apply shows_log
    apply shows_publish
    apply h
  | none =>
    apply Shows.bind
    apply shows_log
    apply Shows.bind
    apply shows_request
    cases answer (Call.restore r).request with
    | ok => exact shows_pure (h _)
    | error err =>
      apply shows_log
      apply h

/-- An attempt that finds the unit not loaded fails without further requests. -/
theorem shows_deferInstall {goal : Except InstrumentError Unit → View → Prop}
    (done : ∀ v', goal (.ok ()) v')
    (missing : goal (.error (.targetNotFound r.id r.instrument.unitName))
      (v.abandon r (.targetNotFound r.id r.instrument.unitName) t))
    (exhausted : ∀ attempts, goal (.error (.retriesExhausted r.id attempts))
      (v.abandon r (.retriesExhausted r.id attempts) t)) :
  (deferInstall r now).Shows answer goal v t
  := by
  rw [deferInstall]
  dsimp only
  split
  · apply Shows.bind
    apply shows_failInstall
    exact shows_pure missing
  · apply Shows.bind
    refine shows_update (fun v =>
      ((v.retries.schedule r.id now).1, { v with retries := (v.retries.schedule r.id now).2 }))
      (fun _ => rfl) (fun _ => rfl) ?_
    dsimp only
    cases scheduled : (v.retries.schedule r.id now).1 with
    | scheduled dueAt attempts =>
      apply Shows.bind
      apply shows_log
      exact shows_pure (done _)
    | exhausted attempts =>
      -- the queue has dropped the install already, and is asked to do so again
      have dropped : View.abandon { v with retries := (v.retries.schedule r.id now).2 } r
          (.retriesExhausted r.id attempts) t = v.abandon r (.retriesExhausted r.id attempts) t := by
        rw [RetryQueue.schedule_exhausted scheduled, View.abandon, View.detach,
          RetryQueue.cancel_cancel]
        rfl
      apply Shows.bind
      apply shows_failInstall
      rw [dropped]
      exact shows_pure (exhausted attempts)

/-- An attempt that fails is given up. -/
theorem shows_apply (r : Registration) (now : Instant) :
  (apply r now).Shows answer (fun result v' => ∀ err, result = .error err
    → ∃ before after, r.GivesUp err v v' t before after) v t
  := by
  rw [apply]
  apply Shows.bind
  apply shows_request
  cases answer (Call.resolve r).request with
  | false =>
    apply shows_deferInstall
    · intro v' err failed
      cases failed
    · rintro _ ⟨⟩
      exact ⟨_, [], (View.add_nil _).symm, rfl, .unloaded⟩
    · rintro attempts _ ⟨⟩
      exact ⟨_, [], (View.add_nil _).symm, rfl, .exhausted attempts⟩
  | true =>
    rw [if_pos rfl]
    apply Shows.bind
    apply shows_request
    rw [View.add_add]
    cases answer (Call.patch r).request with
    | ok =>
      apply Shows.bind
      apply shows_confirmInstall
      intro v'
      apply shows_pure
      intro err failed
      cases failed
    | error source =>
      apply Shows.bind
      apply shows_failInstall
      apply Shows.bind
      apply shows_request
      cases answer (Call.restore r).request with
      | ok =>
        apply shows_pure
        rintro _ ⟨⟩
        exact ⟨_, _, rfl, rfl, .refused source⟩
      | error secondary =>
        apply Shows.bind
        apply shows_log
        apply shows_pure
        rintro _ ⟨⟩
        exact ⟨_, _, rfl, rfl, .refused source⟩

/-- An install that fails leaves nothing behind. -/
theorem shows_install (i : Instrument) (w : v.registry.WellKept)
    (tidy : v.registry.get? i.id = none → v.retries.isPending i.id = false) :
  (install i).Shows answer
    (fun result v' => ∀ err, result = .error err → v'.Restored v i err t) v t
  := by
  rw [install]
  apply Shows.bind
  apply shows_gets (fun v _ => v.registry.get? i.id) (fun _ => rfl)
  dsimp only
  cases registered : v.registry.get? i.id with
  | some r =>
    apply Shows.bind
    apply shows_log
    apply shows_pure
    intro err failed
    cases failed
  | none =>
    cases valid : Candidate.ofInstrument i with
    | error err =>
      apply Shows.bind
      apply shows_log
      apply Shows.bind
      apply shows_publish
      apply shows_pure
      rintro _ ⟨⟩
      exact ⟨rfl, rfl, rfl, _, rfl, rfl, i.fails_of_invalid valid⟩
    | ok candidate =>
      obtain rfl := Candidate.instrument_of valid
      apply Shows.bind
      refine shows_update (fun v =>
        ((v.registry.reserve candidate).1, { v with registry := (v.registry.reserve candidate).2 }))
        (fun _ => rfl) (fun _ => rfl) ?_
      obtain ⟨g, fresh⟩ : ∃ g, v.registry.reserve candidate
          = (.fresh (.ofCandidate v.registry.nextSerial candidate), g) := by
        rw [Registry.reserve, registered]
        exact ⟨_, rfl⟩
      rw [fresh]
      apply Shows.bind
      apply shows_gets (fun _ t => t) (fun _ => rfl)
      apply Shows.bind
      apply (shows_apply _ t).mono
      intro result v' fails
      cases result with
      | ok =>
        apply shows_pure
        intro err failed
        cases failed
      | error err =>
        apply shows_pure
        rintro _ ⟨⟩
        obtain ⟨before, after, givesUp⟩ := fails err rfl
        exact givesUp.restored w (tidy registered) fresh

end Lifecycle

/-- An install that fails when operations run one after another leaves the live and the applying
instruments and the deferred installs as they were, whatever the transform engine answers. One event
is published, the removal of the instrument with the failure as its cause, and the patch is taken
back, successfully or not, if it was refused. -/
theorem failed_install_restores {settings : Settings} {clock : Instant} {s : Session}
    (run : Conduct.successive.Run (.idle (.new settings clock)) s)
    (answer : (request : Request) → request.Answer) (i : Instrument) (err : InstrumentError)
    (fails : (s.engine.perform answer (.install i)).1 = .error err) :
  (s.engine.perform answer (.install i)).2.view.Restored s.engine.view i err s.engine.clock
  := by
  have sound : s.engine.Sound := run.since.succeeds.sound
  have tidy (free : s.engine.registry.get? i.id = none) :
      s.engine.retries.isPending i.id = false := by
    by_contra waits
    obtain ⟨r, applying⟩ := run.heeding.heeded i.id (eq_true_of_ne_false waits)
    have notApplying := (Registry.get?_eq_none_iff.mp free).2
    exact absurd (applying.symm.trans notApplying) (by simp)
  have shows : (Lifecycle.install i).Shows answer (fun result v' => ∀ err, result = .error err
      → v'.Restored s.engine.view i err s.engine.clock) s.engine.view s.engine.clock :=
    Lifecycle.shows_install i sound.wellKept tidy
  exact (shows s.engine rfl rfl).1 err fails

/-- The answers of a transform engine that has every unit loaded, and neither inserts a patch nor
takes one back. -/
def Request.answerRefusing : (request : Request) → request.Answer
  | .resolve _ => true
  | .patch _ _ => .error (.internal "refused")
  | .unpatch _ _ => .error (.internal "stuck")

/-- A patch that is neither inserted nor taken back leaves the other live instrument alone. -/
theorem failed_install_restores_refused :
  ∃ s, Conduct.successive.Run (.idle (.new .default default)) s
    ∧ (s.engine.registry.getLive? "a").isSome
    ∧ (s.engine.perform Request.answerRefusing
        (.install { Instrument.breakpointIn "V" with id := "b" })).1
      = .error (.patchFailed "b" (.internal "refused"))
    ∧ (s.engine.perform Request.answerRefusing
        (.install { Instrument.breakpointIn "V" with id := "b" })).2.view.Restored s.engine.view
      { Instrument.breakpointIn "V" with id := "b" } (.patchFailed "b" (.internal "refused")) default
  := by
  have installs : Conduct.successive.AllowsAll (.idle (.new .default default))
      [.start (.install (.breakpointIn "U")), .reply true, .reply true] :=
    ⟨rfl, trivial, trivial, trivial⟩
  have restores := failed_install_restores installs.run Request.answerRefusing
    { Instrument.breakpointIn "V" with id := "b" } (.patchFailed "b" (.internal "refused")) rfl
  exact ⟨_, installs.run, rfl, rfl, restores⟩

end Instrumentation
