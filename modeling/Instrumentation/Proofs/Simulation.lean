import Instrumentation.Proofs.Move
import Instrumentation.Proofs.Retry

/-!
# What operations do

Every operation does moves: from one call to the next, and so over every run of a session, the
position changes by moves only.

A routine follows the moves from the position where its operation was last at a call, its origin,
if it gets by moves to the position of its next call, and does so again from whatever view it finds
when the call is answered. Only the view counts: where a routine looks at the engine, it may find
any engine of that view. Each routine is followed once, and the routines that call it refer to
that.
-/

namespace Instrumentation

namespace Routine

variable {α β : Type}

/-- From the origin, and from each position where it goes on, the routine gets by moves to its
next call. At its end its result, its origin then, and the view satisfy the goal, which may
depend on the answers that were allowed last. -/
def Follows (starts : Starts) (calls : List Call)
    (goal : Answers → α → Position → View → Prop) :
    Routine α → Answers → Position → View → Prop
  | done a, answers, o, v => goal answers a o v
  | read next, answers, o, v => ∀ e, e.view = v → (next e).Follows starts calls goal answers o v
  | write e next, answers, o, _ => next.Follows starts calls goal answers o e.view
  | ask call next, answers, o, v =>
    Moves ⟨starts, answers⟩ o ⟨v, call :: calls⟩
      ∧ ∀ (answers' : Answers) answer v', answers' v' call answer
        → (next answer).Follows starts calls goal answers' ⟨v', call :: calls⟩ v'

/-- The position was reached by moves, where nothing is left to do. -/
def Arrived {α : Type} (starts : Starts) (calls : List Call) (answers : Answers) (_ : α)
    (o : Position) (v : View) : Prop :=
  Moves ⟨starts, answers⟩ o ⟨v, calls⟩

/-- The routine begins and ends with nothing left to do. -/
def Proceeds (starts : Starts) (calls : List Call) (r : Routine α) : Prop :=
  ∀ answers o v, Moves ⟨starts, answers⟩ o ⟨v, calls⟩
    → r.Follows starts calls (Arrived starts calls) answers o v

section Rules

variable {starts : Starts} {answers : Answers} {calls : List Call} {o : Position} {v : View}

/-- A routine is followed, and then the one after it. -/
theorem follows_bind {goal : Answers → β → Position → View → Prop} {r : Routine α}
    {f : α → Routine β} :
  (r >>= f).Follows starts calls goal answers o v
    ↔ r.Follows starts calls
        (fun answers' a o' v' => (f a).Follows starts calls goal answers' o' v') answers o v
  := by
  change (r.bind f).Follows starts calls goal answers o v ↔ _
  induction r generalizing answers o v with
  | done a => rfl
  | read next ih =>
    constructor
    · intro h e seen
      apply (ih e).mp (h e seen)
    · intro h e seen
      apply (ih e).mpr (h e seen)
  | write e next ih => apply ih
  | ask call next ih =>
    constructor
    · intro h
      exact ⟨h.1, fun answers' answer v' may => (ih answer).mp (h.2 answers' answer v' may)⟩
    · intro h
      exact ⟨h.1, fun answers' answer v' may => (ih answer).mpr (h.2 answers' answer v' may)⟩

/-- A routine is followed to a weaker goal. -/
theorem Follows.mono {goal goal' : Answers → α → Position → View → Prop} {r : Routine α}
    (h : r.Follows starts calls goal answers o v)
    (weaker : ∀ answers a o v, goal answers a o v → goal' answers a o v) :
  r.Follows starts calls goal' answers o v
  := by
  induction r generalizing answers o v with
  | done a => apply weaker _ _ _ _ h
  | read next ih =>
    intro e seen
    apply ih e (h e seen)
  | write e next ih => apply ih h
  | ask call next ih =>
    exact ⟨h.1, fun answers' answer v' may => ih answer (h.2 answers' answer v' may)⟩

/-- A look at the engine. -/
theorem follows_gets {goal : Answers → α → Position → View → Prop} {f : Engine → α}
    (g : View → α) (seen : ∀ e, f e = g e.view) (h : goal answers (g v) o v) :
  (gets f).Follows starts calls goal answers o v
  := by
  rintro e rfl
  change goal answers (f e) o e.view
  rw [seen]
  exact h

/-- A look at what is not in the view. -/
theorem follows_look {goal : Answers → α → Position → View → Prop} {f : Engine → α}
    (h : ∀ a, goal answers a o v) :
  (gets f).Follows starts calls goal answers o v
  := by
  intro e seen
  apply h

/-- A change of the engine. -/
theorem follows_modify {goal : Answers → Unit → Position → View → Prop} {f : Engine → Engine}
    (g : View → View) (seen : ∀ e, (f e).view = g e.view) (h : goal answers () o (g v)) :
  (modify f).Follows starts calls goal answers o v
  := by
  rintro e rfl
  change goal answers () o (f e).view
  rw [seen]
  exact h

/-- A change of the engine with a result. -/
theorem follows_update {goal : Answers → α → Position → View → Prop} {f : Engine → α × Engine}
    (g : View → α × View) (seen : ∀ e, ((f e).1, (f e).2.view) = g e.view)
    (h : goal answers (g v).1 o (g v).2) :
  (update f).Follows starts calls goal answers o v
  := by
  rintro e rfl
  rw [← seen] at h
  exact h

/-- A record in the log. -/
theorem follows_log {goal : Answers → Unit → Position → View → Prop} {level : Level}
    {message : String} {fields : List (String × String)} (h : goal answers () o v) :
  (log level message fields).Follows starts calls goal answers o v
  := follows_modify (fun v => v) (fun e => e.view_log level message fields) h

/-- An event. -/
theorem follows_publish {goal : Answers → Unit → Position → View → Prop} {serial : Option Nat}
    {event : Instant → Event}
    (h : ∀ t, goal answers () o (v.add [.published serial (event t)])) :
  (publish serial event).Follows starts calls goal answers o v
  := by
  rintro e rfl
  have published := h e.clock
  rw [← e.view_publish] at published
  exact published

/-- A call. -/
theorem follows_request {call : Call}
    {goal : Answers → call.request.Answer → Position → View → Prop}
    (asked : Moves ⟨starts, answers⟩ o ⟨v.add [call.asked], call :: calls⟩)
    (h : ∀ (answers' : Answers) answer v', answers' v' call answer
      → goal answers' answer ⟨v', call :: calls⟩ (v'.add [call.answered answer])) :
  (request call).Follows starts calls goal answers o v
  := by
  rintro e rfl
  constructor
  · rw [← e.view_note_asked] at asked
    exact asked
  · rintro answers' answer v' may e rfl
    have answered := h answers' answer e.view may
    rw [← e.view_note_answered] at answered
    exact answered

/-- Routines that proceed do so one after another. -/
theorem Proceeds.bind {r : Routine α} {f : α → Routine β} (h : r.Proceeds starts calls)
    (hf : ∀ a, (f a).Proceeds starts calls) :
  (r >>= f).Proceeds starts calls
  := by
  intro answers o v moves
  rw [follows_bind]
  apply (h answers o v moves).mono
  intro answers' a o' v' moves'
  apply hf a _ _ _ moves'

/-- The end of a routine proceeds. -/
theorem Proceeds.pure (a : α) :
  (pure a : Routine α).Proceeds starts calls
  := fun _ _ _ moves => moves

/-- A look at the engine proceeds. -/
theorem Proceeds.gets (f : Engine → α) :
  (gets f).Proceeds starts calls
  := fun _ _ _ moves => follows_look fun _ => moves

/-- A record in the log proceeds. -/
theorem Proceeds.log (level : Level) (message : String) (fields : List (String × String)) :
  (log level message fields).Proceeds starts calls
  := fun _ _ _ moves => follows_log moves

end Rules

end Routine

namespace Lifecycle

open Routine

variable {starts : Starts} {answers : Answers} {calls : List Call} {o : Position} {v : View}

/-! ### Installs -/

/-- The detachment of an identity. -/
theorem follows_detach {goal : Answers → Option Registration → Position → View → Prop}
    {x : InstrumentId} (h : goal answers (v.registry.detach x).1 o
      { v with registry := (v.registry.detach x).2 }) :
  (update fun e =>
    let (detached, registry) := e.registry.detach x
    (detached, { e with registry })).Follows starts calls goal answers o v
  := by
  apply follows_update fun v =>
    ((v.registry.detach x).1, { v with registry := (v.registry.detach x).2 })
  · intro e
    rfl
  · exact h

/-- The cancellation of a deferred install. -/
theorem follows_cancel {goal : Answers → Unit → Position → View → Prop} {x : InstrumentId}
    (h : goal answers () o { v with retries := v.retries.cancel x }) :
  (modify fun e => { e with retries := e.retries.cancel x }).Follows starts calls goal answers o v
  := follows_modify (fun v => { v with retries := v.retries.cancel x }) (fun _ => rfl) h

/-- A change of the captured frames. -/
theorem follows_frames {goal : Answers → Unit → Position → View → Prop}
    {f : FrameStore → FrameStore} (h : goal answers () o v) :
  (modify fun e => { e with frames := f e.frames }).Follows starts calls goal answers o v
  := follows_modify (fun v => v) (fun _ => rfl) h

/-- An install that fails detaches its identity. Its removal is published if that finds the
identity registered. -/
theorem follows_failInstall {goal : Answers → InstrumentError → Position → View → Prop}
    {r : Registration} {err : InstrumentError} (h : ∀ t, goal answers err o (v.abandon r err t)) :
  (failInstall r err).Follows starts calls goal answers o v
  := by
  simp only [failInstall, follows_bind]
  apply follows_cancel
  apply follows_log
  apply follows_detach
  simp only [Registry.detach_fst]
  cases registered : v.registry.get? r.id with
  | none =>
    have silent (t) : v.abandon r err t = v.detach r.id := by
      simp [View.abandon, View.failure_of_free registered]
    have h := h default
    rw [silent] at h
    exact h
  | some s =>
    have heard (t) : v.abandon r err t
        = (v.detach r.id).add
          [.published (some r.serial) (.removed r.instrument (some err.message) t)] := by
      simp [View.abandon, View.failure_of_registered registered]
    simp only [heard] at h
    simp only [Option.map_some, follows_bind]
    apply follows_frames (f := fun s => s.clear r.id)
    apply follows_publish
    exact h

/-- An exhausted install is not in the queue. -/
theorem cancel_schedule {q : RetryQueue} {x : InstrumentId} {now : Instant} {attempts : UInt32}
    (exhausted : (q.schedule x now).1 = .exhausted attempts) :
  (q.schedule x now).2.cancel x = q.cancel x
  := by rw [RetryQueue.schedule_exhausted exhausted, RetryQueue.cancel_cancel]

/-- An install whose unit is not loaded waits or is given up. -/
theorem follows_deferInstall {r : Registration} {now : Instant}
    (may : answers v (.resolve r) false) :
  (deferInstall r now).Follows starts calls (Arrived starts calls) answers
    ⟨v, .resolve r :: calls⟩ (v.add [(Call.resolve r).answered false])
  := by
  rw [deferInstall]
  by_cases immediate : r.instrument.applyImmediately = true
  · simp only [if_pos immediate, follows_bind]
    apply follows_failInstall
    intro t
    exact .single (.fail v calls r now _ t may (.immediate immediate))
  · have patient : r.instrument.applyImmediately = false := by simpa using immediate
    simp only [if_neg immediate, follows_bind]
    apply follows_update fun v =>
      ((v.retries.schedule r.id now).1,
        { v with retries := (v.retries.schedule r.id now).2 })
    · intro e
      rfl
    · simp only [View.retries_add]
      cases decision : (v.retries.schedule r.id now).1 with
      | scheduled dueAt attempts =>
        simp only [follows_bind]
        apply follows_log
        exact .single (.defer v calls r now dueAt attempts may patient decision)
      | exhausted attempts =>
        simp only [follows_bind]
        apply follows_failInstall
        intro t
        have fails : Move ⟨starts, answers⟩ _ _ :=
          .fail v calls r now _ t may (.exhausted patient attempts decision)
        have same := cancel_schedule decision
        simp only [View.abandon, View.detach, View.failure, View.registry_add, View.retries_add]
          at fails ⊢
        rw [same]
        exact .single fails

/-- An install whose patch is in place makes an instrument live, or takes the patch back. -/
theorem follows_confirmInstall {r : Registration} (may : answers v (.patch r) (.ok ())) :
  (confirmInstall r).Follows starts calls (Arrived starts calls) answers
    ⟨v, .patch r :: calls⟩ (v.add [(Call.patch r).answered (.ok ())])
  := by
  simp only [confirmInstall, follows_bind]
  apply follows_cancel
  apply follows_update fun v =>
    ((v.registry.promote r.id).1, { v with registry := (v.registry.promote r.id).2 })
  · intro e
    rfl
  simp only [View.registry_add]
  cases promoted : (v.registry.promote r.id).1 with
  | some s =>
    simp only [follows_bind]
    apply follows_log
    apply follows_publish
    intro t
    exact .single (.confirm v calls r s t may promoted)
  | none =>
    simp only [follows_bind]
    apply follows_log
    apply follows_request
    · exact .single (.revert v calls r may promoted)
    · intro answers answer v may
      have settles : Move ⟨starts, answers⟩ _ _ := .settle v calls r answer may
      cases answer with
      | ok => exact .single settles
      | error err =>
        apply follows_log
        exact .single settles

/-- An attempt, from where its unit is asked for. -/
theorem follows_apply {r : Registration} {now : Instant}
    (asked : Moves ⟨starts, answers⟩ o ⟨v.add [(Call.resolve r).asked], .resolve r :: calls⟩) :
  (apply r now).Follows starts calls (Arrived starts calls) answers o v
  := by
  simp only [apply, follows_bind]
  apply follows_request asked
  intro answers loaded v may
  cases loaded with
  | false =>
    simp only [Bool.false_eq_true, if_false]
    apply follows_deferInstall may
  | true =>
    simp only [if_true, follows_bind]
    apply follows_request
    · rw [View.add_add]
      exact .single (.found v calls r may)
    · intro answers answer v may
      cases answer with
      | ok =>
        simp only [follows_bind]
        apply (follows_confirmInstall may).mono
        intro _ _ o' v' moves
        exact moves
      | error source =>
        simp only [follows_bind]
        apply follows_failInstall
        intro t
        apply follows_request
        · exact .single (.reject v calls r source t may)
        · intro answers answer v may
          have settles : Move ⟨starts, answers⟩ _ _ := .settle v calls r answer may
          cases answer with
          | ok => exact .single settles
          | error err =>
            simp only [follows_bind]
            apply follows_log
            exact .single settles

/-- An install. -/
theorem install_proceeds (opens : starts.Opens calls) (i : Instrument) :
  (install i).Proceeds starts calls
  := by
  intro answers o v moves
  simp only [install, follows_bind]
  apply follows_gets fun v => v.registry.get? i.id
  · intro e
    rfl
  cases registered : v.registry.get? i.id with
  | some r =>
    simp only [follows_bind]
    apply follows_log
    exact moves
  | none =>
    cases read : Candidate.ofInstrument i with
    | error err =>
      simp only [follows_bind]
      apply follows_log
      apply follows_publish
      intro t
      apply moves.tail (.refuse v calls i err t registered read)
    | ok candidate =>
      simp only [follows_bind]
      apply follows_update fun v =>
        ((v.registry.reserve candidate).1, { v with registry := (v.registry.reserve candidate).2 })
      · intro e
        rfl
      cases reserved : v.registry.reserve candidate with
      | mk reservation g =>
        cases reservation with
        | existing r =>
          simp only [follows_bind]
          apply follows_log
          obtain rfl := Registry.reserve_existing reserved
          exact moves
        | fresh r =>
          simp only [follows_bind]
          apply follows_look
          intro now
          have registers : Move ⟨starts, answers⟩ _ _ :=
            .register v calls i candidate r g opens read reserved
          apply (follows_apply (moves.tail registers)).mono
          intro _ answer o' v' moves
          cases answer with
          | ok => exact moves
          | error err => exact moves

/-! ### Removals -/

/-- The patch of a live instrument is taken back, and the cause of its removal found. -/
theorem follows_reverseLive {goal : Answers → Option String → Position → View → Prop}
    {r : Registration} {cause : Option String}
    (applying : r.isLive = false → goal answers cause o v)
    (asked : r.isLive = true
      → Moves ⟨starts, answers⟩ o ⟨v.add [(Call.withdraw r).asked], .withdraw r :: calls⟩)
    (live : ∀ (answers' : Answers) answer v', answers' v' (.withdraw r) answer
      → goal answers' (r.causeAfter cause answer) ⟨v', .withdraw r :: calls⟩
          (v'.add [(Call.withdraw r).answered answer])) :
  (reverseLive r cause).Follows starts calls goal answers o v
  := by
  rw [reverseLive]
  by_cases isLive : r.isLive = true
  · simp only [if_pos isLive, follows_bind]
    apply follows_request (asked isLive)
    intro answers' answer v' may
    have parts := live answers' answer v' may
    cases answer with
    | ok => exact parts
    | error source =>
      simp only [follows_bind]
      apply follows_log
      exact parts
  · rw [if_neg isLive]
    apply applying
    simpa using isLive

/-- A removal. -/
theorem removeEntry_proceeds (opens : starts.Opens calls) (x : InstrumentId) (cause : Option String)
    (withFrame : Bool) :
  (removeEntry x cause withFrame).Proceeds starts calls
  := by
  intro answers o v moves
  simp only [removeEntry, follows_bind]
  apply follows_detach
  cases detached : (v.registry.detach x).1 with
  | none =>
    rw [Registry.detach_none detached]
    exact moves
  | some r =>
    simp only [follows_bind]
    apply follows_cancel
    have rest : (do
        let cause ← reverseLive r cause
        let given := cause.elim [] fun text => [("cause", text)]
        log .info "instrument removed"
          ([("instrument_id", r.id), ("kind", r.instrument.kind.name)] ++ given)
        publish (some r.serial) fun t => .removed r.instrument cause t
        return some r.instrument).Follows starts calls (Arrived starts calls) answers o
          (v.detach x) := by
      simp only [follows_bind]
      apply follows_reverseLive
      · intro applying
        apply follows_log
        apply follows_publish
        intro t
        apply moves.tail (.drop v calls x r cause t opens detached applying)
      · intro live
        apply moves.tail (.withdraw v calls x r opens detached live)
      · intro answers' answer v' may
        apply follows_log
        apply follows_publish
        intro t
        rw [View.add_add]
        exact .single (.part v' calls r answer cause t may)
    split
    · rw [follows_bind]
      apply follows_frames (f := fun s => s.clear r.id)
      exact rest
    · exact rest

/-- A removal with its frame. -/
theorem removeById_proceeds (opens : starts.Opens calls) (x : InstrumentId)
    (cause : Option String) :
  (removeById x cause).Proceeds starts calls
  := removeEntry_proceeds opens x cause true

/-- Removals one after another. -/
theorem removeEach_proceeds (opens : starts.Opens calls) (ids : List InstrumentId) :
  (removeEach ids).Proceeds starts calls
  := by
  induction ids with
  | nil => apply Proceeds.pure
  | cons x ids ih =>
    apply (removeById_proceeds opens x none).bind
    intro removed
    apply ih.bind
    intro others
    apply Proceeds.pure

/-- A removal by identity or by location. -/
theorem remove_proceeds (opens : starts.Opens calls) (query : Location) (x : Option InstrumentId) :
  (remove query x).Proceeds starts calls
  := by
  cases x with
  | some x =>
    apply (removeById_proceeds opens x none).bind
    intro removed
    apply Proceeds.pure
  | none =>
    apply (Proceeds.gets _).bind
    intro found
    apply removeEach_proceeds opens

/-! ### Hits -/

/-- A frame that is cleared. -/
theorem clearFrame_proceeds (x : InstrumentId) :
  (Routine.modify fun e => { e with frames := e.frames.clear x }).Proceeds starts calls
  := fun _ _ _ moves => follows_frames (f := fun s => s.clear x) moves

/-- A change of an entry that leaves its identity, its number and its flags. -/
theorem touch_proceeds (x : InstrumentId) {f : Registration → Registration}
    (alike : ∀ r, (f r).Alike r) :
  (Routine.modify fun e => { e with registry := e.registry.modify x f }).Proceeds starts calls
  := by
  intro answers o v moves
  apply follows_modify fun v => { v with registry := v.registry.modify x f }
  · intro e
    rfl
  · apply moves.tail (.touch v calls x f alike)

/-- The removal of an instrument that has had its last hit. -/
theorem finishIfDone_proceeds (opens : starts.Opens calls) (r : Registration) :
  (finishIfDone r).Proceeds starts calls
  := by
  rw [finishIfDone]
  split
  · apply Proceeds.bind
    · apply touch_proceeds
      intro r
      exact ⟨rfl, rfl, rfl, rfl⟩
    intro _
    apply (Proceeds.log _ _ _).bind
    intro _
    apply (removeEntry_proceeds opens r.id none false).bind
    intro _
    apply Proceeds.pure
  · apply Proceeds.pure

/-- The end of a hit that was admitted. -/
theorem judge_proceeds (opens : starts.Opens calls) (r : Registration) :
  (judge r).Proceeds starts calls
  := by
  have finishes : (do
      finishIfDone r
      return true).Proceeds starts calls :=
    (finishIfDone_proceeds opens r).bind fun _ => .pure _
  rw [judge]
  cases r.predicate with
  | none => exact finishes
  | some p =>
    apply (Proceeds.gets _).bind
    intro frame
    cases p.evaluate frame with
    | ok holds =>
      cases holds with
      | true => exact finishes
      | false =>
        apply (Proceeds.log _ _ _).bind
        intro _
        apply (clearFrame_proceeds r.id).bind
        intro _
        apply Proceeds.pure
    | error source =>
      apply (clearFrame_proceeds r.id).bind
      intro _
      apply (Proceeds.log _ _ _).bind
      intro _
      apply (removeEntry_proceeds opens r.id _ false).bind
      intro _
      apply Proceeds.pure

/-- A hit. -/
theorem hit_proceeds (opens : starts.Opens calls) (x : InstrumentId) :
  (hit x).Proceeds starts calls
  := by
  apply (Proceeds.gets _).bind
  intro found
  cases found with
  | none =>
    apply (Proceeds.log _ _ _).bind
    intro _
    apply Proceeds.pure
  | some r =>
    apply (Proceeds.gets _).bind
    intro now
    dsimp only
    split
    · apply (removeEntry_proceeds opens x none true).bind
      intro _
      apply Proceeds.pure
    · apply Proceeds.bind
      · apply touch_proceeds
        intro r
        exact ⟨rfl, rfl, rfl, rfl⟩
      intro _
      split
      · apply judge_proceeds opens
      · apply (Proceeds.log _ _ _).bind
        intro _
        apply (clearFrame_proceeds x).bind
        intro _
        apply Proceeds.pure

/-! ### Ticks -/

/-- The removal of what has expired. -/
theorem sweep_proceeds (opens : starts.Opens calls) (now : Instant) :
  (sweep now).Proceeds starts calls
  := by
  have removes (ids : List InstrumentId) : (do
      return (← removeEach ids).length).Proceeds starts calls :=
    (removeEach_proceeds opens ids).bind fun _ => .pure _
  apply (Proceeds.gets _).bind
  intro expired
  dsimp only
  split
  · apply (Proceeds.log _ _ _).bind
    intro _
    apply removes
  · apply removes

/-- Attempts one after another. -/
theorem retryEach_proceeds (opens : starts.Opens calls) (now : Instant) (ids : List InstrumentId) :
  (retryEach now ids).Proceeds starts calls
  := by
  induction ids with
  | nil => apply Proceeds.pure
  | cons x ids ih =>
    intro answers o v moves
    simp only [retryEach, follows_bind]
    apply follows_gets fun v => v.registry.getApplying? x
    · intro e
      rfl
    cases applying : v.registry.getApplying? x with
    | none =>
      simp only [follows_bind]
      apply follows_cancel
      apply ih
      apply moves.tail (.forget v calls x applying)
    | some r =>
      dsimp only
      split
      · apply ih answers o v moves
      · simp only [follows_bind]
        apply follows_log
        apply (follows_apply (moves.tail (.attempt v calls x r opens applying))).mono
        intro answers answer o' v' moves
        have counts : (do
            return (← retryEach now ids) + 1).Proceeds starts calls :=
          ih.bind fun _ => .pure _
        cases answer with
        | ok => apply counts answers o' v' moves
        | error err =>
          have logs := (Proceeds.log .debug "deferred install failed"
            [("instrument_id", x), ("error", err.message)]).bind fun _ => counts
          apply logs answers o' v' moves

/-- An attempt for each deferred install that is due. -/
theorem retryDue_proceeds (opens : starts.Opens calls) (now : Instant) :
  (retryDue now).Proceeds starts calls
  := by
  intro answers o v moves
  simp only [retryDue, follows_bind]
  apply follows_update fun v =>
    ((v.retries.takeDue now).1, { v with retries := (v.retries.takeDue now).2 })
  · intro e
    rfl
  · apply retryEach_proceeds opens
    apply moves.tail (.takeDue v calls now)

/-- A tick. -/
theorem tick_proceeds (opens : starts.Opens calls) (now : Instant) :
  (tick now).Proceeds starts calls
  := by
  apply (sweep_proceeds opens now).bind
  intro expired
  apply (retryDue_proceeds opens now).bind
  intro retried
  apply Proceeds.pure

end Lifecycle

namespace Control

open Routine

variable {starts : Starts} {calls : List Call}

/-! ### Commands -/

/-- A command that is refused or has failed in part. -/
theorem complain_proceeds (raw : Json) (cause : String) :
  (publish none fun t => .commandFailed raw cause t).Proceeds starts calls
  := by
  intro answers o v moves
  apply follows_publish
  intro t
  apply moves.tail (.complain v calls raw cause t)

/-- The refusal of a command. -/
theorem reject_proceeds (raw : Json) (cause : String) :
  (reject raw cause).Proceeds starts calls
  := by
  apply (Proceeds.log _ _ _).bind
  intro _
  apply (complain_proceeds raw cause).bind
  intro _
  apply Proceeds.pure

/-- The installs of a command. -/
theorem add_proceeds (opens : starts.Opens calls) (instruments : List Instrument) :
  (add instruments).Proceeds starts calls
  := by
  induction instruments with
  | nil => apply Proceeds.pure
  | cons i rest ih =>
    apply (Lifecycle.install_proceeds opens i).bind
    intro answer
    apply ih.bind
    intro o
    cases answer with
    | ok installed => apply Proceeds.pure
    | error err => apply Proceeds.pure

/-- The removals of listed instruments. -/
theorem removeListed_proceeds (opens : starts.Opens calls) (instruments : List Instrument) :
  (removeListed instruments).Proceeds starts calls
  := by
  induction instruments with
  | nil => apply Proceeds.pure
  | cons i rest ih =>
    apply (Lifecycle.remove_proceeds opens i.location (some i.id)).bind
    intro removed
    apply ih.bind
    intro others
    apply Proceeds.pure

/-- The removals at listed locations. -/
theorem removeAt_proceeds (opens : starts.Opens calls) (locations : List Location) :
  (removeAt locations).Proceeds starts calls
  := by
  induction locations with
  | nil => apply Proceeds.pure
  | cons l rest ih =>
    apply (Lifecycle.remove_proceeds opens l none).bind
    intro removed
    apply ih.bind
    intro others
    apply Proceeds.pure

/-- A command that was read. -/
theorem perform_proceeds (opens : starts.Opens calls) (command : Command) :
  (perform command).Proceeds starts calls
  := by
  apply (Proceeds.log _ _ _).bind
  intro _
  cases command.action with
  | add => apply add_proceeds opens
  | remove =>
    apply (removeListed_proceeds opens command.instruments).bind
    intro listed
    apply (removeAt_proceeds opens command.locations).bind
    intro located
    apply Proceeds.pure

/-- A command given as a value. -/
theorem handle_proceeds (opens : starts.Opens calls) (raw : Json) :
  (handle raw).Proceeds starts calls
  := by
  have refuses (cause : String) :
      (Except.error <$> reject raw cause :
        Routine (Except InstrumentError Outcome)).Proceeds starts calls :=
    (reject_proceeds raw cause).bind fun _ => .pure _
  rw [handle]
  cases Command.decode raw with
  | error err => apply refuses
  | ok command =>
    dsimp only
    split
    · apply refuses
    · apply (perform_proceeds opens command).bind
      intro o
      split
      · apply (complain_proceeds raw _).bind
        intro _
        apply Proceeds.pure
      · apply Proceeds.pure

/-- A command given as text. -/
theorem handleText_proceeds (opens : starts.Opens calls) (text : String) :
  (handleText text).Proceeds starts calls
  := by
  rw [handleText]
  cases Json.parse? text with
  | some raw => apply handle_proceeds opens
  | none =>
    apply (reject_proceeds (.string text) _).bind
    intro err
    apply Proceeds.pure

end Control

/-- An operation that may start proceeds. -/
theorem Operation.routine_follows {starts : Starts} {answers : Answers} {calls : List Call}
    {v : View} {op : Operation} (may : starts v calls op) :
  op.routine.Follows starts calls (Routine.Arrived starts calls) answers ⟨v, calls⟩ v
  := by
  have opens : starts.Opens calls := ⟨v, op, may⟩
  have proceeds {α : Type} {r : Routine α} (h : r.Proceeds starts calls) :
      r.Follows starts calls (Routine.Arrived starts calls) answers ⟨v, calls⟩ v :=
    h _ _ _ .refl
  cases op with
  | install i => apply proceeds (Lifecycle.install_proceeds opens i)
  | removeById x cause => apply proceeds (Lifecycle.removeById_proceeds opens x cause)
  | remove query x => apply proceeds (Lifecycle.remove_proceeds opens query x)
  | hit x => apply proceeds (Lifecycle.hit_proceeds opens x)
  | sweep now => apply proceeds (Lifecycle.sweep_proceeds opens now)
  | retryDue now => apply proceeds (Lifecycle.retryDue_proceeds opens now)
  | tick now => apply proceeds (Lifecycle.tick_proceeds opens now)
  | handle raw => apply proceeds (Control.handle_proceeds opens raw)
  | handleText text => apply proceeds (Control.handleText_proceeds opens text)
  | clear =>
    apply Routine.follows_modify fun v =>
      { v with registry := v.registry.clear.2, retries := v.retries.clear }
    · intro e
      rfl
    · exact .single (.clear v calls may)

/-! ### Sessions -/

/-- Operations that wait go on by moves, whatever they are answered. -/
def Starts.Keeps (starts : Starts) : List Pending → Prop
  | [] => True
  | p :: rest =>
    (∀ (answers : Answers) answer v, answers v p.call answer
      → (p.resume answer).Follows starts (rest.map Pending.call)
          (Routine.Arrived starts (rest.map Pending.call)) answers
          ⟨v, p.call :: rest.map Pending.call⟩ v)
      ∧ starts.Keeps rest

namespace Session

/-- An operation that goes on by moves changes the position of its session by moves, and does
so again when it is answered. -/
theorem proceed_moves {starts : Starts} {answers : Answers} {op : Operation}
    {waiting : List Pending} {finished : List ((op : Operation) × op.Result)}
    (keeps : starts.Keeps waiting) {r : Routine op.Result} {o : Position} {e : Engine}
    (follows : r.Follows starts (waiting.map Pending.call)
      (Routine.Arrived starts (waiting.map Pending.call)) answers o e.view) :
  Moves ⟨starts, answers⟩ o (proceed op waiting finished r e).position
    ∧ starts.Keeps (proceed op waiting finished r e).waiting
  := by
  induction r generalizing e with
  | done a => exact ⟨follows, keeps⟩
  | read next ih => apply ih e (follows e rfl)
  | write e' next ih => apply ih follows
  | ask call next ih =>
    obtain ⟨moves, goesOn⟩ := follows
    exact ⟨moves, goesOn, keeps⟩

end Session

namespace Conduct

variable {c : Conduct} {s s' : Session}

/-- What happens in a session changes its position by moves. -/
theorem Step.moves (keeps : c.starts.Keeps s.waiting) (step : c.Step s s') :
  Moves c s.position s'.position ∧ c.starts.Keeps s'.waiting
  := by
  cases step with
  | drift _ clock frames emitter => exact ⟨.refl, keeps⟩
  | start _ op may => apply Session.proceed_moves keeps (Operation.routine_follows may)
  | reply e p waiting finished answer may =>
    apply Session.proceed_moves keeps.2 (keeps.1 c.answers answer e.view may)

/-- A run changes the position of its session by moves. -/
theorem Run.moves (keeps : c.starts.Keeps s.waiting) (run : c.Run s s') :
  Moves c s.position s'.position ∧ c.starts.Keeps s'.waiting
  := by
  induction run with
  | refl => exact ⟨.refl, keeps⟩
  | tail _ step ih =>
    obtain ⟨moves, keeps⟩ := ih
    obtain ⟨moves', keeps'⟩ := step.moves keeps
    exact ⟨moves.trans moves', keeps'⟩

/-- Operations that wait in a run from an engine without operations go on by moves. -/
theorem Run.keeps {e : Engine} (run : c.Run (.idle e) s) :
  c.starts.Keeps s.waiting
  := by
  have none : c.starts.Keeps (Session.idle e).waiting := trivial
  exact (Run.moves none run).2

/-- What holds of an engine without instruments and is preserved by every move holds throughout
every session. -/
theorem Run.invariant {holds : Position → Prop} {settings : Settings} {clock : Instant}
    (new : ∀ retries, holds ⟨{ registry := .empty, retries, history := [] }, []⟩)
    (preserved : ∀ {p q}, Move c p q → holds p → holds q)
    (run : c.Run (.idle (.new settings clock)) s) :
  holds s.position
  := by
  have none : c.starts.Keeps (Session.idle (.new settings clock)).waiting := trivial
  exact (Run.moves none run).1.preserve preserved (new _)

end Conduct

end Instrumentation
