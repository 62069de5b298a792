import Instrumentation.Proofs.Sound

/-!
# Routines that nothing interrupts

A routine that runs alone finds the engine at each answer as it left it at the call. So its run is
a function of the engine and of the answers, and the run of two routines is one run after the other.

What is seen of such a run depends only on what is seen of the engine and on the time. There is one
rule for each thing that a routine can do, and none of them looks at the log, the frames or the
channel.
-/

namespace Instrumentation

namespace Routine

variable {α β : Type} {answer : (request : Request) → request.Answer}

/-- One routine after another. -/
@[simp]
theorem runAlone_bind (r : Routine α) (f : α → Routine β) (e : Engine) :
  (r >>= f).runAlone answer e
    = (f (r.runAlone answer e).1).runAlone answer (r.runAlone answer e).2
  := by
  change (r.bind f).runAlone answer e = _
  induction r generalizing e with
  | done a => rfl
  | read next ih => apply ih
  | write e' next ih => apply ih
  | ask call next ih => apply ih

/-- The end. -/
@[simp]
theorem runAlone_pure (a : α) (e : Engine) :
  (pure a : Routine α).runAlone answer e = (a, e)
  := rfl

/-- A look at the engine. -/
@[simp]
theorem runAlone_gets (f : Engine → α) (e : Engine) :
  (gets f).runAlone answer e = (f e, e)
  := rfl

/-- A change of the engine. -/
@[simp]
theorem runAlone_modify (f : Engine → Engine) (e : Engine) :
  (modify f).runAlone answer e = ((), f e)
  := rfl

/-- A change of the engine with a result. -/
@[simp]
theorem runAlone_update (f : Engine → α × Engine) (e : Engine) :
  (update f).runAlone answer e = f e
  := rfl

/-- A record in the log. -/
@[simp]
theorem runAlone_log (level : Level) (message : String) (fields : List (String × String))
    (e : Engine) :
  (log level message fields).runAlone answer e = ((), e.log level message fields)
  := rfl

/-- An event. -/
@[simp]
theorem runAlone_publish (serial : Option Nat) (event : Instant → Event) (e : Engine) :
  (publish serial event).runAlone answer e = ((), e.publish serial (event e.clock))
  := rfl

/-- A call. -/
@[simp]
theorem runAlone_request (call : Call) (e : Engine) :
  (request call).runAlone answer e
    = (answer call.request, (e.note call.asked).note (call.answered (answer call.request)))
  := rfl

/-! ### What is seen of a run -/

/-- On every engine of a view and a time the routine ends at that time with a result and a view that
satisfy the goal. -/
def Shows (answer : (request : Request) → request.Answer) (goal : α → View → Prop) (r : Routine α)
    (v : View) (t : Instant) : Prop :=
  ∀ e, e.view = v → e.clock = t
    → goal (r.runAlone answer e).1 (r.runAlone answer e).2.view ∧ (r.runAlone answer e).2.clock = t

section Shows

variable {goal : α → View → Prop} {ends : Unit → View → Prop} {v : View} {t : Instant}

/-- One routine after another. -/
theorem Shows.bind {goal : β → View → Prop} {r : Routine α} {f : α → Routine β}
    (h : r.Shows answer (fun a v' => (f a).Shows answer goal v' t) v t) :
  (r >>= f).Shows answer goal v t
  := by
  intro e view clock
  obtain ⟨later, clock'⟩ := h e view clock
  rw [runAlone_bind]
  exact later _ rfl clock'

/-- A weaker goal. -/
theorem Shows.mono {goal' : α → View → Prop} {r : Routine α} (h : r.Shows answer goal v t)
    (weaker : ∀ a v', goal a v' → goal' a v') :
  r.Shows answer goal' v t
  := by
  intro e view clock
  obtain ⟨meets, clock'⟩ := h e view clock
  exact ⟨weaker _ _ meets, clock'⟩

/-- The end. -/
theorem shows_pure {a : α} (h : goal a v) :
  (pure a : Routine α).Shows answer goal v t
  := by
  rintro e rfl clock
  exact ⟨h, clock⟩

/-- A look at what is seen. -/
theorem shows_gets {f : Engine → α} (g : View → Instant → α) (seen : ∀ e, f e = g e.view e.clock)
    (h : goal (g v t) v) :
  (gets f).Shows answer goal v t
  := by
  rintro e rfl rfl
  rw [runAlone_gets, seen]
  exact ⟨h, rfl⟩

/-- A change of what is seen. -/
theorem shows_modify {f : Engine → Engine} (g : View → View) (seen : ∀ e, (f e).view = g e.view)
    (clock : ∀ e, (f e).clock = e.clock) (h : ends () (g v)) :
  (modify f).Shows answer ends v t
  := by
  rintro e rfl rfl
  rw [runAlone_modify, seen]
  exact ⟨h, clock e⟩

/-- A change of what is seen with a result. -/
theorem shows_update {f : Engine → α × Engine} (g : View → α × View)
    (seen : ∀ e, ((f e).1, (f e).2.view) = g e.view) (clock : ∀ e, (f e).2.clock = e.clock)
    (h : goal (g v).1 (g v).2) :
  (update f).Shows answer goal v t
  := by
  rintro e rfl rfl
  rw [← seen] at h
  exact ⟨h, clock e⟩

/-- A record in the log is not seen. -/
theorem shows_log {level : Level} {message : String} {fields : List (String × String)}
    (h : ends () v) :
  (log level message fields).Shows answer ends v t
  := shows_modify (fun v => v) (fun e => e.view_log level message fields) (fun _ => rfl) h

/-- An event. -/
theorem shows_publish {serial : Option Nat} {event : Instant → Event}
    (h : ends () (v.add [.published serial (event t)])) :
  (publish serial event).Shows answer ends v t
  := by
  rintro e rfl rfl
  rw [runAlone_publish, Engine.view_publish]
  exact ⟨h, e.clock_publish _ _⟩

/-- A call. -/
theorem shows_request {call : Call} {goal : call.request.Answer → View → Prop}
    (h : goal (answer call.request)
      (v.add [call.asked, call.answered (answer call.request)])) :
  (request call).Shows answer goal v t
  := by
  rintro e rfl rfl
  rw [runAlone_request, Engine.view_note_answered, Engine.view_note_asked, View.add_add]
  exact ⟨h, rfl⟩

end Shows

end Routine

namespace Lifecycle

variable {answer : (request : Request) → request.Answer} {x : InstrumentId}

/-- A patch that is taken back changes nothing else. -/
theorem alike_reverseLive (r : Registration) (cause : Option String) (e : Engine) :
  ((reverseLive r cause).runAlone answer e).2.Alike e
  := by
  rw [reverseLive]
  split
  · rw [Routine.runAlone_bind, Routine.runAlone_request]
    have asked : ((e.note (Call.withdraw r).asked).note
        ((Call.withdraw r).answered (answer (Call.withdraw r).request))).Alike e :=
      (Engine.Alike.note _ _).trans (.note e _)
    dsimp only
    split
    · exact asked
    · exact (Engine.Alike.log _ _ _ _).trans asked
  · exact ⟨rfl, rfl, rfl⟩

/-- A removal of what is registered takes out the identity with its deferred install, and with its
frame if that is asked for. -/
theorem alike_removeEntry {e : Engine} {r : Registration}
    (detached : (e.registry.detach x).1 = some r) (cause : Option String) (withFrame : Bool) :
  ((removeEntry x cause withFrame).runAlone answer e).2.Alike
    { e with
      registry := (e.registry.detach x).2
      retries := e.retries.cancel x
      frames := if withFrame then e.frames.clear r.id else e.frames }
  := by
  have rest (e₁ : Engine) : ((do
      let cause ← reverseLive r cause
      let given := cause.elim [] fun text => [("cause", text)]
      Routine.log .info "instrument removed"
        ([("instrument_id", r.id), ("kind", r.instrument.kind.name)] ++ given)
      Routine.publish (some r.serial) fun t => .removed r.instrument cause t
      return some r.instrument).runAlone answer e₁).2.Alike e₁ := by
    simp only [Routine.runAlone_bind, Routine.runAlone_log, Routine.runAlone_publish,
      Routine.runAlone_pure]
    exact (Engine.Alike.publish _ _ _).trans
      ((Engine.Alike.log _ _ _ _).trans (alike_reverseLive r cause e₁))
  simp only [removeEntry, Routine.runAlone_bind, Routine.runAlone_update]
  rw [detached]
  simp only [Routine.runAlone_bind, Routine.runAlone_modify]
  cases withFrame with
  | true =>
    rw [if_pos rfl, if_pos rfl, Routine.runAlone_bind]
    exact rest _
  | false => exact rest _

/-- A removal takes its identity out of the registry and changes nothing else there. -/
theorem registry_removeEntry (cause : Option String) (withFrame : Bool) (e : Engine) :
  ((removeEntry x cause withFrame).runAlone answer e).2.registry = (e.registry.detach x).2
  := by
  cases detached : (e.registry.detach x).1 with
  | some r => exact (alike_removeEntry detached cause withFrame).registry
  | none =>
    simp only [removeEntry, Routine.runAlone_bind, Routine.runAlone_update]
    rw [detached]
    rfl

end Lifecycle

end Instrumentation
