import Instrumentation.Proofs.Ensures
import Instrumentation.Proofs.InstallFailure

/-!
# Routines that nothing interrupts, however they are answered

The answers that a transform engine gives may depend on all that has happened before, so that the
same request is granted now and refused later. An operation that nothing interrupts ends under all
such answers, and it is a run in which each call is answered before anything else happens.

What always holds at the end of a routine, whatever its calls are answered, holds at the end of
each such run. There is one rule for each thing that a routine can do. What is logged, published
and asked changes nothing that is kept in a store, and tells what the history goes on with.
-/

namespace Instrumentation

/-- How a transform engine answers, which may depend on all that has happened before. -/
abbrev Responder := Engine → (request : Request) → request.Answer

/-- The responder that always gives the same answer to the same request. -/
def Responder.steady (answer : (request : Request) → request.Answer) : Responder := fun _ => answer

/-! ### What is noted -/

/-- The stores and the time are the same, and the history goes on with some entries. -/
structure Engine.Notes (e' e : Engine) (entries : List Entry) : Prop where
  /-- The registered instruments, the deferred installs and the frames are the same. -/
  alike : e'.Alike e
  /-- The time is the same. -/
  clock : e'.clock = e.clock
  /-- The history goes on. -/
  history : e'.history = e.history ++ entries

namespace Engine.Notes

variable {e e' e'' : Engine} {entries later : List Entry}

/-- Nothing happens. -/
protected theorem refl (e : Engine) :
  e.Notes e []
  := ⟨⟨rfl, rfl, rfl⟩, rfl, (List.append_nil _).symm⟩

/-- Some entries after others. -/
protected theorem trans (h : e''.Notes e' later) (h' : e'.Notes e entries) :
  e''.Notes e (entries ++ later)
  := by
  use h.alike.trans h'.alike, h.clock.trans h'.clock
  rw [h.history, h'.history, List.append_assoc]

/-- A record is not in the history. -/
theorem log (e : Engine) (level : Level) (message : String) (fields : List (String × String)) :
  (e.log level message fields).Notes e []
  := by
  use .log e level message fields, rfl
  rw [List.append_nil]
  exact congrArg View.history (e.view_log level message fields)

/-- An event. -/
theorem publish (e : Engine) (serial : Option Nat) (event : Event) :
  (e.publish serial event).Notes e [.published serial event]
  := by
  use .publish e serial event, e.clock_publish serial event
  exact congrArg View.history (e.view_publish serial event)

/-- A call and its answer. -/
theorem request (e : Engine) (call : Call) (answer : call.request.Answer) :
  ((e.note call.asked).note (call.answered answer)).Notes e [call.asked, call.answered answer]
  := by
  use (Alike.note _ _).trans (.note _ _), rfl
  have view : ((e.note call.asked).note (call.answered answer)).view
      = e.view.add [call.asked, call.answered answer] := by simp
  exact congrArg View.history view

/-- The engine stays sound. -/
theorem sound (h : e'.Notes e entries) (sound : e.Sound) :
  e'.Sound
  := (sound.alike h.alike).sound

/-- Every identity stands as before. -/
theorem standing (h : e'.Notes e entries) (x : InstrumentId) :
  e'.standing x = e.standing x
  := by
  rw [Engine.standing, h.alike.registry, h.alike.retries, h.alike.frames]
  rfl

end Engine.Notes

/-! ### What always holds at the end -/

/-- Calls are answered in any way, and nothing else happens meanwhile. -/
def Handling.any : Handling Unit where
  before _ after γ e := ∀ answer, after answer γ e
  mono h weaker answer := weaker answer _ _ (h answer)

namespace Routine

variable {α β : Type}

/-- The goal holds of the result and the engine at the end, whatever the calls are answered. -/
abbrev Always (goal : α → Engine → Prop) (r : Routine α) (e : Engine) : Prop :=
  r.Ensures .any (fun a _ => goal a) () e

section Always

variable {goal : α → Engine → Prop} {ends : Unit → Engine → Prop} {e : Engine}

/-- Two routines, one after the other. -/
theorem Always.bind {goal : β → Engine → Prop} {r : Routine α} {f : α → Routine β}
    (h : r.Always (fun a e' => (f a).Always goal e') e) :
  (r >>= f).Always goal e
  := ensures_bind.mpr h

/-- A weaker goal. -/
theorem Always.weaken {goal' : α → Engine → Prop} {r : Routine α} (h : r.Always goal e)
    (weaker : ∀ a e', goal a e' → goal' a e') :
  r.Always goal' e
  := h.mono fun a _ e' => weaker a e'

/-- A record in the log. -/
theorem always_log {level : Level} {message : String} {fields : List (String × String)}
    (h : ∀ e', e'.Notes e [] → ends () e') :
  (log level message fields).Always ends e
  := h _ (.log e level message fields)

/-- An event. -/
theorem always_publish {serial : Option Nat} {event : Instant → Event}
    (h : ∀ e', e'.Notes e [.published serial (event e.clock)] → ends () e') :
  (publish serial event).Always ends e
  := h _ (.publish e serial (event e.clock))

/-- A call. -/
theorem always_request {call : Call} {goal : call.request.Answer → Engine → Prop}
    (h : ∀ answer e', e'.Notes e [call.asked, call.answered answer] → goal answer e') :
  (request call).Always goal e
  := fun answer => h answer _ (.request e call answer)

end Always

/-! ### Runs -/

/-- The run of a routine that nothing interrupts. -/
def runBy (respond : Responder) : Routine α → Engine → α × Engine
  | done a, e => (a, e)
  | read next, e => (next e).runBy respond e
  | write e next, _ => next.runBy respond e
  | ask call next, e => (next (respond e call.request)).runBy respond e

/-- One routine after another. -/
theorem runBy_bind (respond : Responder) (r : Routine α) (f : α → Routine β) (e : Engine) :
  (r >>= f).runBy respond e
    = (f (r.runBy respond e).1).runBy respond (r.runBy respond e).2
  := by
  change (r.bind f).runBy respond e = _
  induction r generalizing e with
  | done a => rfl
  | read next ih => apply ih
  | write e' next ih => apply ih
  | ask call next ih => apply ih

/-- What always holds at the end holds at the end of a run. -/
theorem Always.runBy {goal : α → Engine → Prop} {r : Routine α} {e : Engine}
    (h : r.Always goal e) (respond : Responder) :
  goal (r.runBy respond e).1 (r.runBy respond e).2
  := by
  induction r generalizing e with
  | done a => exact h
  | read next ih => apply ih _ h
  | write e' next ih => apply ih h
  | ask call next ih => apply ih _ (h _)

end Routine

/-- What an operation answers that nothing interrupts, and the engine that it leaves. -/
def Engine.conclude (e : Engine) (respond : Responder) (op : Operation) : op.Result × Engine :=
  op.routine.runBy respond e

/-- Where the same request is always answered in the same way, the run is a function of the
answers. -/
theorem Routine.runBy_steady {α : Type} (answer : (request : Request) → request.Answer)
    (r : Routine α) (e : Engine) :
  r.runBy (.steady answer) e = r.runAlone answer e
  := by
  induction r generalizing e with
  | done a => rfl
  | read next ih => apply ih
  | write e' next ih => apply ih
  | ask call next ih => apply ih

/-! ### Runs in sessions -/

namespace Conduct

/-- What waits for no one but the transform engine can go on to its end. -/
theorem run_proceed {c : Conduct} (all : ∀ v call answer, c.answers v call answer)
    (respond : Responder) {op : Operation} (waiting : List Pending)
    (finished : List ((op : Operation) × op.Result)) (r : Routine op.Result) (e : Engine) :
  c.Run (Session.proceed op waiting finished r e)
    { engine := (r.runBy respond e).2, waiting
      finished := ⟨op, (r.runBy respond e).1⟩ :: finished }
  := by
  induction r generalizing e with
  | done a => exact .refl
  | read next ih => apply ih
  | write e' next ih => apply ih
  | ask call next ih =>
    have answered := Step.reply e ⟨op, call, next⟩ waiting finished (respond e call.request)
      (all e.view call _)
    exact .head answered (ih _ e)

/-- Where one operation runs after another, an operation starts and goes on to its end. -/
theorem Run.conclude {s₀ s : Session} (run : successive.Run s₀ s) (idle : s.calls = [])
    (respond : Responder) (op : Operation) :
  successive.Run s₀
    { engine := (s.engine.conclude respond op).2, waiting := s.waiting
      finished := ⟨op, (s.engine.conclude respond op).1⟩ :: s.finished }
  := (run.tail (.start s op idle)).trans
    (run_proceed (fun _ _ _ => trivial) respond s.waiting s.finished op.routine s.engine)

end Conduct

end Instrumentation
