import Instrumentation.Proofs.View
import Mathlib.Logic.Relation

/-!
# Sessions

In a session operations run on one engine. An operation goes on by itself up to its next call to
the transform engine, and waits there for the answer. While it waits, other operations may be
started, which wait in turn for their own calls, to any depth; the call that was made last is
answered first. Meanwhile time passes, frames are captured, and receivers come and go.

A conduct says which operations may start and which answers may be given. What can happen under
a conduct is a step relation, and a run is a finite sequence of steps.
-/

namespace Instrumentation

/-- An operation that others perform on an engine. -/
inductive Operation where
  /-- The install of an instrument. -/
  | install (i : Instrument)
  /-- The removal of an identity for a cause. -/
  | removeById (id : InstrumentId) (cause : Option String)
  /-- The removal of an identity, or of every instrument at a location. -/
  | remove (query : Location) (id : Option InstrumentId)
  /-- A pass through the patch point. -/
  | hit (id : InstrumentId)
  /-- The removal of what has expired. -/
  | sweep (now : Instant)
  /-- An attempt for each deferred install that is due. -/
  | retryDue (now : Instant)
  /-- A sweep, then the attempts that are due. -/
  | tick (now : Instant)
  /-- A command given as a value. -/
  | handle (raw : Json)
  /-- A command given as text. -/
  | handleText (text : String)
  /-- Everything is dropped. -/
  | clear

namespace Operation

/-- What an operation answers to those who perform it. -/
abbrev Result : Operation → Type
  | install _ => Except InstrumentError Instrument
  | removeById _ _ => Option Instrument
  | remove _ _ => List Instrument
  | hit _ => Bool
  | sweep _ => Nat
  | retryDue _ => Nat
  | tick _ => TickReport
  | handle _ => Except InstrumentError Outcome
  | handleText _ => Except InstrumentError Outcome
  | clear => Unit

/-- What an operation does. -/
def routine : (op : Operation) → Routine op.Result
  | install i => Lifecycle.install i
  | removeById id cause => Lifecycle.removeById id cause
  | remove query id => Lifecycle.remove query id
  | hit id => Lifecycle.hit id
  | sweep now => Lifecycle.sweep now
  | retryDue now => Lifecycle.retryDue now
  | tick now => Lifecycle.tick now
  | handle raw => Control.handle raw
  | handleText text => Control.handleText text
  | clear => Lifecycle.clear

end Operation

/-- An operation that waits for the answer to a call. -/
structure Pending where
  /-- The operation. -/
  op : Operation
  /-- The call. -/
  call : Call
  /-- What is left of the operation. -/
  resume : call.request.Answer → Routine op.Result

/-- An engine with the operations on it. -/
structure Session where
  /-- The engine. -/
  engine : Engine
  /-- The operations that wait, the one that was interrupted last first. -/
  waiting : List Pending
  /-- The operations that are over with their results, the last one first. -/
  finished : List ((op : Operation) × op.Result)

namespace Session

/-- The session on an engine without operations. -/
def idle (e : Engine) : Session := { engine := e, waiting := [], finished := [] }

/-- The calls that wait for an answer, the last one first. -/
def calls (s : Session) : List Call := s.waiting.map Pending.call

/-- An operation run up to its next call, or to its end. -/
def proceed (op : Operation) (waiting : List Pending)
    (finished : List ((op : Operation) × op.Result)) : Routine op.Result → Engine → Session
  | .done a, e => { engine := e, waiting, finished := ⟨op, a⟩ :: finished }
  | .read next, e => proceed op waiting finished (next e) e
  | .write e next, _ => proceed op waiting finished next e
  | .ask call next, e =>
    { engine := e, waiting := { op, call, resume := next } :: waiting, finished }

/-- The session once an operation has started. -/
def start (s : Session) (op : Operation) : Session :=
  proceed op s.waiting s.finished op.routine s.engine

end Session

/-- An answer that grants what is requested, or does not. -/
def Call.grant (granted : Bool) : (call : Call) → call.request.Answer
  | resolve _ => granted
  | patch _ => if granted then .ok () else .error (.internal "refused")
  | restore _ => if granted then .ok () else .error (.internal "refused")
  | withdraw _ => if granted then .ok () else .error (.internal "refused")

/-- A breakpoint in a unit, without conditions and limits. -/
def Instrument.breakpointIn (unit : String) : Instrument :=
  .new "a" { unit, line := 1 } (.breakpoint none)

/-- What others do in a session. -/
inductive Action where
  /-- They start an operation. -/
  | start (op : Operation)
  /-- They answer the call that was made last. -/
  | reply (granted : Bool)

namespace Session

/-- The session after an action. An answer that no call waits for is ignored. -/
def act (s : Session) : Action → Session
  | .start op => s.start op
  | .reply granted =>
    match s.waiting with
    | [] => s
    | p :: waiting => proceed p.op waiting s.finished (p.resume (p.call.grant granted)) s.engine

/-- The session after one action after another. -/
def play (s : Session) : List Action → Session
  | [] => s
  | action :: rest => (s.act action).play rest

end Session

/-- The operations that may start while calls wait for their answers. -/
abbrev Starts := View → List Call → Operation → Prop

/-- The answers that calls may be given. -/
abbrev Answers := View → (call : Call) → call.request.Answer → Prop

/-- What may happen in a session. -/
structure Conduct where
  /-- The operations that may start. -/
  starts : Starts
  /-- The answers that calls may be given. -/
  answers : Answers

namespace Conduct

/-- One thing that happens in a session. -/
inductive Step (c : Conduct) : Session → Session → Prop where
  /-- Time passes, frames are captured, and receivers come and go. -/
  | drift (s : Session) (clock : Instant) (frames : FrameStore)
      (emitter : Option (Emitter Event)) :
      Step c s { s with engine := { s.engine with clock, frames, emitter } }
  /-- An operation starts. -/
  | start (s : Session) (op : Operation) (h : c.starts s.engine.view s.calls op) :
      Step c s (s.start op)
  /-- The call that was made last is answered. -/
  | reply (e : Engine) (p : Pending) (waiting : List Pending)
      (finished : List ((op : Operation) × op.Result)) (answer : p.call.request.Answer)
      (h : c.answers e.view p.call answer) :
      Step c { engine := e, waiting := p :: waiting, finished }
        (Session.proceed p.op waiting finished (p.resume answer) e)

/-- A finite sequence of steps. -/
abbrev Run (c : Conduct) : Session → Session → Prop := Relation.ReflTransGen c.Step

/-- An action is allowed under a conduct. -/
def Allows (c : Conduct) (s : Session) : Action → Prop
  | .start op => c.starts s.engine.view s.calls op
  | .reply granted =>
    match s.waiting with
    | [] => True
    | p :: _ => c.answers s.engine.view p.call (p.call.grant granted)

/-- An action that is allowed happens. -/
theorem Allows.run {c : Conduct} {s : Session} {action : Action} (allowed : c.Allows s action) :
  c.Run s (s.act action)
  := by
  cases action with
  | start op => exact .single (.start s op allowed)
  | reply granted =>
    obtain ⟨e, waiting, finished⟩ := s
    cases waiting with
    | nil => exact .refl
    | cons p waiting => exact .single (.reply e p waiting finished (p.call.grant granted) allowed)

/-- Actions that are allowed one after another. -/
def AllowsAll (c : Conduct) : Session → List Action → Prop
  | _, [] => True
  | s, action :: rest => c.Allows s action ∧ c.AllowsAll (s.act action) rest

/-- Actions that are allowed one after another are a run. -/
theorem AllowsAll.run {c : Conduct} {actions : List Action} {s : Session}
    (allowed : c.AllowsAll s actions) :
  c.Run s (s.play actions)
  := by
  induction actions generalizing s with
  | nil => exact .refl
  | cons action rest ih => apply allowed.1.run.trans (ih allowed.2)

/-- Operations run inside each other to any depth, and calls are answered in any way. Nothing
is dropped as a whole. -/
def reentrant : Conduct where
  starts _ _ op := op ≠ .clear
  answers _ _ _ := True

/-- One operation runs after another, and calls are answered in any way. Nothing is dropped as
a whole. -/
def sequential : Conduct where
  starts _ calls op := calls = [] ∧ op ≠ .clear
  answers _ _ _ := True

/-- What waits goes on, and nothing else starts. -/
def finishing : Conduct where
  starts _ _ _ := False
  answers _ _ _ := True

/-- A conduct with fewer answers. -/
def answering (c : Conduct) (may : Answers) : Conduct where
  starts := c.starts
  answers v call answer := c.answers v call answer ∧ may v call answer

end Conduct

end Instrumentation
