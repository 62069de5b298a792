import Instrumentation.Engine

/-!
# Routines

A routine is a computation on an engine that may stop to ask the transform engine. Between two
questions it has the engine for itself; while it waits for an answer, other routines may run on
the same engine, so that it finds a changed engine when it goes on.

Routines form a monad whose laws hold on the nose.
-/

namespace Instrumentation

/-- A computation on an engine that may stop to ask the transform engine. -/
inductive Routine (α : Type) where
  /-- The end, with a result. -/
  | done (a : α)
  /-- A look at the engine. -/
  | read (next : Engine → Routine α)
  /-- A change of the engine. -/
  | write (e : Engine) (next : Routine α)
  /-- A question to the transform engine. -/
  | ask (call : Call) (next : call.request.Answer → Routine α)

namespace Routine

variable {α β : Type}

/-- One routine after another, which depends on the result of the first. -/
def bind : Routine α → (α → Routine β) → Routine β
  | done a, f => f a
  | read next, f => read fun e => (next e).bind f
  | write e next, f => write e (next.bind f)
  | ask call next, f => ask call fun answer => (next answer).bind f

instance : Monad Routine where
  pure := done
  bind := bind

/-- A routine followed by its own end. -/
theorem bind_done (r : Routine α) :
  r.bind done = r
  := by
  induction r with
  | done a => rfl
  | read next ih => simp only [bind, ih]
  | write e next ih => simp only [bind, ih]
  | ask call next ih => simp only [bind, ih]

/-- Three routines one after another. -/
theorem bind_assoc {γ : Type} (r : Routine α) (f : α → Routine β) (g : β → Routine γ) :
  (r.bind f).bind g = r.bind fun a => (f a).bind g
  := by
  induction r with
  | done a => rfl
  | read next ih => simp only [bind, ih]
  | write e next ih => simp only [bind, ih]
  | ask call next ih => simp only [bind, ih]

instance : LawfulMonad Routine :=
  LawfulMonad.mk' Routine
    (fun r => bind_done r)
    (fun _ _ => rfl)
    (fun r f g => bind_assoc r f g)

/-- The engine as it is. -/
def engine : Routine Engine := read done

/-- A part of the engine as it is. -/
def gets (f : Engine → α) : Routine α := read fun e => done (f e)

/-- A change of the engine. -/
def modify (f : Engine → Engine) : Routine Unit := read fun e => write (f e) (done ())

/-- A change of the engine with a result. -/
def update (f : Engine → α × Engine) : Routine α :=
  read fun e => write (f e).2 (done (f e).1)

/-- A call, noted in the journal with its answer. -/
def request (call : Call) : Routine call.request.Answer :=
  read fun e =>
    write (e.note (.asked call.registration.serial call.request)) <|
      ask call fun answer =>
        read fun e =>
          write (e.note (.answered call.registration.serial call.request answer)) (done answer)

/-- A record in the log. -/
def log (level : Level) (message : String) (fields : List (String × String)) : Routine Unit :=
  modify fun e => e.log level message fields

/-- An event stamped with the time of the clock. -/
def publish (serial : Option Nat) (event : Instant → Event) : Routine Unit :=
  modify fun e => e.publish serial (event e.clock)

/-- The run of a routine, on an engine that the answers to its questions may change. -/
def run {m : Type → Type} [Monad m] [MonadStateOf Engine m]
    (answer : (request : Request) → m request.Answer) : Routine α → m α
  | done a => pure a
  | read next => do (next (← getThe Engine)).run answer
  | write e next => do
    set e
    next.run answer
  | ask call next => do (next (← answer call.request)).run answer

/-- The run of a routine that nothing interrupts, with answers that are a function of the
request. -/
def runAlone (answer : (request : Request) → request.Answer) : Routine α → Engine → α × Engine
  | done a, e => (a, e)
  | read next, e => (next e).runAlone answer e
  | write e next, _ => next.runAlone answer e
  | ask call next, e => (next (answer call.request)).runAlone answer e

end Routine

end Instrumentation
