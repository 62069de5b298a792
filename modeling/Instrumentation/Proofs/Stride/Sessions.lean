import Instrumentation.Proofs.Stride.Operations

/-!
# Strides in sessions

Whatever operations run inside each other, an operation that waits finds an engine that succeeds
the one it left. So every answer in a session is the origin of a stride, and of an operation that
was started after some time the strides are known with the registry of that time.
-/

namespace Instrumentation

open Routine

/-- An operation goes on by strides with its own aim. -/
theorem Operation.strides {g : Registry} {e : Engine} (w : g.WellKept) (sound : e.Sound)
    (later : e.registry.Succeeds g) (op : Operation) :
  op.routine.Strides g op.aim (Ended g op.aim) ⟨none, e⟩ e
  := by
  have removes := Origin.removes_start e
  have h : Stride g op.aim ⟨none, e⟩ e none := .start sound later
  have aims : ∀ i, op.aim.removes i → op.aim.removes i := fun _ aimed => aimed
  cases op with
  | install i => apply Lifecycle.strides_install trivial h
  | removeById x cause =>
    have doomed : g.Doomed (Operation.removeById x cause).aim e.registry x :=
      Lifecycle.doomed_of_id w aims
    exact (Lifecycle.strides_removeById removes h doomed).ends id
  | remove query x => exact (Lifecycle.strides_remove w query x removes h aims).ends id
  | hit x => apply Lifecycle.strides_hit w removes h aims
  | sweep now => exact (Lifecycle.strides_sweep w removes h aims).ends id
  | retryDue now => apply Lifecycle.strides_retryDue trivial removes h
  | tick now => apply Lifecycle.strides_tick w trivial removes h aims
  | handle raw => apply Control.strides_handle w removes h
  | handleText text => apply Control.strides_handleText w removes h
  | clear => apply Lifecycle.strides_clear removes h fun _ => trivial

/-- An operation that waits goes on by strides from any engine that succeeds the given one, and
waits for an install only if it may install. -/
def Pending.Strides (g : Registry) (e : Engine) (p : Pending) : Prop :=
  (p.call.IsWithdrawal ∨ p.op.aim.installs) ∧ ∀ answer e', e'.Succeeds e
    → (p.resume answer).Strides g p.op.aim (Ended g p.op.aim) ⟨some ⟨p.call, answer⟩, e'⟩ e'

/-- An operation that waits does so in later engines. -/
theorem Pending.Strides.succeed {g : Registry} {e e' : Engine} {p : Pending} (h : p.Strides g e)
    (later : e'.Succeeds e) :
  p.Strides g e'
  := ⟨h.1, fun answer e'' later' => h.2 answer e'' (later'.trans later)⟩

namespace Session

/-- An operation that goes on by strides makes one, and is over or waits for its next call. -/
theorem proceed_strides {g : Registry} {op : Operation} {o : Origin} {e : Engine}
    {r : Routine op.Result} (waiting : List Pending)
    (finished : List ((op : Operation) × op.Result))
    (h : r.Strides g op.aim (Ended g op.aim) o e) :
  ∃ next, Stride g op.aim o (proceed op waiting finished r e).engine next
    ∧ ((next = none ∧ (proceed op waiting finished r e).waiting = waiting)
      ∨ ∃ q, next = some q.call ∧ (proceed op waiting finished r e).waiting = q :: waiting
        ∧ q.Strides g (proceed op waiting finished r e).engine)
  := by
  induction r generalizing e with
  | done a => exact ⟨none, h, .inl ⟨rfl, rfl⟩⟩
  | read next ih => apply ih e h
  | write e' next ih => apply ih h
  | ask call next ih =>
    obtain ⟨may, stride, goesOn⟩ := h
    exact ⟨some call, stride, .inr ⟨{ op, call, resume := next }, rfl, rfl, may, goesOn⟩⟩

/-- A session that has come from another one. All that waits goes on by strides, and what waits on
top of as many operations as waited then was started since. -/
structure Since (s s₀ : Session) : Prop where
  /-- The engine succeeds the one of that time. -/
  succeeds : s.engine.Succeeds s₀.engine
  /-- Operations go on by strides, with the registry of that time if they were started since. -/
  strides : ∀ {p below}, p :: below <:+ s.waiting
    → ∃ g, p.Strides g s.engine
      ∧ (s₀.waiting.length ≤ below.length → g = s₀.engine.registry)

namespace Since

variable {s s' s₀ : Session}

/-- An operation goes on where the others wait. -/
theorem proceed {g : Registry} {op : Operation} {waiting : List Pending} {o : Origin} {e : Engine}
    {r : Routine op.Result} (finished : List ((op : Operation) × op.Result))
    (h : r.Strides g op.aim (Ended g op.aim) o e) (succeeds : o.engine.Succeeds s₀.engine)
    (started : s₀.waiting.length ≤ waiting.length → g = s₀.engine.registry)
    (others : ∀ {p below}, p :: below <:+ waiting → ∃ g, p.Strides g o.engine
      ∧ (s₀.waiting.length ≤ below.length → g = s₀.engine.registry)) :
  (proceed op waiting finished r e).Since s₀
  := by
  have wait {e' : Engine} (later : e'.Succeeds o.engine) {p : Pending} {below : List Pending}
      (mem : p :: below <:+ waiting) : ∃ g, p.Strides g e'
        ∧ (s₀.waiting.length ≤ below.length → g = s₀.engine.registry) := by
    obtain ⟨g, strides, known⟩ := others mem
    exact ⟨g, strides.succeed later, known⟩
  obtain ⟨next, stride, ends⟩ := proceed_strides waiting finished h
  constructor
  · exact stride.succeeds.trans succeeds
  · intro p below mem
    rcases ends with ⟨-, waits⟩ | ⟨q, -, waits, goesOn⟩
    · rw [waits] at mem
      exact wait stride.succeeds mem
    · rw [waits, List.suffix_cons_iff] at mem
      rcases mem with same | mem
      · obtain ⟨rfl, rfl⟩ := List.cons.inj same
        exact ⟨g, goesOn, started⟩
      · exact wait stride.succeeds mem

/-- An answer is the origin of a stride, with the registry of that time if the operation was started
since. -/
theorem stride {e : Engine} {p : Pending} {waiting : List Pending}
    {finished : List ((op : Operation) × op.Result)}
    (h : Since { engine := e, waiting := p :: waiting, finished } s₀)
    (answer : p.call.request.Answer) :
  ∃ g next, (p.call.IsWithdrawal ∨ p.op.aim.installs)
    ∧ Stride g p.op.aim ⟨some ⟨p.call, answer⟩, e⟩
      (Session.proceed p.op waiting finished (p.resume answer) e).engine next
    ∧ (s₀.waiting.length ≤ waiting.length → g = s₀.engine.registry)
    ∧ ((Session.proceed p.op waiting finished (p.resume answer) e).waiting = waiting → next = none)
  := by
  obtain ⟨g, strides, started⟩ := h.strides List.suffix_rfl
  have goesOn := strides.2 answer e (.refl h.succeeds.sound)
  obtain ⟨next, stride, ends⟩ := proceed_strides waiting finished goesOn
  use g, next, strides.1, stride, started
  intro same
  rcases ends with ⟨ended, -⟩ | ⟨q, -, waits, -⟩
  · exact ended
  · have longer := congrArg List.length (waits.symm.trans same)
    simp at longer

/-- One thing more happens. -/
theorem step {c : Conduct} (sound : s₀.engine.Sound) (h : s.Since s₀) (step : c.Step s s') :
  s'.Since s₀
  := by
  cases step with
  | drift _ clock frames emitter =>
    have later : ({ s.engine with clock, frames, emitter } : Engine).Succeeds s.engine :=
      h.succeeds.sound.keep rfl
    constructor
    · exact later.trans h.succeeds
    · intro p below mem
      obtain ⟨g, strides, known⟩ := h.strides mem
      exact ⟨g, strides.succeed later, known⟩
  | start _ op may =>
    have strides := op.strides sound.wellKept h.succeeds.sound h.succeeds.registry
    exact .proceed s.finished strides h.succeeds (fun _ => rfl) h.strides
  | reply e p waiting finished answer may =>
    obtain ⟨g, strides, started⟩ := h.strides List.suffix_rfl
    apply Since.proceed finished (strides.2 answer e (.refl h.succeeds.sound)) h.succeeds started
    -- those below keep their places when the top of the stack is taken off
    intro q below mem
    exact h.strides (mem.trans (List.suffix_cons p waiting))

/-- More things happen. -/
theorem run {c : Conduct} (sound : s₀.engine.Sound) (h : s.Since s₀) (run : c.Run s s') :
  s'.Since s₀
  := by
  induction run with
  | refl => exact h
  | tail _ step ih => exact ih.step sound step

end Since

end Session

namespace Conduct

variable {c : Conduct} {settings : Settings} {clock : Instant} {s s' : Session}

/-- All that waits in a run goes on by strides. -/
theorem Run.since (run : c.Run (.idle (.new settings clock)) s) :
  s.Since (.idle (.new settings clock))
  := by
  have sound := Engine.Sound.new settings clock
  apply Session.Since.run sound _ run
  use .refl sound
  intro p below mem
  cases List.suffix_nil.mp mem

/-- Between two times of a run. -/
theorem Run.since_later (run : c.Run (.idle (.new settings clock)) s) (later : c.Run s s') :
  s'.Since s
  := by
  have sound := run.since.succeeds.sound
  apply Session.Since.run sound _ later
  use .refl sound
  intro p below mem
  obtain ⟨g, strides, -⟩ := run.since.strides mem
  use g, strides
  intro deep
  have below_lt : below.length < s.waiting.length := mem.length_le
  omega

end Conduct

end Instrumentation
