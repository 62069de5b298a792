import Instrumentation.Proofs.Session
import Instrumentation.Proofs.Sound

/-!
# What a routine ensures

A routine ensures a goal when it reaches its end in a state where the goal holds, whatever its
calls are answered. What may happen to the engine while a call waits is a parameter, given by what
must hold when the call is made so that a condition holds whenever it is answered. The state has,
besides the engine, a part that no routine reads.

Most of what a routine writes is of no concern to an install: records, frames, and announcements
that no instrument was applied.
-/

namespace Instrumentation

/-! ### What is of no concern -/

/-- The entry is about no attempt to install, and about no success of one. -/
def Entry.IsAside : Entry → Prop
  | asked _ (.resolve _) => False
  | asked _ (.patch _ _) => False
  | published _ (.applied _ _) => False
  | _ => True

/-- The registered instruments and the deferred installs are the same, and the history goes on with
entries of no concern. -/
structure Engine.Quiet (e' e : Engine) : Prop where
  /-- The registered instruments are the same. -/
  registry : e'.registry = e.registry
  /-- The deferred installs are the same. -/
  retries : e'.retries = e.retries
  /-- The entries that were added are of no concern. -/
  adds : ∃ entries, e'.history = e.history ++ entries ∧ ∀ entry ∈ entries, entry.IsAside

namespace Engine.Quiet

variable {e e' e'' : Engine}

/-- Nothing but the clock, the frames and the channel has changed. -/
theorem of_same (registry : e'.registry = e.registry) (retries : e'.retries = e.retries)
    (journal : e'.journal = e.journal) :
  e'.Quiet e
  := by
  use registry, retries, []
  constructor
  · rw [history, history, journal, List.append_nil]
  · simp

/-- An engine that has not changed. -/
protected theorem refl (e : Engine) :
  e.Quiet e
  := of_same rfl rfl rfl

/-- One change after another. -/
protected theorem trans (h : e''.Quiet e') (h' : e'.Quiet e) :
  e''.Quiet e
  := by
  obtain ⟨entries, adds, aside⟩ := h.adds
  obtain ⟨earlier, adds', aside'⟩ := h'.adds
  use h.registry.trans h'.registry, h.retries.trans h'.retries, earlier ++ entries
  constructor
  · rw [adds, adds', List.append_assoc]
  · intro entry mem
    rcases List.mem_append.mp mem with mem | mem
    · apply aside' entry mem
    · apply aside entry mem

/-- An entry of no concern. -/
theorem note (e : Engine) {entry : Entry} (seen : entry.isSeen = true) (aside : entry.IsAside) :
  (e.note entry).Quiet e
  := by
  use rfl, rfl, [entry]
  constructor
  · exact congrArg View.history (e.view_note entry seen)
  · simpa using aside

/-- An answer. -/
theorem answered (e : Engine) (call : Call) (answer : call.request.Answer) :
  (e.note (call.answered answer)).Quiet e
  := note e rfl trivial

/-- A record. -/
theorem log (e : Engine) (level : Level) (message : String) (fields : List (String × String)) :
  (e.log level message fields).Quiet e
  := by
  use rfl, rfl, []
  constructor
  · rw [List.append_nil]
    exact congrArg View.history (e.view_log level message fields)
  · simp

/-- An event of no concern. -/
theorem publish (e : Engine) {serial : Option Nat} {event : Event}
    (aside : (Entry.published serial event).IsAside) :
  (e.publish serial event).Quiet e
  := by
  have same : (e.publish serial event).Alike e := .publish e serial event
  use same.registry, same.retries, [.published serial event]
  constructor
  · exact congrArg View.history (e.view_publish serial event)
  · simpa using aside

/-- The frames change. -/
theorem frames (e : Engine) (s : FrameStore) :
  ({ e with frames := s } : Engine).Quiet e
  := of_same rfl rfl rfl

end Engine.Quiet

/-- The registry succeeds the one before when nothing of concern happens. -/
theorem Engine.Sound.quiet {e e' : Engine} (h : e.Sound) (quiet : e'.Quiet e) :
  e'.Succeeds e
  := h.keep quiet.registry

/-! ### Calls and their answers -/

/-- What must hold when a call is made, so that a condition holds when it is answered. -/
structure Handling (Γ : Type) where
  /-- The condition on the state of the call. -/
  before (call : Call) (after : call.request.Answer → Γ → Engine → Prop) : Γ → Engine → Prop
  /-- A weaker condition needs no more. -/
  mono {call : Call} {after after' : call.request.Answer → Γ → Engine → Prop} {γ : Γ} {e : Engine}
    (h : before call after γ e) (weaker : ∀ answer γ e, after answer γ e → after' answer γ e) :
    before call after' γ e

namespace Routine

variable {Γ α β : Type}

/-- The goal holds of the result and the state at the end of the routine. -/
def Ensures (T : Handling Γ) (goal : α → Γ → Engine → Prop) : Routine α → Γ → Engine → Prop
  | done a, γ, e => goal a γ e
  | read next, γ, e => (next e).Ensures T goal γ e
  | write e' next, γ, _ => next.Ensures T goal γ e'
  | ask call next, γ, e =>
    T.before call (fun answer γ' e' => (next answer).Ensures T goal γ' e') γ e

section Rules

variable {T : Handling Γ} {γ : Γ} {e : Engine}

/-- Two routines, one after the other. -/
theorem ensures_bind {goal : β → Γ → Engine → Prop} {r : Routine α} {f : α → Routine β} :
  (r >>= f).Ensures T goal γ e ↔ r.Ensures T (fun a γ' e' => (f a).Ensures T goal γ' e') γ e
  := by
  change (r.bind f).Ensures T goal γ e ↔ _
  induction r generalizing γ e with
  | done a => rfl
  | read next ih => apply ih
  | write e' next ih => apply ih
  | ask call next ih =>
    constructor
    · intro h
      apply T.mono h
      intro answer γ' e'
      apply (ih answer).mp
    · intro h
      apply T.mono h
      intro answer γ' e'
      apply (ih answer).mpr

/-- A weaker goal. -/
theorem Ensures.mono {goal goal' : α → Γ → Engine → Prop} {r : Routine α}
    (h : r.Ensures T goal γ e) (weaker : ∀ a γ e, goal a γ e → goal' a γ e) :
  r.Ensures T goal' γ e
  := by
  induction r generalizing γ e with
  | done a => apply weaker _ _ _ h
  | read next ih => apply ih _ h
  | write e' next ih => apply ih h
  | ask call next ih =>
    apply T.mono h
    intro answer γ' e' h
    apply ih answer h

/-- A look at the engine. -/
theorem ensures_gets {goal : α → Γ → Engine → Prop} {f : Engine → α} (h : goal (f e) γ e) :
  (gets f).Ensures T goal γ e
  := h

/-- A change of the engine. -/
theorem ensures_modify {goal : Unit → Γ → Engine → Prop} {f : Engine → Engine}
    (h : goal () γ (f e)) :
  (modify f).Ensures T goal γ e
  := h

/-- A change of the engine with a result. -/
theorem ensures_update {goal : α → Γ → Engine → Prop} {f : Engine → α × Engine}
    (h : goal (f e).1 γ (f e).2) :
  (update f).Ensures T goal γ e
  := h

/-- A record in the log. -/
theorem ensures_log {goal : Unit → Γ → Engine → Prop} {level : Level} {message : String}
    {fields : List (String × String)} (h : ∀ e', e'.Quiet e → goal () γ e') :
  (log level message fields).Ensures T goal γ e
  := h _ (.log e level message fields)

/-- An event of no concern. -/
theorem ensures_publish {goal : Unit → Γ → Engine → Prop} {serial : Option Nat}
    {event : Instant → Event} (aside : (Entry.published serial (event e.clock)).IsAside)
    (h : ∀ e', e'.Quiet e → goal () γ e') :
  (publish serial event).Ensures T goal γ e
  := h _ (.publish e aside)

/-- A call. -/
theorem ensures_request {call : Call} {goal : call.request.Answer → Γ → Engine → Prop}
    (h : T.before call (fun answer γ' e' => ∀ e'', e''.Quiet e' → goal answer γ' e'') γ
      (e.note call.asked)) :
  (request call).Ensures T goal γ e
  := by
  apply T.mono h
  intro answer γ' e' goes
  exact goes _ (.answered e' call answer)

/-- An identity is detached. -/
theorem ensures_detach {goal : Option Registration → Γ → Engine → Prop} {x : InstrumentId}
    (h : goal (e.registry.detach x).1 γ { e with registry := (e.registry.detach x).2 }) :
  (update fun e =>
    let (detached, registry) := e.registry.detach x
    (detached, { e with registry })).Ensures T goal γ e
  := h

end Rules

end Routine

end Instrumentation
