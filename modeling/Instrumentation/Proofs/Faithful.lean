import Instrumentation.Proofs.Ensures.Operations

/-!
# Registrations that do what their instruments ask

A registration carries what was made of its instrument when it was registered: the condition that was
read, the hit limit, and the rate window. A hit counts in the throttle and may open the window anew,
but leaves the limits as the instrument asks for them. No instrument stays registered once its last
hit was seen, for it is removed before anything else happens. So between any two calls every
registration is faithful, in every session.
-/

namespace Instrumentation

/-! ### Registrations -/

/-- The throttle has the limits that are asked for, after any hits. -/
structure Throttle.Keeps (t : Throttle) (hitLimit : Option UInt32) (rate : Option Rate) : Prop where
  /-- The limit on all hits. -/
  limit : t.hitLimit = hitLimit.map UInt32.toNat
  /-- The limit and the step of the rate window. -/
  window : t.window.map (fun w => (w.limit, w.step))
    = rate.map fun q => (q.limit.toNat, q.step.millis)

/-- A throttle has the limits that it is made with. -/
theorem Throttle.keeps_new (hitLimit : Option UInt32) (rate : Option Rate) :
  (new hitLimit rate).Keeps hitLimit rate
  := by
  constructor
  · rfl
  · cases rate <;> rfl

/-- A window that lets a hit pass, or does not, keeps its limit and its step. -/
theorem RateWindow.pass_keeps (w : RateWindow) (now : Int) :
  (w.pass now).2.limit = w.limit ∧ (w.pass now).2.step = w.step
  := by
  have refreshed : (w.refresh now).limit = w.limit ∧ (w.refresh now).step = w.step := by
    rw [refresh]
    split
    · exact ⟨rfl, rfl⟩
    · exact ⟨rfl, rfl⟩
  rw [pass]
  split
  · exact refreshed
  · exact refreshed

/-- A hit leaves the limits. -/
theorem Throttle.Keeps.allow {t : Throttle} {hitLimit : Option UInt32} {rate : Option Rate}
    (h : t.Keeps hitLimit rate) (now : Int) :
  (t.allow now).2.Keeps hitLimit rate
  := by
  rw [Throttle.allow]
  split
  · exact h
  · split
    next => exact ⟨h.limit, h.window⟩
    next w windowed =>
      obtain ⟨limit, step⟩ := w.pass_keeps now
      have window : (some (w.pass now).2).map (fun w => (w.limit, w.step))
          = rate.map fun q => (q.limit.toNat, q.step.millis) := by
        rw [← h.window, windowed, Option.map_some, Option.map_some, limit, step]
      dsimp only
      split
      · exact ⟨h.limit, window⟩
      · exact ⟨h.limit, window⟩

/-- The registration is what was made of its instrument, after hits that were not the last one. -/
structure Registration.Faithful (r : Registration) : Prop where
  /-- The condition is that of the instrument. -/
  candidate : Candidate.ofInstrument r.instrument = .ok ⟨r.instrument, r.predicate⟩
  /-- The limits are those of the instrument. -/
  throttle : r.throttle.Keeps r.instrument.hitLimit r.instrument.rate
  /-- The last hit was not seen. -/
  undone : r.isDone = false

/-- The registration of an instrument is faithful. -/
theorem Registration.faithful_ofCandidate {i : Instrument} {c : Candidate} (n : Nat)
    (valid : Candidate.ofInstrument i = .ok c) :
  (ofCandidate n c).Faithful
  := by
  obtain rfl := Candidate.instrument_of valid
  exact ⟨valid, Throttle.keeps_new _ _, rfl⟩

/-! ### Registries -/

/-- The registry is well kept, and so is what was made of each of its instruments. -/
structure Registry.Faithful (g : Registry) : Prop where
  /-- The registry is well kept. -/
  wellKept : g.WellKept
  /-- The registrations are faithful. -/
  faithful : ∀ x r, g.get? x = some r → r.Faithful

namespace Registry.Faithful

variable {g g' : Registry} {x : InstrumentId} {r : Registration}

/-- No registrations. -/
protected theorem empty :
  empty.Faithful
  := by
  use .empty
  intro x r found
  simp [Registry.empty, get?] at found

/-- A detachment. -/
protected theorem detach (h : g.Faithful) (x : InstrumentId) :
  (g.detach x).2.Faithful
  := by
  use h.wellKept.detach x
  intro y s found
  rw [h.wellKept.get?_detach] at found
  split at found
  · cases found
  · exact h.faithful y s found

/-- A promotion. -/
protected theorem promote (h : g.Faithful) (x : InstrumentId) :
  (g.promote x).2.Faithful
  := by
  use h.wellKept.promote x
  intro y s found
  cases promoted : (g.promote x).1 with
  | none =>
    rw [(h.wellKept.promote_none promoted).2] at found
    exact h.faithful y s found
  | some q =>
    rw [h.wellKept.get?_promote promoted] at found
    split at found
    · obtain ⟨r, applying, rfl, -⟩ := h.wellKept.promote_some promoted
      cases found
      have before := h.faithful x r (h.wellKept.get?_of_applying applying)
      exact ⟨before.candidate, before.throttle, before.undone⟩
    · exact h.faithful y s found

/-- A fresh registration. -/
protected theorem reserve (h : g.Faithful) {i : Instrument} {c : Candidate}
    (valid : Candidate.ofInstrument i = .ok c) (fresh : g.reserve c = (.fresh r, g')) :
  g'.Faithful
  := by
  use h.wellKept.reserve fresh
  intro y s found
  rw [get?_reserve fresh] at found
  split at found
  · cases found
    rw [(reserve_fresh fresh).2.1]
    exact Registration.faithful_ofCandidate _ valid
  · exact h.faithful y s found

/-- Everything is dropped. -/
protected theorem clear (g : Registry) :
  g.clear.2.Faithful
  := by
  use .clear g
  intro x r found
  simp [Registry.clear, get?] at found

/-- A hit is counted. -/
theorem count (h : g.Faithful) (found : g.get? x = some r) (now : Int) :
  (g.modify x fun s => { s with throttle := (r.throttle.allow now).2 }).Faithful
  := by
  use h.wellKept.modify x fun _ => ⟨rfl, rfl, rfl, rfl⟩
  intro y s found'
  rw [h.wellKept.get?_modify] at found'
  split at found'
  · rw [found] at found'
    cases found'
    have before := h.faithful x r found
    exact ⟨before.candidate, before.throttle.allow now, before.undone⟩
  · exact h.faithful y s found'

/-- An instrument is removed with whatever has become of it. -/
theorem finish (h : g.Faithful) (x : InstrumentId) {f : Registration → Registration}
    (alike : ∀ r, (f r).Alike r) :
  ((g.modify x f).detach x).2.Faithful
  := by
  have kept := h.wellKept.modify x alike
  use kept.detach x
  intro y s found
  rw [kept.get?_detach] at found
  split at found
  · cases found
  next other =>
    rw [h.wellKept.get?_modify, if_neg other] at found
    exact h.faithful y s found

end Registry.Faithful

/-- The registrations stay faithful when nothing of concern happens. -/
theorem Engine.Quiet.faithful {e e' : Engine} (quiet : e'.Quiet e) (h : e.registry.Faithful) :
  e'.registry.Faithful
  := by
  rw [quiet.registry]
  exact h

/-! ### Operations -/

/-- The registrations are faithful while a call waits. -/
def Handling.faithful : Handling Unit where
  before _ after _ e :=
    e.registry.Faithful ∧ ∀ answer e', e'.registry.Faithful → after answer () e'
  mono := by
    intro call after after' γ e h weaker
    use h.1
    intro answer e' faithful
    apply weaker _ _ _ (h.2 answer e' faithful)

namespace Routine

variable {α : Type} {e : Engine}

/-- The routine makes its calls and comes to its end with faithful registrations. -/
abbrev Faithful (r : Routine α) (e : Engine) : Prop :=
  r.Ensures .faithful (fun _ _ e' => e'.registry.Faithful) () e

/-- A call. -/
theorem ensures_ask_faithful {call : Call} {goal : call.request.Answer → Unit → Engine → Prop}
    (h : e.registry.Faithful)
    (goesOn : ∀ answer e', e'.registry.Faithful → goal answer () e') :
  (request call).Ensures .faithful goal () e
  := by
  apply ensures_request
  use h
  intro answer e' h' e'' quiet
  exact goesOn answer e'' (quiet.faithful h')

end Routine

/-- The registrations stay faithful during removals. -/
theorem Registry.Faithful.removing :
  Removing .faithful fun P _ e => P ∧ e.registry.Faithful
  where
  weaken h weaker := ⟨weaker h.1, h.2⟩
  quiet h quiet := ⟨h.1, quiet.faithful h.2⟩
  leave h x := ⟨h.1, h.2.detach x⟩
  withdraw h _ _ goesOn := ⟨h.2, fun answer e' h' => goesOn answer () e' ⟨h.1, h'⟩⟩

namespace Lifecycle

open Routine

variable {e : Engine} {r : Registration}

/-- An install that fails. -/
theorem faithful_failInstall (h : e.registry.Faithful) (r : Registration) (err : InstrumentError) :
  (failInstall r err).Faithful e
  := by
  simp only [Routine.Faithful, failInstall, ensures_bind]
  apply ensures_modify
  apply ensures_log
  intro e₁ quiet
  have detached : (e₁.registry.detach r.id).2.Faithful := by
    rw [quiet.registry]
    exact h.detach r.id
  apply ensures_detach
  cases (e₁.registry.detach r.id).1 with
  | none => exact detached
  | some s =>
    simp only [ensures_bind]
    apply ensures_modify
    refine ensures_publish trivial ?_
    intro e₂ quiet₂
    exact quiet₂.faithful detached

/-- An attempt whose unit is not loaded. -/
theorem faithful_deferInstall (h : e.registry.Faithful) (r : Registration) (now : Instant) :
  (deferInstall r now).Faithful e
  := by
  have fails {e' : Engine} {err : InstrumentError} (h : e'.registry.Faithful) :
      (do return .error (← failInstall r err) : Routine (Except InstrumentError Unit)).Faithful
        e' := by
    rw [Routine.Faithful, ensures_bind]
    exact faithful_failInstall h r err
  rw [deferInstall]
  dsimp only
  split
  · exact fails h
  · rw [Routine.Faithful, ensures_bind]
    apply ensures_update
    split
    · simp only [ensures_bind]
      apply ensures_log
      intro e₁ quiet
      exact quiet.faithful h
    · exact fails h

/-- An attempt whose patch is in place. -/
theorem faithful_confirmInstall (h : e.registry.Faithful) (r : Registration) :
  (confirmInstall r).Faithful e
  := by
  simp only [Routine.Faithful, confirmInstall, ensures_bind]
  apply ensures_modify
  apply ensures_update
  have promoted : (e.registry.promote r.id).2.Faithful := h.promote r.id
  cases (e.registry.promote r.id).1 with
  | some s =>
    dsimp only
    simp only [ensures_bind]
    apply ensures_log
    intro e₁ quiet
    apply ensures_modify
    rw [(Engine.Alike.publish _ _ _).registry, quiet.registry]
    exact promoted
  | none =>
    dsimp only
    simp only [ensures_bind]
    apply ensures_log
    intro e₁ quiet
    apply ensures_ask_faithful (quiet.faithful promoted)
    intro answer e₂ h₂
    cases answer with
    | ok => exact h₂
    | error err =>
      apply ensures_log
      intro e₃ quiet₃
      exact quiet₃.faithful h₂

/-- An attempt. -/
theorem faithful_apply (h : e.registry.Faithful) (r : Registration) (now : Instant) :
  (apply r now).Faithful e
  := by
  simp only [Routine.Faithful, apply, ensures_bind]
  apply ensures_ask_faithful h
  intro loaded e₁ h₁
  cases loaded with
  | false => exact faithful_deferInstall h₁ r now
  | true =>
    rw [if_pos rfl, ensures_bind]
    apply ensures_ask_faithful h₁
    intro answer e₂ h₂
    cases answer with
    | ok =>
      dsimp only
      rw [ensures_bind]
      exact faithful_confirmInstall h₂ r
    | error source =>
      dsimp only
      simp only [ensures_bind]
      apply (faithful_failInstall h₂ r _).mono
      intro err _ e₃ h₃
      apply ensures_ask_faithful h₃
      intro answer e₄ h₄
      cases answer with
      | ok => exact h₄
      | error secondary =>
        dsimp only
        simp only [ensures_bind]
        apply ensures_log
        intro e₅ quiet
        exact quiet.faithful h₄

/-- An install. -/
theorem faithful_install (h : e.registry.Faithful) (i : Instrument) :
  (install i).Faithful e
  := by
  rw [Routine.Faithful, install, ensures_bind]
  apply ensures_gets
  cases registered : e.registry.get? i.id with
  | some r =>
    dsimp only
    rw [ensures_bind]
    apply ensures_log
    intro e₁ quiet
    exact quiet.faithful h
  | none =>
    cases valid : Candidate.ofInstrument i with
    | error err =>
      dsimp only
      simp only [ensures_bind]
      apply ensures_log
      intro e₁ quiet
      refine ensures_publish trivial ?_
      intro e₂ quiet₂
      exact (quiet₂.trans quiet).faithful h
    | ok candidate =>
      obtain rfl := Candidate.instrument_of valid
      dsimp only
      simp only [ensures_bind]
      apply ensures_update
      obtain ⟨g, fresh⟩ : ∃ g, e.registry.reserve candidate
          = (.fresh (.ofCandidate e.registry.nextSerial candidate), g) := by
        rw [Registry.reserve, registered]
        exact ⟨_, rfl⟩
      rw [fresh]
      dsimp only
      rw [ensures_bind]
      apply ensures_gets
      rw [ensures_bind]
      apply (faithful_apply (h.reserve valid fresh) _ _).mono
      intro a _ e₁ h₁
      cases a with
      | ok => exact h₁
      | error err => exact h₁

/-- Attempts that were taken up. -/
theorem faithful_retryEach (h : e.registry.Faithful) (now : Instant) (ids : List InstrumentId) :
  (retryEach now ids).Faithful e
  := by
  induction ids generalizing e with
  | nil => exact h
  | cons y ids ih =>
    rw [Routine.Faithful, retryEach, ensures_bind]
    apply ensures_gets
    cases e.registry.getApplying? y with
    | none =>
      dsimp only
      rw [ensures_bind]
      apply ensures_modify
      exact ih h
    | some r =>
      dsimp only
      split
      · exact ih h
      · simp only [ensures_bind]
        apply ensures_log
        intro e₁ quiet
        apply (faithful_apply (quiet.faithful h) r now).mono
        intro a _ e₂ h₂
        cases a with
        | ok =>
          dsimp only
          rw [ensures_bind]
          exact ih h₂
        | error err =>
          dsimp only
          simp only [ensures_bind]
          apply ensures_log
          intro e₃ quiet₃
          exact ih (quiet₃.faithful h₂)

/-- The attempts that are due. -/
theorem faithful_retryDue (h : e.registry.Faithful) (now : Instant) :
  (retryDue now).Faithful e
  := by
  rw [Routine.Faithful, retryDue, ensures_bind]
  apply ensures_update
  have taken : ({ e with retries := (e.retries.takeDue now).2 } : Engine).registry.Faithful := h
  exact faithful_retryEach taken now _

/-- The removal of an instrument that has had its last hit. The mark that it was seen is not seen
between two calls, for the instrument is detached at once. -/
theorem faithful_finishIfDone (h : e.registry.Faithful) (found : e.registry.get? r.id = some r) :
  (finishIfDone r).Faithful e
  := by
  rw [Routine.Faithful, finishIfDone]
  split
  · simp only [ensures_bind]
    apply ensures_modify
    apply ensures_log
    intro e₁ quiet
    have marked : e₁.registry.get? r.id = some { r with isDone := true } := by
      rw [quiet.registry, h.wellKept.get?_modify, if_pos rfl, found]
      rfl
    have finished : (e₁.registry.detach r.id).2.Faithful := by
      rw [quiet.registry]
      exact h.finish r.id fun _ => ⟨rfl, rfl, rfl, rfl⟩
    have removes := ensures_detachEntry (Registry.Faithful.removing.calm True) (γ := ()) r.id none
      false (fun free => by simp [free] at marked) ⟨trivial, finished⟩
    apply removes.mono
    intro _ _ e₂ h₂
    exact h₂.2
  · exact h

/-- The end of a hit that was admitted. -/
theorem faithful_judge (h : e.registry.Faithful) (found : e.registry.get? r.id = some r) :
  (judge r).Faithful e
  := by
  have finishes : (do
      finishIfDone r
      return true).Faithful e := by
    rw [Routine.Faithful, ensures_bind]
    exact faithful_finishIfDone h found
  rw [judge]
  cases r.predicate with
  | none => exact finishes
  | some p =>
    rw [Routine.Faithful, ensures_bind]
    apply ensures_gets
    cases p.evaluate (e.frames.get r.id) with
    | ok holds =>
      cases holds with
      | true => exact finishes
      | false =>
        simp only [ensures_bind]
        apply ensures_log
        intro e₁ quiet
        exact quiet.faithful h
    | error source =>
      simp only [ensures_bind]
      apply ensures_modify
      apply ensures_log
      intro e₁ quiet
      apply (ensures_removeEntry Registry.Faithful.removing ⟨trivial, quiet.faithful h⟩ _ _ _).mono
      intro _ _ e₂ h₂
      exact h₂.2

/-- A pass through the patch point. -/
theorem faithful_hit (h : e.registry.Faithful) (x : InstrumentId) :
  (hit x).Faithful e
  := by
  simp only [Routine.Faithful, hit, ensures_bind]
  apply ensures_gets
  cases live : e.registry.getLive? x with
  | none =>
    simp only [ensures_bind]
    apply ensures_log
    intro e₁ quiet
    exact quiet.faithful h
  | some r =>
    have found : e.registry.get? x = some r := Registry.get?_of_live live
    obtain rfl := h.wellKept.id_eq found
    simp only [ensures_bind]
    apply ensures_gets
    split
    · simp only [ensures_bind]
      apply (ensures_removeEntry Registry.Faithful.removing ⟨trivial, h⟩ _ _ _).mono
      intro _ _ e₁ h₁
      exact h₁.2
    · simp only [ensures_bind]
      apply ensures_modify
      have counted := h.count found e.clock.millis
      split
      · apply faithful_judge counted
        change (e.registry.modify r.id _).get? r.id = _
        rw [h.wellKept.get?_modify, if_pos rfl, found]
        rfl
      · simp only [ensures_bind]
        apply ensures_log
        intro e₁ quiet
        exact quiet.faithful counted

end Lifecycle

/-- Every operation keeps the registrations faithful. -/
theorem Operation.faithful {e : Engine} (op : Operation) (h : e.registry.Faithful) :
  op.routine.Faithful e
  := by
  have removing := Registry.Faithful.removing
  have known : True ∧ e.registry.Faithful := ⟨trivial, h⟩
  have installs (i : Instrument) {P : Prop} {γ : Unit} {e : Engine} (h : P ∧ e.registry.Faithful) :
      (Lifecycle.install i).Ensures .faithful
        (fun _ _ e' => (P ∧ True) ∧ e'.registry.Faithful) γ e := by
    apply (Lifecycle.faithful_install h.2 i).mono
    intro _ _ _ h'
    exact ⟨⟨h.1, trivial⟩, h'⟩
  have faithful {α : Type} {known : α → Prop} {r : Routine α}
      (ends : r.Ensures .faithful (fun a _ e' => known a ∧ e'.registry.Faithful) () e) :
      r.Faithful e := by
    apply ends.mono
    intro _ _ _ h'
    exact h'.2
  cases op with
  | install i => exact Lifecycle.faithful_install h i
  | removeById x cause => exact faithful (Lifecycle.ensures_removeEntry removing known x cause true)
  | remove query x => exact faithful (Lifecycle.ensures_remove removing known query x)
  | hit x => exact Lifecycle.faithful_hit h x
  | sweep now => exact faithful (Lifecycle.ensures_sweep removing known now)
  | retryDue now => exact Lifecycle.faithful_retryDue h now
  | tick now =>
    simp only [routine, Routine.Faithful, Lifecycle.tick, Routine.ensures_bind]
    apply (Lifecycle.ensures_sweep removing known now).mono
    intro expired _ e₁ h₁
    apply (Lifecycle.faithful_retryDue h₁.2 now).mono
    intro retried _ e₂ h₂
    exact h₂
  | handle raw => exact faithful (Control.ensures_handle removing installs known raw)
  | handleText text => exact faithful (Control.ensures_handleText removing installs known text)
  | clear => exact .clear e.registry

/-! ### Sessions -/

namespace Session

/-- The registrations are faithful, and every operation that waits keeps them so. -/
structure Faithful (s : Session) : Prop where
  /-- The registrations are faithful. -/
  registry : s.engine.registry.Faithful
  /-- What waits keeps them so. -/
  waiting : ∀ p ∈ s.waiting, ∀ answer e, e.registry.Faithful → (p.resume answer).Faithful e

variable {op : Operation} {waiting : List Pending} {e : Engine}

/-- An operation goes on up to its next call, or to its end. -/
theorem Faithful.proceed {r : Routine op.Result} (h : r.Faithful e)
    (below : ∀ p ∈ waiting, ∀ answer e, e.registry.Faithful → (p.resume answer).Faithful e)
    (finished : List ((op : Operation) × op.Result)) :
  (Session.proceed op waiting finished r e).Faithful
  := by
  induction r generalizing e with
  | done a => exact ⟨h, below⟩
  | read next ih => exact ih e h
  | write e' next ih => exact ih h
  | ask call next ih => exact ⟨h.1, List.forall_mem_cons.mpr ⟨h.2, below⟩⟩

/-- One thing more happens. -/
theorem Faithful.step {c : Conduct} {s s' : Session} (h : s.Faithful) (step : c.Step s s') :
  s'.Faithful
  := by
  cases step with
  | drift => exact ⟨h.registry, h.waiting⟩
  | start _ op => exact .proceed (op.faithful h.registry) h.waiting _
  | reply e p waiting finished answer =>
    obtain ⟨top, below⟩ := List.forall_mem_cons.mp h.waiting
    exact .proceed (top answer e h.registry) below finished

end Session

/-- In every session the registrations are what was made of their instruments. -/
theorem Conduct.Run.faithful {c : Conduct} {settings : Settings} {clock : Instant} {s : Session}
    (run : c.Run (.idle (.new settings clock)) s) :
  s.engine.registry.Faithful
  := by
  have begins : (Session.idle (.new settings clock)).Faithful := by
    constructor
    · exact Registry.Faithful.empty
    · intro p mem
      cases mem
  have all : s.Faithful := by
    induction run with
    | refl => exact begins
    | tail _ step ih => exact ih.step step
  exact all.registry

end Instrumentation
