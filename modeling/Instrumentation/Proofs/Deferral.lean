import Instrumentation.Proofs.Stride.Sessions

/-!
# Deferred installs and applying instruments

Every applying instrument is pending or is being attempted, whatever happens. So when no operation
is in progress, all that is applying is pending.

The converse depends on the answers. An install whose unit is not loaded is scheduled under its
identity, even if its instrument is no longer applying by then, and what is scheduled in that way
is inherited by the next registration of the identity. As long as each deferral finds its identity
applying, nothing else is pending at any time.
-/

namespace Instrumentation

/-- The call attempts to install an identity. -/
def Call.Tries (x : InstrumentId) : Call → Prop
  | resolve r => r.id = x
  | patch r => r.id = x
  | restore _ => False
  | withdraw _ => False

namespace Registry

variable {g : Registry} {x : InstrumentId}

/-- An identity that is not applying may as well be taken out of the applying ones. -/
theorem applying_of_free (free : g.applying.get? x = none) (y : InstrumentId) :
  g.applying.get? y = if y = x then none else g.applying.get? y
  := by
  split
  next own => exact own ▸ free
  next => rfl

/-- After a promotion its identity is not applying, whether it was or not. -/
theorem WellKept.applying_promoted (w : g.WellKept) (x y : InstrumentId) :
  (g.promote x).2.applying.get? y = if y = x then none else g.applying.get? y
  := by
  cases promoted : (g.promote x).1 with
  | some s => exact w.applying_promote promoted y
  | none =>
    obtain ⟨free, same⟩ := w.promote_none promoted
    rw [same]
    exact applying_of_free free y

end Registry

/-! ### What is applying is attended to -/

/-- Every applying instrument is pending or is being attempted. -/
def Position.Attended (p : Position) : Prop :=
  ∀ x r, p.view.registry.applying.get? x = some r
    → p.view.retries.isPending x = true ∨ ∃ call ∈ p.calls, call.Tries x

namespace Position.Attended

variable {p q : Position}

/-- Instruments go on applying, pending or attempted as they were. -/
theorem keep (h : p.Attended)
    (applying : ∀ {x r}, q.view.registry.applying.get? x = some r
      → ∃ s, p.view.registry.applying.get? x = some s)
    (pending : ∀ x, p.view.retries.isPending x = true → q.view.retries.isPending x = true)
    (calls : ∀ call ∈ p.calls, ∀ x, call.Tries x
      → q.view.retries.isPending x = true ∨ ∃ call ∈ q.calls, call.Tries x) :
  q.Attended
  := by
  intro x r now
  obtain ⟨s, before⟩ := applying now
  rcases h x s before with waits | ⟨call, mem, tries⟩
  · left
    apply pending x waits
  · apply calls call mem x tries

/-- An identity is taken out of the applying ones, and its deferred install cancelled. -/
theorem leave (h : p.Attended) (x : InstrumentId)
    (applying : ∀ y, q.view.registry.applying.get? y
      = if y = x then none else p.view.registry.applying.get? y)
    (retries : q.view.retries = p.view.retries.cancel x)
    (calls : ∀ call ∈ p.calls, ∀ y, call.Tries y ∧ y ≠ x → call ∈ q.calls) :
  q.Attended
  := by
  intro y r now
  rw [applying] at now
  split at now
  next => cases now
  next other =>
    rcases h y r now with waits | ⟨call, mem, tries⟩
    · left
      rw [retries]
      apply RetryQueue.isPending_cancel.mpr ⟨other, waits⟩
    · right
      use call, calls call mem y ⟨tries, other⟩

end Position.Attended

namespace Move

variable {c : Conduct} {p q : Position}

/-- A move keeps what is applying pending or attempted. -/
theorem attended (move : Move c p q) (w : p.view.registry.WellKept) (h : p.Attended) :
  q.Attended
  := by
  have same {q : Position} {calls : List Call} (later : calls ⊆ q.calls) :
      ∀ call ∈ calls, ∀ x, call.Tries x
        → q.view.retries.isPending x = true ∨ ∃ call ∈ q.calls, call.Tries x :=
    fun call mem x tries => .inr ⟨call, later mem, tries⟩
  have own {head : Call} {x : InstrumentId} (tried : ∀ y, head.Tries y → y = x) :
      ∀ y, ¬(head.Tries y ∧ y ≠ x) := fun y ⟨tries, other⟩ => other (tried y tries)
  cases move with
  | touch v calls x f alike =>
    refine h.keep ?_ (fun _ waits => waits) (same (List.Subset.refl _))
    intro y r now
    rw [w.applying_modify] at now
    split at now
    next own =>
      obtain ⟨s, before, -⟩ := Option.map_eq_some_iff.mp now
      exact ⟨s, own ▸ before⟩
    next => exact ⟨r, now⟩
  | refuse =>
    exact h.keep (fun now => ⟨_, now⟩) (fun _ waits => waits) (same (List.Subset.refl _))
  | complain =>
    exact h.keep (fun now => ⟨_, now⟩) (fun _ waits => waits) (same (List.Subset.refl _))
  | takeDue v calls now =>
    refine h.keep (fun now => ⟨_, now⟩) ?_ (same (List.Subset.refl _))
    intro x waits
    rw [← waits]
    exact RetryQueue.isPending_takeDue
  | forget v calls x gone =>
    exact h.leave x (Registry.applying_of_free gone) rfl fun _ mem _ _ => mem
  | register v calls i candidate r g opens valid fresh =>
    intro x s now
    change g.applying.get? x = some s at now
    rw [Registry.applying_reserve fresh] at now
    split at now
    next own => exact .inr ⟨_, .head _, own.symm⟩
    next =>
      rcases h x s now with waits | ⟨call, mem, tries⟩
      · exact .inl waits
      · exact .inr ⟨call, .tail _ mem, tries⟩
  | attempt v calls x r opens applying =>
    exact h.keep (fun now => ⟨_, now⟩) (fun _ waits => waits) (same (List.subset_cons_self _ _))
  | found v calls r may =>
    refine h.keep (fun now => ⟨_, now⟩) (fun _ waits => waits) ?_
    intro call mem x tries
    rcases List.mem_cons.mp mem with rfl | mem
    · exact .inr ⟨_, .head _, tries⟩
    · exact .inr ⟨call, .tail _ mem, tries⟩
  | defer v calls r now dueAt attempts may patient scheduled =>
    have waits : (v.retries.schedule r.id now).2.isPending r.id = true :=
      RetryQueue.isPending_of_scheduled scheduled
    refine h.keep (fun now => ⟨_, now⟩) ?_ ?_
    · intro x before
      change (v.retries.schedule r.id now).2.isPending x = true
      by_cases own : x = r.id
      · rw [own, waits]
      · rw [RetryQueue.isPending_schedule_of_ne own, before]
    · intro call mem x tries
      rcases List.mem_cons.mp mem with rfl | mem
      · obtain rfl : r.id = x := tries
        exact .inl waits
      · exact .inr ⟨call, mem, tries⟩
  | fail v calls r now err t may givesUp =>
    exact h.leave r.id (w.applying_detach r.id) rfl
      (Call.waits_on (own fun _ => Eq.symm) (List.Subset.refl _))
  | reject v calls r source t may =>
    exact h.leave r.id (w.applying_detach r.id) rfl
      (Call.waits_on (own fun _ => Eq.symm) (List.subset_cons_self _ _))
  | confirm v calls r s t may promoted =>
    exact h.leave r.id (w.applying_promoted r.id) rfl
      (Call.waits_on (own fun _ => Eq.symm) (List.Subset.refl _))
  | revert v calls r may refused =>
    exact h.leave r.id (w.applying_promoted r.id) rfl
      (Call.waits_on (own fun _ => Eq.symm) (List.subset_cons_self _ _))
  | settle v calls r answer may =>
    refine h.keep (fun now => ⟨_, now⟩) (fun _ waits => waits) ?_
    intro call mem x tries
    rcases List.mem_cons.mp mem with rfl | mem
    · cases tries
    · exact .inr ⟨call, mem, tries⟩
  | drop v calls x r cause t opens detached applying =>
    exact h.leave x (w.applying_detach x) rfl fun _ mem _ _ => mem
  | withdraw v calls x r opens detached live =>
    exact h.leave x (w.applying_detach x) rfl fun _ mem _ _ => .tail _ mem
  | part v calls r answer cause t may =>
    refine h.keep (fun now => ⟨_, now⟩) (fun _ waits => waits) ?_
    intro call mem x tries
    rcases List.mem_cons.mp mem with rfl | mem
    · cases tries
    · exact .inr ⟨call, mem, tries⟩
  | clear v calls may =>
    intro x r now
    cases now

end Move

/-- What is applying is attended to throughout every session. -/
theorem Conduct.Run.attended {c : Conduct} {settings : Settings} {clock : Instant} {s : Session}
    (run : c.Run (.idle (.new settings clock)) s) :
  s.position.Attended
  := by
  apply run.coherent_invariant
  · intro p q move coherent h
    apply move.attended coherent.wellKept h
  · intro retries x r now
    cases now

/-! ### What is pending is applying -/

namespace View

/-- A deferral finds its identity applying. -/
def Heeds (v : View) (call : Call) (answer : call.request.Answer) : Prop :=
  call.Defers v.retries answer → ∃ s, v.registry.getApplying? call.registration.id = some s

/-- What is pending is applying. -/
def Heeded (v : View) : Prop :=
  ∀ x, v.retries.isPending x = true → ∃ s, v.registry.getApplying? x = some s

/-- What is pending is what is applying. -/
def InStep (v : View) : Prop :=
  ∀ x, v.retries.isPending x = true ↔ ∃ s, v.registry.getApplying? x = some s

end View

/-- Operations of every kind run inside each other to any depth, and each deferral finds its
identity applying. -/
def Conduct.heeding : Conduct where
  starts _ _ _ := True
  answers v call answer := v.Heeds call answer

namespace View.Heeded

variable {v v' : View}

/-- Instruments go on applying, and what is pending was so before. -/
theorem keep (h : v.Heeded)
    (pending : ∀ x, v'.retries.isPending x = true → v.retries.isPending x = true)
    (applying : ∀ {x s}, v.registry.applying.get? x = some s
      → ∃ s', v'.registry.applying.get? x = some s') :
  v'.Heeded
  := by
  intro x waits
  obtain ⟨s, before⟩ := h x (pending x waits)
  apply applying before

/-- An identity is taken out of the applying ones, and its deferred install cancelled. -/
theorem leave (h : v.Heeded) (x : InstrumentId)
    (applying : ∀ y, v'.registry.applying.get? y
      = if y = x then none else v.registry.applying.get? y)
    (retries : v'.retries = v.retries.cancel x) :
  v'.Heeded
  := by
  intro y waits
  rw [retries] at waits
  obtain ⟨other, before⟩ := RetryQueue.isPending_cancel.mp waits
  obtain ⟨s, still⟩ := h y before
  use s
  rw [Registry.getApplying?, applying, if_neg other]
  exact still

end View.Heeded

namespace Move

variable {p q : Position}

/-- A move whose deferrals find their identities applying leaves nothing else pending. -/
theorem heeded (move : Move Conduct.heeding p q) (w : p.view.registry.WellKept)
    (h : p.view.Heeded) :
  q.view.Heeded
  := by
  cases move with
  | touch v calls x f alike =>
    refine h.keep (fun _ waits => waits) ?_
    intro y s before
    change ∃ s', (v.registry.modify x f).applying.get? y = some s'
    rw [w.applying_modify]
    split
    next own =>
      rw [← own, before]
      exact ⟨_, rfl⟩
    next => exact ⟨s, before⟩
  | refuse => exact h.keep (fun _ waits => waits) fun before => ⟨_, before⟩
  | complain => exact h.keep (fun _ waits => waits) fun before => ⟨_, before⟩
  | takeDue v calls now =>
    refine h.keep ?_ fun before => ⟨_, before⟩
    intro x waits
    rw [← waits]
    exact RetryQueue.isPending_takeDue.symm
  | forget v calls x gone => exact h.leave x (Registry.applying_of_free gone) rfl
  | register v calls i candidate r g opens valid fresh =>
    refine h.keep (fun _ waits => waits) ?_
    intro x s before
    change ∃ s', g.applying.get? x = some s'
    rw [Registry.applying_reserve fresh]
    split
    · exact ⟨r, rfl⟩
    · exact ⟨s, before⟩
  | attempt => exact h.keep (fun _ waits => waits) fun before => ⟨_, before⟩
  | found => exact h.keep (fun _ waits => waits) fun before => ⟨_, before⟩
  | defer v calls r now dueAt attempts may patient scheduled =>
    intro x waits
    change (v.retries.schedule r.id now).2.isPending x = true at waits
    by_cases own : x = r.id
    · subst own
      apply may ⟨rfl, RetryQueue.not_givesUp patient scheduled⟩
    · rw [RetryQueue.isPending_schedule_of_ne own] at waits
      apply h x waits
  | fail v calls r => exact h.leave r.id (w.applying_detach r.id) rfl
  | reject v calls r => exact h.leave r.id (w.applying_detach r.id) rfl
  | confirm v calls r => exact h.leave r.id (w.applying_promoted r.id) rfl
  | revert v calls r => exact h.leave r.id (w.applying_promoted r.id) rfl
  | settle => exact h.keep (fun _ waits => waits) fun before => ⟨_, before⟩
  | drop v calls x => exact h.leave x (w.applying_detach x) rfl
  | withdraw v calls x => exact h.leave x (w.applying_detach x) rfl
  | part => exact h.keep (fun _ waits => waits) fun before => ⟨_, before⟩
  | clear v calls may =>
    intro x waits
    cases waits

end Move

/-- Nothing but what is applying is pending in a session whose deferrals find their identities
applying. -/
theorem Conduct.Run.heeded {settings : Settings} {clock : Instant} {s : Session}
    (run : Conduct.heeding.Run (.idle (.new settings clock)) s) :
  s.engine.view.Heeded
  := by
  -- `coherent_invariant` does not apply: it starts with any queue, and this one has to be empty
  have none : Conduct.heeding.starts.Keeps (Session.idle (.new settings clock)).waiting := trivial
  have new : (Session.idle (.new settings clock)).position.Coherent
      ∧ (Session.idle (.new settings clock)).position.view.Heeded := by
    use .new _
    intro x waits
    cases waits
  have both {p q : Position} (move : Move Conduct.heeding p q) (h : p.Coherent ∧ p.view.Heeded) :
      q.Coherent ∧ q.view.Heeded :=
    ⟨move.coherent h.1, move.heeded h.1.wellKept h.2⟩
  exact ((Run.moves none run).1.preserve both new).2

/-- Where no call waits what is pending is what is applying. -/
theorem View.Heeded.inStep {p : Position} (h : p.view.Heeded) (attended : p.Attended)
    (ended : p.calls = []) :
  p.view.InStep
  := by
  intro x
  constructor
  · apply h
  · rintro ⟨r, applying⟩
    rcases attended x r applying with waits | ⟨call, mem, -⟩
    · exact waits
    · rw [ended] at mem
      cases mem

/-- When each deferral finds its identity applying, no attempts are counted for an identity that is
not applying, and what is pending is what is applying whenever no operation is in progress. This is
exact: after a last answer they are in step only if it finds its identity applying if it defers. -/
theorem pending_iff_applying (settings : Settings) (clock : Instant) :
  (∀ s, Conduct.heeding.Run (.idle (.new settings clock)) s
      → (∀ x, s.engine.registry.getApplying? x = none → s.engine.retries.attempts? x = none)
        ∧ (s.waiting = [] → s.engine.view.InStep))
    ∧ ∀ e p finished answer,
      Conduct.heeding.Run (.idle (.new settings clock)) { engine := e, waiting := [p], finished }
      → (Session.proceed p.op [] finished (p.resume answer) e).waiting = []
      → ((Session.proceed p.op [] finished (p.resume answer) e).engine.view.InStep
        ↔ e.view.Heeds p.call answer)
  := by
  have inStep (s) (run : Conduct.heeding.Run (.idle (.new settings clock)) s)
      (ended : s.waiting = []) : s.engine.view.InStep :=
    run.heeded.inStep run.attended (congrArg (List.map Pending.call) ended)
  constructor
  · intro s run
    constructor
    · intro x free
      apply RetryQueue.attempts?_eq_none_iff.mpr
      by_contra waits
      obtain ⟨r, applying⟩ := run.heeded x (eq_true_of_ne_false waits)
      change s.engine.registry.getApplying? x = some r at applying
      rw [free] at applying
      cases applying
    · exact inStep s run
  · intro e p finished answer run ended
    constructor
    · intro after deferred
      -- a last deferral leaves the registry, so who is applying afterwards was so before
      obtain ⟨g, next, -, stride, -, last⟩ := run.since.stride answer
      obtain rfl := last ended
      obtain ⟨registry, waits⟩ := stride.defers ⟨⟨p.call, answer⟩, rfl, rfl, deferred⟩ rfl
      obtain ⟨s, applying⟩ := (after _).mp waits
      use s
      change e.registry.getApplying? p.call.registration.id = some s
      rw [← registry]
      exact applying
    · intro heeds
      apply inStep _ _ ended
      exact run.tail (.reply e p [] finished answer heeds)

/-- An install whose unit is not loaded is applying and pending, and that answer heeds. -/
theorem pending_iff_applying_deferred :
  ∃ s, Conduct.heeding.Run (.idle (.new .default default)) s ∧ s.waiting = []
    ∧ s.engine.view.InStep ∧ s.engine.view.retries.isPending "a" = true
    ∧ ∃ e p finished, Conduct.heeding.Run (.idle (.new .default default))
        { engine := e, waiting := [p], finished }
      ∧ e.view.Heeds p.call (p.call.grant false)
  := by
  obtain ⟨inStep, exact⟩ := pending_iff_applying .default default
  have asks : Conduct.heeding.AllowsAll (.idle (.new .default default))
      [.start (.install (.breakpointIn "U"))] :=
    ⟨trivial, trivial⟩
  have ends : Conduct.heeding.AllowsAll (.idle (.new .default default))
      [.start (.install (.breakpointIn "U")), .reply false] :=
    ⟨trivial, fun _ => ⟨_, rfl⟩, trivial⟩
  have after := (inStep _ ends.run).2 rfl
  have heeds := (exact _ _ _ _ asks.run rfl).mp after
  exact ⟨_, ends.run, rfl, after, (after "a").mpr ⟨_, rfl⟩, _, _, _, asks.run, heeds⟩

/-- An instrument is removed while its unit is asked for, which is then not loaded. -/
def removeWhileResolving : List Action :=
  [.start (.install (.breakpointIn "U")), .start (.removeById "a" none), .reply false]

/-- A deferral that does not find its identity applying leaves a deferred install behind. The
removal cancels nothing, and the install that was removed is scheduled afterwards. -/
theorem not_inStep_removed :
  ¬∀ s, Conduct.reentrant.Run (.idle (.new .default default)) s → s.waiting = []
    → s.engine.view.InStep
  := by
  intro all
  have allowed : Conduct.reentrant.AllowsAll (.idle (.new .default default))
      removeWhileResolving :=
    ⟨nofun, nofun, trivial, trivial⟩
  obtain ⟨s, applying⟩ := (all _ allowed.run rfl "a").mp rfl
  cases applying

end Instrumentation
