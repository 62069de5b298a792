import Instrumentation.Proofs.Refusals

/-!
# Installs that fail among others

An adding command installs its members one after another. A member that fails leaves the stores as
they were, but for a frame that was captured under its identity. Nothing that an install does
depends on frames, on the log or on the channel, nor on the numbers of registrations. So the
members after it are answered as if it had not been listed, and leave the same.

This relates two runs, of the whole list and of the list without the members that fail. Both take
the steps that succeed, and a step that fails is taken by the first one alone.
-/

namespace Instrumentation

/-! ### What an install looks at -/

namespace Routine

variable {α β : Type} {answer : (request : Request) → request.Answer}

/-- What the routine ends with, and what it leaves to be seen, depends only on the time and on what
is seen before. -/
def Blind (answer : (request : Request) → request.Answer) (r : Routine α) : Prop :=
  ∀ v t, ∃ a v', r.Shows answer (fun b w => b = a ∧ w = v') v t

namespace Blind

variable {r : Routine α} {f : α → Routine β}

/-- Two routines, one after the other. -/
protected theorem bind (h : r.Blind answer) (next : ∀ a, (f a).Blind answer) :
  (r >>= f).Blind answer
  := by
  intro v t
  obtain ⟨a, v₁, shows⟩ := h v t
  obtain ⟨b, v₂, shows'⟩ := next a v₁ t
  use b, v₂
  apply Shows.bind
  apply shows.mono
  rintro _ _ ⟨rfl, rfl⟩
  exact shows'

/-- The end. -/
protected theorem pure (a : α) :
  (pure a : Routine α).Blind answer
  := fun v _ => ⟨a, v, shows_pure ⟨rfl, rfl⟩⟩

/-- A look at what is seen. -/
protected theorem gets {f : Engine → α} (g : View → Instant → α)
    (seen : ∀ e, f e = g e.view e.clock) :
  (gets f).Blind answer
  := fun v t => ⟨g v t, v, shows_gets g seen ⟨rfl, rfl⟩⟩

/-- A change of what is seen, with a result. -/
protected theorem update {f : Engine → α × Engine} (g : View → α × View)
    (seen : ∀ e, ((f e).1, (f e).2.view) = g e.view) (clock : ∀ e, (f e).2.clock = e.clock) :
  (update f).Blind answer
  := fun v _ => ⟨(g v).1, (g v).2, shows_update g seen clock ⟨rfl, rfl⟩⟩

/-- A change of what is seen. -/
protected theorem modify {f : Engine → Engine} (g : View → View)
    (seen : ∀ e, (f e).view = g e.view) (clock : ∀ e, (f e).clock = e.clock) :
  (modify f).Blind answer
  := fun v _ => ⟨(), g v, shows_modify g seen clock ⟨rfl, rfl⟩⟩

/-- A record in the log. -/
protected theorem log (level : Level) (message : String) (fields : List (String × String)) :
  (log level message fields).Blind answer
  := fun v _ => ⟨(), v, shows_log ⟨rfl, rfl⟩⟩

/-- An event. -/
protected theorem publish (serial : Option Nat) (event : Instant → Event) :
  (publish serial event).Blind answer
  := fun v t => ⟨(), v.add [.published serial (event t)], shows_publish ⟨rfl, rfl⟩⟩

/-- A call. -/
protected theorem request (call : Call) :
  (request call).Blind answer
  := fun v _ => ⟨answer call.request, v.add [call.asked, call.answered (answer call.request)],
    shows_request ⟨rfl, rfl⟩⟩

/-- On engines that look the same at the same time the routine ends with the same and leaves
engines that look the same. -/
theorem looks (h : r.Blind answer) {e e' : Engine} (view : e'.view = e.view)
    (clock : e'.clock = e.clock) :
  (r.runAlone answer e').1 = (r.runAlone answer e).1
    ∧ (r.runAlone answer e').2.view = (r.runAlone answer e).2.view
    ∧ (r.runAlone answer e').2.clock = (r.runAlone answer e).2.clock
  := by
  obtain ⟨a, v, shows⟩ := h e.view e.clock
  obtain ⟨⟨result, left⟩, time⟩ := shows e rfl rfl
  obtain ⟨⟨result', left'⟩, time'⟩ := shows e' view clock
  exact ⟨result'.trans result.symm, left'.trans left.symm, time'.trans time.symm⟩

end Blind

end Routine

namespace Lifecycle

open Routine

variable {answer : (request : Request) → request.Answer}

/-- A failing install. -/
theorem blind_failInstall (r : Registration) (err : InstrumentError) :
  (failInstall r err).Blind answer
  := by
  rw [failInstall]
  refine Blind.bind (.modify (fun v => { v with retries := v.retries.cancel r.id })
    (fun _ => rfl) fun _ => rfl) fun _ => ?_
  apply (Blind.log _ _ _).bind
  intro _
  refine Blind.bind (.update
    (fun v => ((v.registry.detach r.id).1, { v with registry := (v.registry.detach r.id).2 }))
    (fun _ => rfl) fun _ => rfl) fun detached => ?_
  cases detached with
  | none => exact .pure err
  | some s =>
    -- the frame is not seen
    refine Blind.bind (.modify (fun v => v) (fun _ => rfl) fun _ => rfl) fun _ => ?_
    apply (Blind.publish _ _).bind
    intro _
    exact .pure err

/-- An install whose unit is not loaded. -/
theorem blind_deferInstall (r : Registration) (now : Instant) :
  (deferInstall r now).Blind answer
  := by
  rw [deferInstall]
  dsimp only
  split
  · apply (blind_failInstall r _).bind
    intro err
    exact .pure _
  · refine Blind.bind (.update
      (fun v => ((v.retries.schedule r.id now).1,
        { v with retries := (v.retries.schedule r.id now).2 }))
      (fun _ => rfl) fun _ => rfl) fun decision => ?_
    cases decision with
    | scheduled dueAt attempts =>
      apply (Blind.log _ _ _).bind
      intro _
      exact .pure _
    | exhausted attempts =>
      apply (blind_failInstall r _).bind
      intro err
      exact .pure _

/-- An install whose patch is in place. -/
theorem blind_confirmInstall (r : Registration) :
  (confirmInstall r).Blind answer
  := by
  rw [confirmInstall]
  refine Blind.bind (.modify (fun v => { v with retries := v.retries.cancel r.id })
    (fun _ => rfl) fun _ => rfl) fun _ => ?_
  refine Blind.bind (.update
    (fun v => ((v.registry.promote r.id).1, { v with registry := (v.registry.promote r.id).2 }))
    (fun _ => rfl) fun _ => rfl) fun promoted => ?_
  cases promoted with
  | some s =>
    apply (Blind.log _ _ _).bind
    intro _
    exact .publish _ _
  | none =>
    apply (Blind.log _ _ _).bind
    intro _
    apply (Blind.request (.restore r)).bind
    intro answer
    cases answer with
    | ok _ => exact .pure ()
    | error err => exact .log _ _ _

/-- An attempt to install. -/
theorem blind_apply (r : Registration) (now : Instant) :
  (apply r now).Blind answer
  := by
  rw [apply]
  apply (Blind.request (.resolve r)).bind
  intro loaded
  cases loaded with
  | false => exact blind_deferInstall r now
  | true =>
    apply (Blind.request (.patch r)).bind
    intro answer
    cases answer with
    | ok _ =>
      apply (blind_confirmInstall r).bind
      intro _
      exact .pure _
    | error source =>
      apply (blind_failInstall r _).bind
      intro err
      apply (Blind.request (.restore r)).bind
      intro answer
      cases answer with
      | ok _ => exact .pure _
      | error secondary =>
        apply (Blind.log _ _ _).bind
        intro _
        exact .pure _

/-- An install. -/
theorem blind_install (answer : (request : Request) → request.Answer) (i : Instrument) :
  (install i).Blind answer
  := by
  rw [install]
  refine Blind.bind (.gets (fun v _ => v.registry.get? i.id) fun _ => rfl) fun registered => ?_
  cases registered with
  | some r =>
    apply (Blind.log _ _ _).bind
    intro _
    exact .pure _
  | none =>
    cases Candidate.ofInstrument i with
    | error err =>
      apply (Blind.log _ _ _).bind
      intro _
      apply (Blind.publish _ _).bind
      intro _
      exact .pure _
    | ok candidate =>
      refine Blind.bind (.update
        (fun v => ((v.registry.reserve candidate).1,
          { v with registry := (v.registry.reserve candidate).2 }))
        (fun _ => rfl) fun _ => rfl) fun reservation => ?_
      cases reservation with
      | existing r =>
        apply (Blind.log _ _ _).bind
        intro _
        exact .pure _
      | fresh r =>
        refine Blind.bind (.gets (fun _ t => t) fun _ => rfl) fun now => ?_
        apply (blind_apply r now).bind
        intro result
        cases result with
        | ok _ => exact .pure _
        | error err => exact .pure _

end Lifecycle

/-! ### Engines between two operations -/

/-- The answers to the install of an instrument: an instrument that is registered under its
identity, or a way for the install to fail. -/
inductive Instrument.Answered (i : Instrument) : Except InstrumentError Instrument → Prop where
  /-- An instrument of the same identity. -/
  | installed (installed : Instrument) (own : installed.id = i.id) : i.Answered (.ok installed)
  /-- A way to fail. -/
  | failed (err : InstrumentError) (requests : List Request) (fails : i.Fails err requests) :
      i.Answered (.error err)

namespace Engine

variable {settings : Settings} {clock : Instant} {e e' : Engine} {i : Instrument}
  {answer : (request : Request) → request.Answer}

/-- The engine looks like one that operations have left that ran one after another. -/
def Settled (settings : Settings) (clock : Instant) (e : Engine) : Prop :=
  ∃ s, Conduct.successive.Run (.idle (.new settings clock)) s ∧ s.calls = []
    ∧ e.view = s.engine.view ∧ e.clock = s.engine.clock

namespace Settled

/-- A record in the log. -/
protected theorem log (h : e.Settled settings clock) (level : Level) (message : String)
    (fields : List (String × String)) :
  (e.log level message fields).Settled settings clock
  := by
  obtain ⟨s, run, idle, view, time⟩ := h
  exact ⟨s, run, idle, (e.view_log level message fields).trans view, time⟩

/-- An install. -/
protected theorem install (h : e.Settled settings clock)
    (answer : (request : Request) → request.Answer) (i : Instrument) :
  (e.perform answer (.install i)).2.Settled settings clock
  := by
  obtain ⟨s, run, idle, view, time⟩ := h
  obtain ⟨-, view', time'⟩ := (Lifecycle.blind_install answer i).looks view time
  have same : s.engine.conclude (.steady answer) (.install i)
      = s.engine.perform answer (.install i) := Routine.runBy_steady answer _ _
  refine ⟨_, run.conclude idle (.steady answer) (.install i), idle, ?_, ?_⟩
  · rw [same]
    exact view'
  · rw [same]
    exact time'

/-- The engine is sound. -/
theorem sound (h : e.Settled settings clock) :
  e.Sound
  := by
  obtain ⟨s, run, -, view, -⟩ := h
  have sound : s.engine.Sound := run.since.succeeds.sound
  exact (sound.keep (congrArg View.registry view)).sound

/-- What is not registered is not pending. -/
theorem tidy (h : e.Settled settings clock) (free : e.registry.get? i.id = none) :
  e.retries.isPending i.id = false
  := by
  obtain ⟨s, run, -, view, -⟩ := h
  change e.view.registry.get? i.id = none at free
  change e.view.retries.isPending i.id = false
  rw [view] at free ⊢
  by_contra waits
  obtain ⟨r, applying⟩ := run.heeding.heeded i.id (eq_true_of_ne_false waits)
  have notApplying := (Registry.get?_eq_none_iff.mp free).2
  exact absurd (applying.symm.trans notApplying) (by simp)

/-- An install that fails leaves nothing behind. -/
theorem restored (h : e.Settled settings clock) {err : InstrumentError}
    (fails : (e.perform answer (.install i)).1 = .error err) :
  (e.perform answer (.install i)).2.view.Restored e.view i err e.clock
  := by
  have shows : (Lifecycle.install i).Shows answer
      (fun result v' => ∀ err, result = .error err → v'.Restored e.view i err e.clock)
      e.view e.clock :=
    Lifecycle.shows_install i h.sound.wellKept h.tidy
  exact (shows e rfl rfl).1 err fails

end Settled

/-! ### What an install is answered -/

/-- An install that is answered with an instrument is answered with one of its identity. -/
theorem Sound.id_of_installed (sound : e.Sound) {installed : Instrument}
    (succeeds : (e.perform answer (.install i)).1 = .ok installed) :
  installed.id = i.id
  := by
  change ((Lifecycle.install i).runAlone answer e).1 = .ok installed at succeeds
  rw [Lifecycle.install, Routine.runAlone_bind, Routine.runAlone_gets] at succeeds
  dsimp only at succeeds
  cases registered : e.registry.get? i.id with
  | some r =>
    rw [registered] at succeeds
    obtain rfl := Except.ok.inj succeeds
    exact sound.wellKept.id_eq registered
  | none =>
    rw [registered] at succeeds
    cases valid : Candidate.ofInstrument i with
    | error err =>
      rw [valid] at succeeds
      cases succeeds
    | ok candidate =>
      rw [valid] at succeeds
      obtain rfl := Candidate.instrument_of valid
      obtain ⟨g, fresh⟩ : ∃ g, e.registry.reserve candidate
          = (.fresh (.ofCandidate e.registry.nextSerial candidate), g) := by
        rw [Registry.reserve, registered]
        exact ⟨_, rfl⟩
      simp only [Routine.runAlone_bind, Routine.runAlone_update, fresh, Routine.runAlone_gets]
        at succeeds
      split at succeeds
      · obtain rfl := Except.ok.inj succeeds
        rfl
      · cases succeeds

/-- An install is answered with what is about its instrument. -/
theorem Settled.answered (h : e.Settled settings clock)
    (answer : (request : Request) → request.Answer) (i : Instrument) :
  i.Answered (e.perform answer (.install i)).1
  := by
  cases answered : (e.perform answer (.install i)).1 with
  | ok installed => exact .installed installed (h.sound.id_of_installed answered)
  | error err =>
    obtain ⟨entries, -, -, fails⟩ := (h.restored answered).history
    exact .failed err _ fails

/-! ### Engines that hold the same but for frames -/

/-- An install finds the same in engines that resemble each other in its identity. -/
theorem Resembles.install_own (h : e.Resembles e' i.id)
    (answer : (request : Request) → request.Answer) :
  (e.perform answer (.install i)).1 = (e'.perform answer (.install i)).1
    ∧ (e.perform answer (.install i)).2.Resembles (e'.perform answer (.install i)).2 i.id
  := by
  obtain ⟨answered, own, -⟩ := Lifecycle.sideBySide_install i h
  exact ⟨answered, own⟩

/-- An install is answered in the same way by engines that resemble each other in all identities,
and leaves engines that do. -/
theorem Resembles.install (h : ∀ z, e.Resembles e' z)
    (answer : (request : Request) → request.Answer) (i : Instrument) :
  (e.perform answer (.install i)).1 = (e'.perform answer (.install i)).1
    ∧ ∀ z, (e.perform answer (.install i)).2.Resembles (e'.perform answer (.install i)).2 z
  := by
  obtain ⟨answered, own⟩ := (h i.id).install_own answer
  have changes := (h i.id).sound.perform_changesOnly answer (a := .install i) rfl
  have changes' := (h i.id).sound'.perform_changesOnly answer (a := .install i) rfl
  use answered
  intro z
  by_cases same : z = i.id
  · rw [same]
    exact own
  · have before := changes.resembles (h z).sound same
    have before' := changes'.resembles (h z).sound' same
    exact before.symm.trans ((h z).trans before')

/-- An engine that looks the same has the same stores, but for the frames. -/
theorem Resembles.look {e₁ : Engine} {z : InstrumentId} (h : e.Resembles e₁ z)
    (view : e₁.view = e'.view) (clock : e₁.clock = e'.clock) :
  e.Resembles { e' with frames := e.frames } z
  := by
  have registry : e₁.registry = e'.registry := congrArg View.registry view
  have retries : e₁.retries = e'.retries := congrArg View.retries view
  have sound := h.sound'
  constructor
  · exact h.sound
  · exact ⟨registry ▸ sound.wellKept⟩
  · apply Engine.standing_eq_iff.mpr
    exact ⟨registry ▸ h.live, registry ▸ h.applying, retries ▸ h.pending, rfl⟩
  · exact retries ▸ h.policy
  · exact h.clock.trans clock

/-- An engine resembles what it resembled before an install that has failed, but for the frames. -/
theorem Resembles.restored {e₁ : Engine} {err : InstrumentError} {z : InstrumentId}
    (h : e.Resembles { e' with frames := e.frames } z) (changes : e₁.ChangesOnly e i.id)
    (restored : e₁.view.Restored e.view i err e.clock) :
  e₁.Resembles { e' with frames := e₁.frames } z
  := by
  have live : e₁.registry.live = e.registry.live := restored.live
  have applying : e₁.registry.applying = e.registry.applying := restored.applying
  have retries : e₁.retries = e.retries := restored.retries
  have sound := h.sound'
  constructor
  · exact changes.sound
  · exact ⟨sound.wellKept⟩
  · apply Engine.standing_eq_iff.mpr
    exact ⟨live ▸ h.live, applying ▸ h.applying, retries ▸ h.pending, rfl⟩
  · exact changes.policy.trans h.policy
  · exact changes.clock.trans h.clock

/-- The engines keep the same for all identities, but for the numbers of registrations and for
frames of some identities. -/
structure Accords (e e' : Engine) (xs : InstrumentId → Prop) : Prop where
  /-- With the same frames they resemble each other. -/
  stores : ∀ z, e.Resembles { e' with frames := e.frames } z
  /-- The other frames are the same. -/
  frames : ∀ z, ¬xs z → e.frames.frames.get? z = e'.frames.frames.get? z

namespace Accords

variable {xs : InstrumentId → Prop}

/-- Engines that resemble each other in all identities. -/
theorem of_resembles (h : ∀ z, e.Resembles e' z) (xs : InstrumentId → Prop) :
  e.Accords e' xs
  := ⟨fun z => (h z).look rfl rfl, fun z _ => (h z).frame⟩

/-- The other engine is sound. -/
theorem sound' (h : e.Accords e' xs) :
  e'.Sound
  := by
  have sound := (h.stores "").sound'
  exact ⟨sound.wellKept⟩

/-- The engines resemble each other in an identity whose frame is the same. -/
theorem resembles (h : e.Accords e' xs) {z : InstrumentId} (kept : ¬xs z) :
  e.Resembles e' z
  := by
  constructor
  · exact (h.stores z).sound
  · exact h.sound'
  · exact Engine.standing_eq_iff.mpr
      ⟨(h.stores z).live, (h.stores z).applying, (h.stores z).pending, h.frames z kept⟩
  · exact (h.stores z).policy
  · exact (h.stores z).clock

/-- Both engines take an install. -/
protected theorem install (h : e.Accords e' xs)
    (answer : (request : Request) → request.Answer) (i : Instrument) :
  (e.perform answer (.install i)).1 = (e'.perform answer (.install i)).1
    ∧ (e.perform answer (.install i)).2.Accords (e'.perform answer (.install i)).2 xs
  := by
  -- with the frames of the first engine the second one looks as before
  obtain ⟨answered, resembles⟩ := Resembles.install h.stores answer i
  have look : ({ e' with frames := e.frames } : Engine).view = e'.view := rfl
  obtain ⟨answered', view, clock⟩ := (Lifecycle.blind_install answer i).looks look rfl
  have changes := (h.stores "").sound.perform_changesOnly answer (a := .install i) rfl
  have changes' := h.sound'.perform_changesOnly answer (a := .install i) rfl
  use answered.trans answered'
  constructor
  · intro z
    exact (resembles z).look view clock
  · intro z kept
    by_cases same : z = i.id
    · subst same
      exact ((h.resembles kept).install_own answer).2.frame
    · have before := congrArg Standing.frame (changes.others z same)
      have before' := congrArg Standing.frame (changes'.others z same)
      exact before.trans ((h.frames z kept).trans before'.symm)

/-- An install that fails is taken by the first engine alone. -/
protected theorem failure (h : e.Accords e' xs) (settled : e.Settled settings clock)
    {err : InstrumentError} (fails : (e.perform answer (.install i)).1 = .error err)
    (covered : xs i.id) :
  (e.perform answer (.install i)).2.Accords e' xs
  := by
  have changes := settled.sound.perform_changesOnly answer (a := .install i) rfl
  constructor
  · intro z
    exact (h.stores z).restored changes (settled.restored fails)
  · intro z kept
    have other : z ≠ i.id := by
      rintro rfl
      exact kept covered
    exact (congrArg Standing.frame (changes.others z other)).trans (h.frames z kept)

end Accords

end Engine

/-! ### Lists of installs -/

/-- The instruments of a list whose installs succeed. -/
def Outcome.succeeding (instruments : List Instrument)
    (answers : List (Except InstrumentError Instrument)) : List Instrument :=
  ((instruments.zip answers).filter fun m => m.2.isOk).map Prod.fst

/-- The install of a member of the identity fails. -/
def Outcome.Fails (instruments : List Instrument)
    (answers : List (Except InstrumentError Instrument)) (x : InstrumentId) : Prop :=
  ∃ m ∈ instruments.zip answers, m.1.id = x ∧ m.2.isOk = false

namespace Control

open Routine

variable {settings : Settings} {clock : Instant} {e e' : Engine}
  {answer : (request : Request) → request.Answer} {xs : InstrumentId → Prop}

/-- What installs that run one after another are answered depends only on what is seen. -/
theorem installEach_looks (answer : (request : Request) → request.Answer)
    (instruments : List Instrument) (view : e'.view = e.view)
    (time : e'.clock = e.clock) :
  e'.installEach (.steady answer) instruments = e.installEach (.steady answer) instruments
  := by
  induction instruments generalizing e e' with
  | nil => rfl
  | cons i rest ih =>
    obtain ⟨answered, view', time'⟩ :=
      (Lifecycle.blind_install answer i).looks view time
    simp only [Engine.installEach, Engine.conclude, runBy_steady]
    exact congrArg₂ List.cons answered (ih view' time')

/-- The installs of a list leave what the others leave after the first. -/
theorem runAlone_add_cons (e : Engine) (i : Instrument) (rest : List Instrument) :
  ((add (i :: rest)).runAlone answer e).2
    = ((add rest).runAlone answer (e.perform answer (.install i)).2).2
  := by
  change _ = ((add rest).runAlone answer ((Lifecycle.install i).runAlone answer e).2).2
  rw [add, runAlone_bind, runAlone_bind]
  cases ((Lifecycle.install i).runAlone answer e).1 with
  | ok installed => rfl
  | error err => rfl

/-- An install that succeeds is the first of the outcome. -/
theorem runAlone_add_cons_of_ok {installed i : Instrument} (rest : List Instrument)
    (succeeds : (e.perform answer (.install i)).1 = .ok installed) :
  ((add (i :: rest)).runAlone answer e).1
    = { ((add rest).runAlone answer (e.perform answer (.install i)).2).1 with
        affected := installed
          :: ((add rest).runAlone answer (e.perform answer (.install i)).2).1.affected }
  := by
  change ((Lifecycle.install i).runAlone answer e).1 = _ at succeeds
  rw [add, runAlone_bind, runAlone_bind, succeeds]
  rfl

/-- The installs of a list, and those of the list without the members that fail. -/
theorem add_isolates (settled : e.Settled settings clock) (accords : e.Accords e' xs)
    (instruments : List Instrument)
    (covered : ∀ m ∈ instruments.zip (e.installEach (.steady answer) instruments),
      m.2.isOk = false → xs m.1.id) :
  ((add (Outcome.succeeding instruments
        (e.installEach (.steady answer) instruments))).runAlone answer e').1
      = { affected := (e.installEach (.steady answer) instruments).filterMap Except.toOption
          errors := [] }
    ∧ ((add instruments).runAlone answer e).2.Accords
      ((add (Outcome.succeeding instruments
        (e.installEach (.steady answer) instruments))).runAlone answer e').2 xs
  := by
  -- both engines take a member that succeeds, and the first one alone takes a member that fails
  induction instruments generalizing e e' with
  | nil => exact ⟨rfl, accords⟩
  | cons i rest ih =>
    have each : e.installEach (.steady answer) (i :: rest) = (e.perform answer (.install i)).1
        :: (e.perform answer (.install i)).2.installEach (.steady answer) rest := by
      simp only [Engine.installEach, Engine.conclude, runBy_steady]
      rfl
    rw [each, List.zip_cons_cons, List.forall_mem_cons] at covered
    rw [each, runAlone_add_cons]
    cases answered : (e.perform answer (.install i)).1 with
    | ok installed =>
      obtain ⟨same, after⟩ := accords.install answer i
      rw [answered] at same
      obtain ⟨outcome, agrees⟩ := ih (settled.install answer i) after covered.2
      have kept (answers : List (Except InstrumentError Instrument)) :
          Outcome.succeeding (i :: rest) (.ok installed :: answers)
            = i :: Outcome.succeeding rest answers := rfl
      rw [kept, runAlone_add_cons, runAlone_add_cons_of_ok _ same.symm, outcome]
      exact ⟨rfl, agrees⟩
    | error err =>
      rw [answered] at covered
      have after := accords.failure settled answered (covered.1 rfl)
      have left (answers : List (Except InstrumentError Instrument)) :
          Outcome.succeeding (i :: rest) (.error err :: answers)
            = Outcome.succeeding rest answers := rfl
      rw [left]
      exact ih (settled.install answer i) after covered.2

/-- Each install of a list is answered with what is about its instrument. -/
theorem forall₂_answered (settled : e.Settled settings clock) (instruments : List Instrument) :
  List.Forall₂ Instrument.Answered instruments (e.installEach (.steady answer) instruments)
  := by
  induction instruments generalizing e with
  | nil => exact .nil
  | cons i rest ih =>
    have after := settled.install answer i
    simp only [Engine.installEach, Engine.conclude, runBy_steady]
    exact .cons (settled.answered answer i) (ih after)

end Control

namespace Engine

/-- The outcome of a command that was read and that nothing interrupts, and the engine that it
leaves. -/
def obey (e : Engine) (answer : (request : Request) → request.Answer) (c : Command) :
    Outcome × Engine :=
  (Control.perform c).runAlone answer e

/-- The registered and the deferred instruments are the same, but for the numbers of registrations,
which tell how many were registered before. -/
structure StoresAgree (e e' : Engine) : Prop where
  /-- The live instruments are the same. -/
  live : e.registry.live.map Registration.unnumbered = e'.registry.live.map Registration.unnumbered
  /-- The applying instruments are the same. -/
  applying :
    e.registry.applying.map Registration.unnumbered
      = e'.registry.applying.map Registration.unnumbered
  /-- The deferred installs are the same. -/
  retries : e.retries = e'.retries

variable {settings : Settings} {clock : Instant} {e e' : Engine}
  {answer : (request : Request) → request.Answer} {xs : InstrumentId → Prop} {c d : Command}

/-- Engines that keep the same but for frames have stores that agree. -/
theorem Accords.storesAgree (h : e.Accords e' xs) :
  e.StoresAgree e'
  := by
  have agrees := Agrees.of_resembles h.stores
  exact ⟨agrees.live, agrees.applying, agrees.retries⟩

/-- An adding command installs what it lists once that has been logged. -/
theorem obey_of_add (e : Engine) (answer : (request : Request) → request.Answer)
    (adds : c.action = .add) :
  ∃ fields, e.obey answer c
    = (Control.add c.instruments).runAlone answer (e.log .debug "handling command" fields)
  := by
  rw [obey, Control.perform, Routine.runAlone_bind, adds]
  exact ⟨_, rfl⟩

/-- The outcome of an adding command is what each of its installs is answered after the ones
before. -/
theorem obey_fst (e : Engine) (answer : (request : Request) → request.Answer)
    (adds : c.action = .add) :
  (e.obey answer c).1
    = { affected := (e.installEach (.steady answer) c.instruments).filterMap Except.toOption
        errors := (e.installEach (.steady answer) c.instruments).filterMap Outcome.failure? }
  := by
  obtain ⟨fields, obeys⟩ := e.obey_of_add answer adds
  have each := Control.installEach_looks answer c.instruments
    (e.view_log .debug "handling command" fields) rfl
  rw [obeys, ← Routine.runBy_steady, Control.runBy_add, each]

/-- An adding command, and one that lists the members that do not fail. -/
theorem Settled.obey (settled : e.Settled settings clock) (adds : c.action = .add)
    (adds' : d.action = .add)
    (lists : d.instruments
      = Outcome.succeeding c.instruments (e.installEach (.steady answer) c.instruments)) :
  (e.obey answer d).1
      = { affected := (e.installEach (.steady answer) c.instruments).filterMap Except.toOption
          errors := [] }
    ∧ (e.obey answer c).2.Accords (e.obey answer d).2
      (Outcome.Fails c.instruments (e.installEach (.steady answer) c.instruments))
  := by
  obtain ⟨fields, obeys⟩ := e.obey_of_add answer adds
  obtain ⟨fields', obeys'⟩ := e.obey_of_add answer adds'
  have sound (fields : List (String × String)) :
      (e.log .debug "handling command" fields).Sound :=
    (Notes.log e _ _ fields).sound settled.sound
  have accords : (e.log .debug "handling command" fields).Accords
      (e.log .debug "handling command" fields')
      (Outcome.Fails c.instruments (e.installEach (.steady answer) c.instruments)) :=
    .of_resembles (fun x => ⟨sound fields, sound fields', rfl, rfl, rfl⟩) _
  have each := Control.installEach_looks answer c.instruments
    (e.view_log .debug "handling command" fields) rfl
  rw [← each] at accords lists
  have isolates := Control.add_isolates (settled.log .debug "handling command" fields) accords
    c.instruments fun m mem fails => ⟨m, mem, rfl, fails⟩
  rw [← lists] at isolates
  rw [obeys, obeys', ← each]
  exact isolates

/-- An adding command that was given as a value is refused if it lists nothing, and is answered with
its outcome otherwise. -/
theorem perform_handle_of_add (e : Engine) (answer : (request : Request) → request.Answer)
    {raw : Json} (decoded : Command.decode raw = .ok c) (adds : c.action = .add) :
  (e.perform answer (.handle raw)).1
      = (if c.instruments.isEmpty then
          .error (.invalidCommand "command lists no instruments or locations")
        else .ok (e.obey answer c).1)
    ∧ (e.perform answer (.handle raw)).2.Alike (e.obey answer c).2
  := by
  have empty : c.isEmpty = c.instruments.isEmpty := by rw [Command.isEmpty, adds]
  cases nothing : c.instruments.isEmpty with
  | true =>
    have refused := (Control.always_handle_of_empty (e := e) decoded (empty.trans nothing)).runBy
      (.steady answer)
    rw [Routine.runBy_steady] at refused
    obtain ⟨answered, noted⟩ := refused
    use answered
    obtain ⟨fields, obeys⟩ := e.obey_of_add answer adds
    have none : c.instruments = [] := List.isEmpty_iff.mp nothing
    rw [obeys, none]
    exact ⟨noted.alike.registry, noted.alike.retries, noted.alike.frames⟩
  | false =>
    change (((Control.handle raw).runAlone answer e).1 = _)
      ∧ ((Control.handle raw).runAlone answer e).2.Alike _
    rw [Control.handle, decoded]
    dsimp only
    rw [if_neg (by simp [empty, nothing]), Routine.runAlone_bind]
    split
    · exact ⟨rfl, .publish _ _ _⟩
    · exact ⟨rfl, rfl, rfl, rfl⟩

end Engine

/-- Installs that fail are isolated. When an adding command is carried out after operations that ran
one after another, then each of its members is answered, in order, with an instrument of its
identity or with its failure, and the outcome lists the instruments and the failures in that order.
A command that lists the members that do not fail has the same instruments in its outcome and no
failures, and leaves the same stores and deferred installs. Only frames may differ, and only those
that were captured under the identity of a member that fails. A command that was given as a value
does the same, and is refused if it lists nothing. -/
theorem failing_installs_isolated {settings : Settings} {clock : Instant} {s : Session}
    (run : Conduct.successive.Run (.idle (.new settings clock)) s) (idle : s.calls = [])
    (answer : (request : Request) → request.Answer) {c : Command} (adds : c.action = .add) :
  (∃ answers, answers = s.engine.installEach (.steady answer) c.instruments
      ∧ List.Forall₂ Instrument.Answered c.instruments answers
      ∧ (s.engine.obey answer c).1
        = { affected := answers.filterMap Except.toOption
            errors := answers.filterMap Outcome.failure? }
      ∧ ∀ d : Command, d.action = .add
        → d.instruments = Outcome.succeeding c.instruments answers
        → (s.engine.obey answer d).1
            = { affected := answers.filterMap Except.toOption, errors := [] }
          ∧ (s.engine.obey answer c).2.StoresAgree (s.engine.obey answer d).2
          ∧ ∀ x, (∀ m ∈ c.instruments.zip answers, m.1.id = x → m.2.isOk)
            → (s.engine.obey answer c).2.frames.frames.get? x
              = (s.engine.obey answer d).2.frames.frames.get? x)
    ∧ ∀ raw d, Command.decode raw = .ok d → d.action = .add
      → (s.engine.perform answer (.handle raw)).1
          = (if d.instruments.isEmpty then
              .error (.invalidCommand "command lists no instruments or locations")
            else .ok (s.engine.obey answer d).1)
        ∧ (s.engine.perform answer (.handle raw)).2.Alike (s.engine.obey answer d).2
  := by
  constructor
  · have settled : s.engine.Settled settings clock := ⟨s, run, idle, rfl, rfl⟩
    refine ⟨_, rfl, Control.forall₂_answered settled c.instruments, ?_, ?_⟩
    · exact s.engine.obey_fst answer adds
    · intro d adds' lists
      obtain ⟨outcome, accords⟩ := settled.obey adds adds' lists
      refine ⟨outcome, accords.storesAgree, ?_⟩
      intro x kept
      apply accords.frames
      rintro ⟨m, mem, own, fails⟩
      rw [kept m mem own] at fails
      cases fails
  · intro raw d decoded adds'
    exact s.engine.perform_handle_of_add answer decoded adds'

/-- A breakpoint in a unit, to be applied at once. -/
def Instrument.urgent (id : InstrumentId) (unit : String) : Instrument :=
  { breakpointIn unit with id, applyImmediately := true }

/-- The same identity twice in a unit that is not loaded, and in between in one that is. -/
def Command.addThrice : Command := .add [.urgent "b" "V", .urgent "b" "U", .urgent "b" "V"]

/-- The command without its first member. -/
def Command.addTwice : Command := .add [.urgent "b" "U", .urgent "b" "V"]

/-- The first member fails. The last one, which is the same, does not, because the identity is
registered by then. It is so too if the first one is left out. -/
theorem failing_installs_isolated_repeated :
  ∃ s, Conduct.successive.Run (.idle (.new .default default)) s ∧ s.calls = []
    ∧ (s.engine.registry.getLive? "a").isSome
    ∧ (s.engine.perform (Request.answerIn "U") (.handle Command.addThrice.toJson)).1
      = .ok { affected := [.urgent "b" "U", .urgent "b" "U"], errors := [.targetNotFound "b" "V"] }
    ∧ (s.engine.perform (Request.answerIn "U") (.handle Command.addTwice.toJson)).1
      = .ok { affected := [.urgent "b" "U", .urgent "b" "U"], errors := [] }
    ∧ (s.engine.obey (Request.answerIn "U") Command.addThrice).2.StoresAgree
      (s.engine.obey (Request.answerIn "U") Command.addTwice).2
  := by
  have installs : Conduct.successive.AllowsAll (.idle (.new .default default))
      [.start (.install (.breakpointIn "U")), .reply true, .reply true] :=
    ⟨rfl, trivial, trivial, trivial⟩
  obtain ⟨⟨answers, each, -, -, isolated⟩, -⟩ := failing_installs_isolated installs.run rfl
    (Request.answerIn "U") (c := Command.addThrice) rfl
  obtain ⟨-, agrees, -⟩ := isolated Command.addTwice rfl (by rw [each]; rfl)
  exact ⟨_, installs.run, rfl, rfl, rfl, rfl, agrees⟩

end Instrumentation
