import Instrumentation.Proofs.Ensures

/-!
# Upkeep

An invariant that withstands what removals and hits write is kept by every operation that attempts
no install. What the installs of a command are answered is collected in its outcome, so that what is
known of every install by itself is known of the command.
-/

namespace Instrumentation

/-- The condition withstands what is of no concern, and that the patch of a live instrument is taken
back. -/
structure Calm {Γ : Type} (T : Handling Γ) (holds : Γ → Engine → Prop) : Prop where
  /-- Nothing of concern happens. -/
  quiet {γ : Γ} {e e' : Engine} (h : holds γ e) (quiet : e'.Quiet e) : holds γ e'
  /-- The patch of a live instrument is taken back. -/
  withdraw {γ : Γ} {e : Engine} (h : holds γ e) (r : Registration)
    {after : Except TransformError Unit → Γ → Engine → Prop}
    (goes : ∀ answer γ' e', holds γ' e' → after answer γ' e') :
    T.before (.withdraw r) after γ e

/-- The invariant withstands what removals write. A proposition that holds beside it may be
weakened. -/
structure Removing {Γ : Type} (T : Handling Γ) (holds : Prop → Γ → Engine → Prop) : Prop where
  /-- A weaker proposition holds beside it. -/
  weaken {P P' : Prop} {γ : Γ} {e : Engine} (h : holds P γ e) (weaker : P → P') : holds P' γ e
  /-- Nothing of concern happens. -/
  quiet {P : Prop} {γ : Γ} {e e' : Engine} (h : holds P γ e) (quiet : e'.Quiet e) : holds P γ e'
  /-- An identity is removed. -/
  leave {P : Prop} {γ : Γ} {e : Engine} (h : holds P γ e) (x : InstrumentId) :
    holds P γ { e with registry := (e.registry.detach x).2, retries := e.retries.cancel x }
  /-- The patch of a live instrument is taken back. -/
  withdraw {P : Prop} {γ : Γ} {e : Engine} (h : holds P γ e) (r : Registration)
    {after : Except TransformError Unit → Γ → Engine → Prop}
    (goes : ∀ answer γ' e', holds P γ' e' → after answer γ' e') :
    T.before (.withdraw r) after γ e

/-- The invariant withstands what removals and hits write, whatever a hit is counted by. -/
structure Upkeep {Γ : Type} (T : Handling Γ) (holds : Prop → Γ → Engine → Prop) : Prop extends
    Removing T holds where
  /-- A hit is counted. -/
  touch {P : Prop} {γ : Γ} {e : Engine} (h : holds P γ e) (x : InstrumentId)
    {f : Registration → Registration} (alike : ∀ r, (f r).Alike r) :
    holds P γ { e with registry := e.registry.modify x f }

/-- An invariant that withstands removals withstands what is of no concern. -/
theorem Removing.calm {Γ : Type} {T : Handling Γ} {holds : Prop → Γ → Engine → Prop}
    (keeps : Removing T holds) (P : Prop) :
  Calm T (holds P)
  := ⟨keeps.quiet, keeps.withdraw⟩

namespace Lifecycle

open Routine

variable {Γ : Type} {T : Handling Γ} {γ : Γ} {e : Engine}

/-! ### One removal -/

section Removal

variable {goal : Γ → Engine → Prop}

/-- The patch of a live instrument is taken back during its removal. -/
theorem ensures_reverseLive (calm : Calm T goal) (h : goal γ e) (r : Registration)
    (cause : Option String) :
  (reverseLive r cause).Ensures T (fun _ => goal) γ e
  := by
  rw [reverseLive]
  split
  · rw [ensures_bind]
    have asks : goal γ (e.note (Call.withdraw r).asked) := calm.quiet h (.note e rfl trivial)
    apply ensures_request
    apply calm.withdraw asks r
    intro answer γ₁ e₁ h₁ e₂ quiet
    have h₂ := calm.quiet h₁ quiet
    cases answer with
    | ok => exact h₂
    | error source =>
      simp only [ensures_bind]
      apply ensures_log
      intro e₃ quiet₃
      apply calm.quiet h₂ quiet₃
  · exact h

/-- The removal of an identity reaches what holds once the identity is detached, or what held before
if it is free. -/
theorem ensures_detachEntry (calm : Calm T goal) (x : InstrumentId) (cause : Option String)
    (withFrame : Bool) (free : e.registry.get? x = none → goal γ e)
    (leave : goal γ
      { e with registry := (e.registry.detach x).2, retries := e.retries.cancel x }) :
  (removeEntry x cause withFrame).Ensures T (fun _ => goal) γ e
  := by
  simp only [removeEntry, ensures_bind]
  apply ensures_detach
  cases detached : (e.registry.detach x).1 with
  | none =>
    rw [Registry.detach_none detached]
    apply free
    rw [Registry.detach_fst] at detached
    exact Option.map_eq_none_iff.mp detached
  | some r =>
    have rest {e₁ : Engine} (left : goal γ e₁) : (do
        let cause ← reverseLive r cause
        let given := cause.elim [] fun text => [("cause", text)]
        log .info "instrument removed"
          ([("instrument_id", r.id), ("kind", r.instrument.kind.name)] ++ given)
        publish (some r.serial) fun t => .removed r.instrument cause t
        return some r.instrument).Ensures T (fun _ => goal) γ e₁ := by
      simp only [ensures_bind]
      apply (ensures_reverseLive calm left r cause).mono
      intro cause' γ₂ e₂ h₂
      apply ensures_log
      intro e₃ quiet₃
      refine ensures_publish trivial ?_
      intro e₄ quiet₄
      apply calm.quiet h₂ (quiet₄.trans quiet₃)
    simp only [ensures_bind]
    apply ensures_modify
    split
    · rw [ensures_bind]
      apply ensures_modify
      apply rest (calm.quiet leave (.frames _ _))
    · apply rest leave

/-- The removal of what has expired goes on from an engine in which nothing of concern happened. -/
theorem ensures_expired (now : Instant)
    (removes : ∀ e', e'.Quiet e
      → (removeEach (e.registry.expired now)).Ensures T (fun _ => goal) γ e') :
  (sweep now).Ensures T (fun _ => goal) γ e
  := by
  simp only [sweep, ensures_bind]
  apply ensures_gets
  split
  · rw [ensures_bind]
    apply ensures_log
    intro e₁ quiet
    rw [ensures_bind]
    apply removes e₁ quiet
  · rw [ensures_bind]
    apply removes e (.refl e)

end Removal

/-! ### Removals -/

variable {holds : Prop → Γ → Engine → Prop} {P : Prop}

/-- The removal of an identity. -/
theorem ensures_removeEntry (keeps : Removing T holds) (h : holds P γ e) (x : InstrumentId)
    (cause : Option String) (withFrame : Bool) :
  (removeEntry x cause withFrame).Ensures T (fun _ => holds P) γ e
  := ensures_detachEntry (keeps.calm P) x cause withFrame (fun _ => h) (keeps.leave h x)

/-- The removal of identities one after another. -/
theorem ensures_removeEach (keeps : Removing T holds) (h : holds P γ e) (ids : List InstrumentId) :
  (removeEach ids).Ensures T (fun _ => holds P) γ e
  := by
  induction ids generalizing γ e with
  | nil => exact h
  | cons x ids ih =>
    simp only [removeEach, ensures_bind]
    apply (ensures_removeEntry keeps h x none true).mono
    intro removed γ₁ e₁ h₁
    apply (ih h₁).mono
    intro others γ₂ e₂ h₂
    exact h₂

/-- The removal of an identity, or of every instrument at a location. -/
theorem ensures_remove (keeps : Removing T holds) (h : holds P γ e) (query : Location)
    (x : Option InstrumentId) :
  (remove query x).Ensures T (fun _ => holds P) γ e
  := by
  cases x with
  | some x =>
    simp only [remove, ensures_bind]
    apply ensures_removeEntry keeps h
  | none =>
    simp only [remove, removeByLocation, ensures_bind]
    apply ensures_gets
    apply ensures_removeEach keeps h

/-- The removal of what has expired. -/
theorem ensures_sweep (keeps : Removing T holds) (h : holds P γ e) (now : Instant) :
  (sweep now).Ensures T (fun _ => holds P) γ e
  := by
  apply ensures_expired
  intro e₁ quiet
  apply ensures_removeEach keeps (keeps.quiet h quiet)

/-! ### Hits -/

/-- The removal of an instrument that has had its last hit. -/
theorem ensures_finishIfDone (keeps : Upkeep T holds) (h : holds P γ e) (r : Registration) :
  (finishIfDone r).Ensures T (fun _ => holds P) γ e
  := by
  rw [finishIfDone]
  split
  · simp only [ensures_bind]
    apply ensures_modify
    have counted := keeps.touch h r.id (f := fun r => { r with isDone := true })
      fun _ => ⟨rfl, rfl, rfl, rfl⟩
    apply ensures_log
    intro e₁ quiet
    apply ensures_removeEntry keeps.toRemoving (keeps.quiet counted quiet)
  · exact h

/-- The end of a hit that was admitted. -/
theorem ensures_judge (keeps : Upkeep T holds) (h : holds P γ e) (r : Registration) :
  (judge r).Ensures T (fun _ => holds P) γ e
  := by
  have finishes : (do
      finishIfDone r
      return true).Ensures T (fun _ => holds P) γ e := by
    rw [ensures_bind]
    apply ensures_finishIfDone keeps h
  rw [judge]
  cases r.predicate with
  | none => exact finishes
  | some p =>
    rw [ensures_bind]
    apply ensures_gets
    cases p.evaluate (e.frames.get r.id) with
    | ok holds =>
      cases holds with
      | true => exact finishes
      | false =>
        simp only [ensures_bind]
        apply ensures_log
        intro e₁ quiet
        apply ensures_modify
        apply keeps.quiet h (Engine.Quiet.trans (.frames _ _) quiet)
    | error source =>
      simp only [ensures_bind]
      apply ensures_modify
      have cleared := keeps.quiet h (.frames e (e.frames.clear r.id))
      apply ensures_log
      intro e₁ quiet
      apply ensures_removeEntry keeps.toRemoving (keeps.quiet cleared quiet)

/-- A pass through the patch point. -/
theorem ensures_hit (keeps : Upkeep T holds) (h : holds P γ e) (x : InstrumentId) :
  (hit x).Ensures T (fun _ => holds P) γ e
  := by
  simp only [hit, ensures_bind]
  apply ensures_gets
  cases e.registry.getLive? x with
  | none =>
    simp only [ensures_bind]
    apply ensures_log
    intro e₁ quiet
    apply keeps.quiet h quiet
  | some r =>
    simp only [ensures_bind]
    apply ensures_gets
    split
    · simp only [ensures_bind]
      apply ensures_removeEntry keeps.toRemoving h
    · simp only [ensures_bind]
      apply ensures_modify
      have counted := keeps.touch h x
        (f := fun s => { s with throttle := (r.throttle.allow e.clock.millis).2 })
        fun _ => ⟨rfl, rfl, rfl, rfl⟩
      split
      · apply ensures_judge keeps counted
      · simp only [ensures_bind]
        apply ensures_log
        intro e₁ quiet
        apply ensures_modify
        apply keeps.quiet counted (Engine.Quiet.trans (.frames _ _) quiet)

end Lifecycle

/-! ### Commands -/

/-- The failure that an install is answered with, if it fails. -/
def Outcome.failure? : Except InstrumentError Instrument → Option InstrumentError
  | .ok _ => none
  | .error err => some err

/-- The outcome collects answers that every instrument of a list was given. -/
def Outcome.Collects (o : Outcome) (answers : Instrument → Except InstrumentError Instrument → Prop)
    (instruments : List Instrument) : Prop :=
  ∃ given, List.Forall₂ answers instruments given
    ∧ o.affected = given.filterMap Except.toOption
    ∧ o.errors = given.filterMap failure?

/-- What is known of the answers to installs is known of the answer to an operation. -/
def Operation.Answers (answers : Instrument → Except InstrumentError Instrument → Prop) :
    (op : Operation) → op.Result → Prop
  | install i, answer => answers i answer
  | handle raw, answer => ∀ command, Command.decode raw = .ok command → command.action = .add
    → command.isEmpty = false → ∃ o, answer = .ok o ∧ o.Collects answers command.instruments
  | handleText text, answer => ∀ raw, Json.parse? text = some raw
    → ∀ command, Command.decode raw = .ok command → command.action = .add
    → command.isEmpty = false → ∃ o, answer = .ok o ∧ o.Collects answers command.instruments
  | _, _ => True

namespace Control

open Routine

variable {Γ : Type} {T : Handling Γ} {holds : Prop → Γ → Engine → Prop} {P : Prop} {γ : Γ}
  {e : Engine} {answers : Instrument → Except InstrumentError Instrument → Prop}

/-- The refusal of a command. -/
theorem ensures_reject (keeps : Removing T holds) (h : holds P γ e) (raw : Json) (cause : String) :
  (reject raw cause).Ensures T (fun _ => holds P) γ e
  := by
  simp only [reject, ensures_bind]
  apply ensures_log
  intro e₁ quiet
  refine ensures_publish trivial ?_
  intro e₂ quiet₂
  apply keeps.quiet h (quiet₂.trans quiet)

/-- The installs of a command. -/
theorem ensures_add (keeps : Removing T holds)
    (installs : ∀ i {P γ e}, holds P γ e
      → (Lifecycle.install i).Ensures T (fun a => holds (P ∧ answers i a)) γ e)
    (h : holds P γ e) (instruments : List Instrument) :
  (add instruments).Ensures T (fun o => holds (P ∧ o.Collects answers instruments)) γ e
  := by
  induction instruments generalizing P γ e with
  | nil => exact keeps.weaken h fun p => ⟨p, [], .nil, rfl, rfl⟩
  | cons i rest ih =>
    simp only [add, ensures_bind]
    apply (installs i h).mono
    intro answer γ₁ e₁ h₁
    apply (ih h₁).mono
    intro o γ₂ e₂ h₂
    cases answer with
    | ok installed =>
      apply keeps.weaken h₂
      rintro ⟨⟨p, own⟩, given, others, affected, errors⟩
      exact ⟨p, .ok installed :: given, .cons own others, congrArg _ affected, errors⟩
    | error err =>
      apply keeps.weaken h₂
      rintro ⟨⟨p, own⟩, given, others, affected, errors⟩
      exact ⟨p, .error err :: given, .cons own others, affected, congrArg _ errors⟩

/-- The removals of listed instruments. -/
theorem ensures_removeListed (keeps : Removing T holds) (h : holds P γ e)
    (instruments : List Instrument) :
  (removeListed instruments).Ensures T (fun _ => holds P) γ e
  := by
  induction instruments generalizing γ e with
  | nil => exact h
  | cons i rest ih =>
    simp only [removeListed, ensures_bind]
    apply (Lifecycle.ensures_remove keeps h i.location (some i.id)).mono
    intro removed γ₁ e₁ h₁
    apply (ih h₁).mono
    intro others γ₂ e₂ h₂
    exact h₂

/-- The removals at listed locations. -/
theorem ensures_removeAt (keeps : Removing T holds) (h : holds P γ e) (locations : List Location) :
  (removeAt locations).Ensures T (fun _ => holds P) γ e
  := by
  induction locations generalizing γ e with
  | nil => exact h
  | cons l rest ih =>
    simp only [removeAt, ensures_bind]
    apply (Lifecycle.ensures_remove keeps h l none).mono
    intro removed γ₁ e₁ h₁
    apply (ih h₁).mono
    intro others γ₂ e₂ h₂
    exact h₂

/-- A command that was read. -/
theorem ensures_perform (keeps : Removing T holds)
    (installs : ∀ i {P γ e}, holds P γ e
      → (Lifecycle.install i).Ensures T (fun a => holds (P ∧ answers i a)) γ e)
    (h : holds P γ e) (command : Command) :
  (perform command).Ensures T
    (fun o => holds (P ∧ (command.action = .add → o.Collects answers command.instruments))) γ e
  := by
  simp only [perform, ensures_bind]
  apply ensures_log
  intro e₁ quiet
  have h₁ := keeps.quiet h quiet
  cases command.action with
  | add =>
    apply (ensures_add keeps installs h₁ command.instruments).mono
    intro o γ₂ e₂ h₂
    apply keeps.weaken h₂
    rintro ⟨p, collects⟩
    exact ⟨p, fun _ => collects⟩
  | remove =>
    simp only [remove, ensures_bind]
    apply (ensures_removeListed keeps h₁ command.instruments).mono
    intro listed γ₂ e₂ h₂
    apply (ensures_removeAt keeps h₂ command.locations).mono
    intro located γ₃ e₃ h₃
    exact keeps.weaken h₃ fun p => ⟨p, nofun⟩

/-- A command given as a value. -/
theorem ensures_handle (keeps : Removing T holds)
    (installs : ∀ i {P γ e}, holds P γ e
      → (Lifecycle.install i).Ensures T (fun a => holds (P ∧ answers i a)) γ e)
    (h : holds P γ e) (raw : Json) :
  (handle raw).Ensures T (fun a => holds (P ∧ (Operation.handle raw).Answers answers a)) γ e
  := by
  rw [handle]
  cases read : Command.decode raw with
  | error err =>
    simp only [ensures_bind]
    apply (ensures_reject keeps h raw err.message).mono
    intro refusal γ₁ e₁ h₁
    apply keeps.weaken h₁
    rintro p
    exact ⟨p, fun command decoded => by rw [read] at decoded; cases decoded⟩
  | ok command =>
    dsimp only
    split
    next empty =>
      simp only [ensures_bind]
      apply (ensures_reject keeps h raw _).mono
      intro refusal γ₁ e₁ h₁
      apply keeps.weaken h₁
      rintro p
      use p
      intro command' decoded _ filled
      rw [read] at decoded
      obtain rfl := Except.ok.inj decoded
      rw [empty] at filled
      cases filled
    next =>
      rw [ensures_bind]
      apply (ensures_perform keeps installs h command).mono
      intro o γ₁ e₁ h₁
      have answered {e₂ : Engine} (quiet : e₂.Quiet e₁) :
          holds (P ∧ (Operation.handle raw).Answers answers (.ok o)) γ₁ e₂ := by
        apply keeps.weaken (keeps.quiet h₁ quiet)
        rintro ⟨p, collects⟩
        use p
        intro command' decoded adds _
        rw [read] at decoded
        obtain rfl := Except.ok.inj decoded
        exact ⟨o, rfl, collects adds⟩
      split
      · rw [ensures_bind]
        refine ensures_publish trivial ?_
        intro e₂ quiet
        exact answered quiet
      · exact answered (.refl e₁)

/-- A command given as text. -/
theorem ensures_handleText (keeps : Removing T holds)
    (installs : ∀ i {P γ e}, holds P γ e
      → (Lifecycle.install i).Ensures T (fun a => holds (P ∧ answers i a)) γ e)
    (h : holds P γ e) (text : String) :
  (handleText text).Ensures T (fun a => holds (P ∧ (Operation.handleText text).Answers answers a))
    γ e
  := by
  rw [handleText]
  cases read : Json.parse? text with
  | some raw =>
    apply (ensures_handle keeps installs h raw).mono
    intro answer γ₁ e₁ h₁
    apply keeps.weaken h₁
    rintro ⟨p, known⟩
    use p
    intro raw' parsed
    rw [read] at parsed
    obtain rfl := Option.some.inj parsed
    exact known
  | none =>
    simp only [ensures_bind]
    apply (ensures_reject keeps h _ _).mono
    intro refusal γ₁ e₁ h₁
    apply keeps.weaken h₁
    rintro p
    exact ⟨p, fun raw parsed => by rw [read] at parsed; cases parsed⟩

end Control

end Instrumentation
