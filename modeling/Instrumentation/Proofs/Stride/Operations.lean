import Instrumentation.Proofs.Stride

/-!
# The strides of operations

Every operation goes on by strides with an aim of its own. A removal by identity aims at that
identity, a removal by location at what answers the location, a sweep at what has expired, and an
install aims at nothing.

An operation that goes on by strides does so in every session, since all that others do while it
waits leads to an engine that succeeds the one it left.
-/

namespace Instrumentation

/-! ### Aims -/

/-- A command installs, or removes the identities and what is at the locations that it lists. -/
def Command.aim (command : Command) : Aim :=
  match command.action with
  | .add => { removes := fun _ => False, installs := True }
  | .remove =>
    { removes := fun i => (∃ j ∈ command.instruments, i.id = j.id)
        ∨ ∃ l ∈ command.locations, i.location.answers l = true
      installs := False }

/-- A command that cannot be read does nothing. -/
def Command.aimOf (raw : Json) : Aim :=
  match decode raw with
  | .ok command => command.aim
  | .error _ => { removes := fun _ => False, installs := False }

/-- A removal by identity is meant for that identity, a removal by location for what answers the
location, and a sweep for what has expired. -/
def Operation.aim : Operation → Aim
  | install _ => { removes := fun _ => False, installs := True }
  | removeById x _ => { removes := fun i => i.id = x, installs := False }
  | remove _ (some x) => { removes := fun i => i.id = x, installs := False }
  | remove query none =>
    { removes := fun i => i.location.answers query = true, installs := False }
  | hit x => { removes := fun i => i.id = x, installs := False }
  | sweep now => { removes := fun i => i.isExpiredAt now = true, installs := False }
  | retryDue _ => { removes := fun _ => False, installs := True }
  | tick now => { removes := fun i => i.isExpiredAt now = true, installs := True }
  | handle raw => Command.aimOf raw
  | handleText text =>
    match Json.parse? text with
    | some raw => Command.aimOf raw
    | none => { removes := fun _ => False, installs := False }
  | clear => { removes := fun _ => True, installs := False }

namespace Routine

variable {α β : Type} {g : Registry} {aim : Aim} {a : α} {b : β} {o : Origin} {e e₁ e₂ : Engine}
  {r : Routine α}

/-- A removal that is over changes nothing more that is seen. -/
theorem Removed.alike (h : Removed g aim e a o e₁) (same : e₂.Alike e₁) :
  Removed g aim e b o e₂
  := by
  obtain ⟨removes, stride, later⟩ := h
  exact ⟨removes, stride.alike same, later.alike same⟩

/-- A removal that is over began after another one. -/
theorem Removed.after (h : Removed g aim e₁ a o e₂) (before : e₁.Succeeds e) :
  Removed g aim e b o e₂
  := by
  obtain ⟨removes, stride, later⟩ := h
  exact ⟨removes, stride, later.trans before⟩

/-- An operation may be over when its removal is. -/
theorem Strides.ends (h : r.Strides g aim (Removed g aim e₁) o e) (f : α → β) :
  r.Strides g aim (fun a => Ended g aim (f a)) o e
  := by
  apply h.mono
  rintro _ o' e' ⟨-, stride, -⟩
  exact stride

/-- The end of an operation is the same whatever it returns. -/
theorem Strides.returns (h : r.Strides g aim (Ended g aim) o e) (f : α → β) :
  r.Strides g aim (fun a => Ended g aim (f a)) o e
  := h

end Routine

namespace Lifecycle

open Routine

variable {g : Registry} {aim : Aim} {o : Origin} {e e₁ : Engine}
  {r : Registration} {x : InstrumentId}

/-! ### Installs -/

/-- The detachment of an identity. -/
theorem strides_detach {goal : Option Registration → Origin → Engine → Prop}
    (h : goal (e.registry.detach x).1 o { e with registry := (e.registry.detach x).2 }) :
  (update fun e =>
    let (detached, registry) := e.registry.detach x
    (detached, { e with registry })).Strides g aim goal o e
  := h

/-- An install that fails affects its own identity only. -/
theorem strides_failInstall {goal : InstrumentError → Origin → Engine → Prop}
    {err : InstrumentError} (sound : e.Sound)
    (h : ∀ e', e'.Succeeds e → e.Forsakes r.id e' → goal err o e') :
  (failInstall r err).Strides g aim goal o e
  := by
  simp only [failInstall, strides_bind]
  apply strides_modify
  apply strides_log
  intro e₁ same
  have cancelled := sound.retry (e.retries.cancel r.id)
  have logged := cancelled.alike same
  have after := (logged.sound.detach r.id).trans logged
  have forsakes : e.Forsakes r.id { e₁ with registry := (e₁.registry.detach r.id).2 } := by
    apply Engine.Forsakes.of_detach sound.wellKept
    · rw [same.registry]
    · intro y other
      rw [same.retries]
      exact RetryQueue.get?_cancel_of_ne other
    · intro y other
      rw [same.frames]
  apply strides_detach
  cases detached : (e₁.registry.detach r.id).1 with
  | none => apply h _ after forsakes
  | some s =>
    simp only [strides_bind]
    apply strides_modify
    apply strides_publish
    intro e₂ same₂
    apply h
    · exact (after.sound.keep same₂.registry).trans after
    · exact forsakes.clearFrame.alike same₂

/-- An install whose unit is not loaded is deferred or has failed. -/
theorem strides_deferInstall {now : Instant} (sound : e.Sound) (later : e.registry.Succeeds g)
    (same : e₁.Alike e) :
  (deferInstall r now).Strides g aim (Tried g aim r) ⟨some ⟨.resolve r, false⟩, e⟩ e₁
  := by
  have before : e₁.Succeeds e := sound.alike same
  rw [deferInstall]
  by_cases immediate : r.instrument.applyImmediately = true
  · simp only [if_pos immediate, strides_bind]
    apply strides_failInstall before.sound
    intro e₂ after forsakes
    have fails : (Call.resolve r).Fails e.retries false := ⟨rfl, now, _, .immediate immediate⟩
    use rfl
    apply Stride.fail fails later (after.trans before)
    apply forsakes.precede same.registry _ same.frames
    intro y other
    rw [same.retries]
  · have patient : r.instrument.applyImmediately = false := by simpa using immediate
    have scheduled := (before.sound.retry (e₁.retries.schedule r.id now).2).trans before
    simp only [if_neg immediate, strides_bind]
    apply strides_update
    dsimp only
    cases decision : (e₁.retries.schedule r.id now).1 with
    | scheduled dueAt attempts =>
      simp only [strides_bind]
      apply strides_log
      intro e₂ same₂
      have defers : (Call.resolve r).Defers e.retries false := by
        use rfl
        rw [← same.retries]
        apply RetryQueue.not_givesUp patient decision
      use rfl
      apply Stride.defer defers later
      · exact scheduled.alike same₂
      · exact same₂.registry.trans same.registry
      · rw [same₂.retries]
        exact RetryQueue.isPending_of_scheduled decision
    | exhausted attempts =>
      simp only [strides_bind]
      apply strides_failInstall scheduled.sound
      intro e₂ after forsakes
      have fails : (Call.resolve r).Fails e.retries false := by
        rw [← same.retries]
        exact ⟨rfl, now, _, .exhausted patient attempts decision⟩
      use rfl
      apply Stride.fail fails later (after.trans scheduled)
      apply forsakes.precede same.registry _ same.frames
      intro y other
      rw [← same.retries]
      exact RetryQueue.get?_schedule_of_ne other

/-- An attempt whose patch is taken back is over. -/
theorem tried_restore {answer : Except TransformError Unit} (sound : e.Sound)
    (later : e.registry.Succeeds g) (same : e₁.Alike e) :
  Tried g aim r () ⟨some ⟨.restore r, answer⟩, e⟩ e₁
  := by
  use rfl
  have fails : ¬(Call.restore r).Fails e.retries answer := fun fails => fails
  have defers : ¬(Call.restore r).Defers e.retries answer := fun defers => defers
  apply Stride.rest fails defers sound later same

/-- An install whose patch is in place is confirmed, or takes the patch back. -/
theorem strides_confirmInstall (installs : aim.installs) (sound : e.Sound)
    (later : e.registry.Succeeds g) (same : e₁.Alike e) :
  (confirmInstall r).Strides g aim (Tried g aim r) ⟨some ⟨.patch r, .ok ()⟩, e⟩ e₁
  := by
  -- the same is known of the end and of the call that takes the patch back
  have settles {e' : Engine} {next : Option Call}
      (promoted : e'.Alike { e₁ with retries := e₁.retries.cancel r.id
                                     registry := (e₁.registry.promote r.id).2 }) :
      Stride g aim ⟨some ⟨.patch r, .ok ()⟩, e⟩ e' next := by
    have before : e₁.Succeeds e := sound.alike same
    have cancelled := before.sound.retry (e₁.retries.cancel r.id)
    have after := (cancelled.sound.promote r.id).trans (cancelled.trans before)
    have fails : ¬(Call.patch r).Fails e.retries (.ok ()) := by
      rintro ⟨source, failed⟩
      cases failed
    have defers : ¬(Call.patch r).Defers e.retries (.ok ()) := fun defers => defers
    apply Stride.settle fails defers later
    · exact after.alike promoted
    · intro x n has
      rw [promoted.registry]
      rw [← same.registry] at has
      exact has.promote before.sound.wellKept r.id
  simp only [confirmInstall, strides_bind]
  apply strides_modify
  apply strides_update
  dsimp only
  cases (e₁.registry.promote r.id).1 with
  | some s =>
    simp only [strides_bind]
    apply strides_log
    intro e₂ same₂
    apply strides_publish
    intro e₃ same₃
    exact ⟨rfl, settles (same₃.trans same₂)⟩
  | none =>
    simp only [strides_bind]
    apply strides_log
    intro e₂ same₂
    have reverts : Stride g aim ⟨some ⟨.patch r, .ok ()⟩, e⟩ e₂ (some (.restore r)) :=
      settles same₂
    apply strides_request (.inr installs) reverts
    intro answer e₃ e₄ after same₄
    have later₃ := after.registry.trans reverts.later
    cases answer with
    | ok => apply tried_restore after.sound later₃ same₄
    | error err =>
      apply strides_log
      intro e₅ same₅
      apply tried_restore after.sound later₃ (same₅.trans same₄)

/-- An attempt, from where its unit is asked for. -/
theorem strides_apply {now : Instant} (installs : aim.installs)
    (h : Stride g aim o e (some (.resolve r))) :
  (apply r now).Strides g aim (Tried g aim r) o e
  := by
  simp only [apply, strides_bind]
  apply strides_request (.inr installs) h
  intro loaded e₁ e₂ after same
  have later := after.registry.trans h.later
  cases loaded with
  | false =>
    simp only [Bool.false_eq_true, if_false]
    apply strides_deferInstall after.sound later same
  | true =>
    simp only [if_true, strides_bind]
    have finds : Stride g aim ⟨some ⟨.resolve r, true⟩, e₁⟩ e₂ (some (.patch r)) := by
      have fails : ¬(Call.resolve r).Fails e₁.retries true := by
        rintro ⟨unloaded, -⟩
        cases unloaded
      have defers : ¬(Call.resolve r).Defers e₁.retries true := by
        rintro ⟨unloaded, -⟩
        cases unloaded
      apply Stride.rest fails defers after.sound later same
    apply strides_request (.inr installs) finds
    intro answer e₃ e₄ after₃ same₄
    have later₃ := after₃.registry.trans finds.later
    cases answer with
    | ok =>
      simp only [strides_bind]
      apply (strides_confirmInstall installs after₃.sound later₃ same₄).mono
      intro _ _ _ tried
      exact tried
    | error source =>
      simp only [strides_bind]
      have before₄ : e₄.Succeeds e₃ := after₃.sound.alike same₄
      apply strides_failInstall before₄.sound
      intro e₅ after₅ forsakes
      have fails : (Call.patch r).Fails e₃.retries (.error source) := ⟨source, rfl⟩
      have rejects : Stride g aim ⟨some ⟨.patch r, .error source⟩, e₃⟩ e₅ (some (.restore r)) := by
        apply Stride.fail fails later₃ (after₅.trans before₄)
        apply forsakes.precede same₄.registry _ same₄.frames
        intro y other
        rw [same₄.retries]
      apply strides_request (.inr installs) rejects
      intro answer e₆ e₇ after₆ same₇
      have later₆ := after₆.registry.trans rejects.later
      cases answer with
      | ok => apply tried_restore after₆.sound later₆ same₇
      | error err =>
        simp only [strides_bind]
        apply strides_log
        intro e₈ same₈
        apply tried_restore after₆.sound later₆ (same₈.trans same₇)

/-- An install. -/
theorem strides_install (installs : aim.installs) (h : Stride g aim o e none) (i : Instrument) :
  (install i).Strides g aim (Ended g aim) o e
  := by
  simp only [install, strides_bind]
  apply strides_gets
  cases e.registry.get? i.id with
  | some r =>
    simp only [strides_bind]
    apply strides_log
    intro e₁ same
    exact h.alike same
  | none =>
    cases Candidate.ofInstrument i with
    | error err =>
      simp only [strides_bind]
      apply strides_log
      intro e₁ same
      apply strides_publish
      intro e₂ same₂
      exact h.alike (same₂.trans same)
    | ok candidate =>
      simp only [strides_bind]
      apply strides_update
      cases reserved : e.registry.reserve candidate with
      | mk reservation g' =>
        cases reservation with
        | existing r =>
          obtain rfl := Registry.reserve_existing reserved
          simp only [strides_bind]
          apply strides_log
          intro e₁ same
          exact h.alike same
        | fresh r =>
          simp only [strides_bind]
          apply strides_gets
          apply (strides_apply installs (h.register reserved _)).mono
          intro answer o' e' tried
          cases answer with
          | ok => exact tried.2
          | error err => exact tried.2

/-! ### Removals -/

/-- The patch of a live instrument is taken back during its removal. -/
theorem strides_reverseLive {α : Type} {a : α} {cause : Option String}
    (h : Removed g aim e a o e₁) :
  (reverseLive r cause).Strides g aim (Removed g aim e) o e₁
  := by
  rw [reverseLive]
  split
  · rw [strides_bind]
    obtain ⟨-, stride, before⟩ := h
    have withdraws : (Call.withdraw r).IsWithdrawal := trivial
    apply strides_request (.inl withdraws) stride.proceed
    intro answer e₂ e₃ after same
    have removes := Origin.removes_withdraw r answer e₂
    have withdrawn : Removed g aim e () ⟨some ⟨.withdraw r, answer⟩, e₂⟩ e₂ := by
      use removes
      constructor
      · apply Stride.of_removes removes (.refl after.sound) (after.registry.trans stride.later)
        intro x s _ _ has
        exact has
      · exact after.trans before
    cases answer with
    | ok => apply withdrawn.alike same
    | error source =>
      simp only [strides_bind]
      apply strides_log
      intro e₄ same₄
      apply withdrawn.alike (same₄.trans same)
  · exact h

/-- A removal of an identity under which nothing is to be spared. -/
theorem strides_removeEntry {cause : Option String} {withFrame : Bool} (removes : o.Removes)
    (h : Stride g aim o e none) (doomed : g.Doomed aim e.registry x) :
  (removeEntry x cause withFrame).Strides g aim (Removed g aim e) o e
  := by
  have detaches := h.detach removes doomed
  have after := h.sound.detach x
  simp only [removeEntry, strides_bind]
  apply strides_detach
  cases (e.registry.detach x).1 with
  | none => exact ⟨removes, detaches, after⟩
  | some r =>
    simp only [strides_bind]
    apply strides_modify
    have cancelled : Removed g aim e () o
        { e with registry := (e.registry.detach x).2, retries := e.retries.cancel x } :=
      ⟨removes, detaches.retry removes _, (after.sound.retry _).trans after⟩
    have rest {e₁ : Engine} (cleared : Removed g aim e () o e₁) : (do
        let cause ← reverseLive r cause
        let given := cause.elim [] fun text => [("cause", text)]
        log .info "instrument removed"
          ([("instrument_id", r.id), ("kind", r.instrument.kind.name)] ++ given)
        publish (some r.serial) fun t => .removed r.instrument cause t
        return some r.instrument).Strides g aim (Removed g aim e) o e₁ := by
      simp only [strides_bind]
      apply (strides_reverseLive cleared).mono
      intro cause' o' e' removed
      apply strides_log
      intro e₂ same
      apply strides_publish
      intro e₃ same₃
      apply removed.alike (same₃.trans same)
    split
    · rw [strides_bind]
      apply strides_modify
      apply rest
      obtain ⟨-, stride, before⟩ := cancelled
      use removes, stride.frames removes _
      exact Engine.Succeeds.trans (before.sound.keep rfl) before
    · apply rest cancelled

/-- A removal by identity. -/
theorem strides_removeById {cause : Option String} (removes : o.Removes)
    (h : Stride g aim o e none) (doomed : g.Doomed aim e.registry x) :
  (removeById x cause).Strides g aim (Removed g aim e) o e
  := strides_removeEntry removes h doomed

/-- Removals of identities under which nothing is to be spared. -/
theorem strides_removeEach (w : g.WellKept) {ids : List InstrumentId} (removes : o.Removes)
    (h : Stride g aim o e none) (doomed : ∀ x ∈ ids, g.Doomed aim e.registry x) :
  (removeEach ids).Strides g aim (Removed g aim e) o e
  := by
  induction ids generalizing o e with
  | nil => exact ⟨removes, h, .refl h.sound⟩
  | cons x ids ih =>
    simp only [removeEach, strides_bind]
    apply (strides_removeById removes h (doomed x (.head _))).mono
    rintro removed o₁ e₁ ⟨removes₁, stride₁, after⟩
    -- numbers are given out once, so nothing to be spared can have come back in the meantime
    have still : ∀ y ∈ ids, g.Doomed aim e₁.registry y := fun y mem =>
      (doomed y (.tail _ mem)).succeed w h.later after.registry
    apply (ih removes₁ stride₁ still).mono
    intro others o₂ e₂ removed
    exact removed.after after

/-- A removal by location aims at what answers the location. -/
theorem strides_removeByLocation (w : g.WellKept) {query : Location} (removes : o.Removes)
    (h : Stride g aim o e none) (aims : ∀ i, i.location.answers query = true → aim.removes i) :
  (removeByLocation query).Strides g aim (Removed g aim e) o e
  := by
  simp only [removeByLocation, strides_bind]
  apply strides_gets
  apply strides_removeEach w removes h
  intro x mem
  obtain ⟨r, found, rfl⟩ := List.mem_map.mp mem
  obtain ⟨registered, answers⟩ := h.sound.wellKept.get?_of_found found
  apply Registry.Doomed.of_registered w h.later registered (aims _ answers)

/-- A removal by identity aims at that identity. -/
theorem doomed_of_id (w : g.WellKept) {g' : Registry} (aims : ∀ i, i.id = x → aim.removes i) :
  g.Doomed aim g' x
  := by
  apply Registry.Doomed.of_aim
  intro r found
  apply aims
  exact w.id_eq found

/-- A removal by identity or by location. -/
theorem strides_remove (w : g.WellKept) (query : Location) (x : Option InstrumentId)
    (removes : o.Removes) (h : Stride g aim o e none)
    (aims : ∀ i, (Operation.remove query x).aim.removes i → aim.removes i) :
  (remove query x).Strides g aim (Removed g aim e) o e
  := by
  cases x with
  | some x =>
    simp only [remove, strides_bind]
    apply strides_removeById removes h (doomed_of_id w aims)
  | none => apply strides_removeByLocation w removes h aims

/-! ### Hits -/

/-- The removal of an instrument that has had its last hit. -/
theorem strides_finishIfDone (removes : o.Removes) (h : Stride g aim o e none)
    (doomed : ∀ g', g.Doomed aim g' r.id) :
  (finishIfDone r).Strides g aim (Ended g aim) o e
  := by
  rw [finishIfDone]
  split
  · simp only [strides_bind]
    apply strides_modify
    have counted := h.modify (x := r.id) (f := fun r => { r with isDone := true }) removes
      fun _ => ⟨rfl, rfl, rfl, rfl⟩
    apply strides_log
    intro e₁ same
    exact (strides_removeEntry removes (counted.alike same) (doomed _)).ends _
  · exact h

/-- The end of a hit that was admitted. -/
theorem strides_judge (removes : o.Removes) (h : Stride g aim o e none)
    (doomed : ∀ g', g.Doomed aim g' r.id) :
  (judge r).Strides g aim (Ended g aim) o e
  := by
  have finishes : (do
      finishIfDone r
      return true).Strides g aim (Ended g aim) o e := by
    rw [strides_bind]
    exact (strides_finishIfDone removes h doomed).returns _
  rw [judge]
  cases r.predicate with
  | none => exact finishes
  | some p =>
    rw [strides_bind]
    apply strides_gets
    cases p.evaluate (e.frames.get r.id) with
    | ok holds =>
      cases holds with
      | true => exact finishes
      | false =>
        simp only [strides_bind]
        apply strides_log
        intro e₁ same
        apply strides_modify
        exact (h.alike same).frames removes _
    | error source =>
      simp only [strides_bind]
      apply strides_modify
      apply strides_log
      intro e₁ same
      exact (strides_removeEntry removes ((h.frames removes _).alike same) (doomed _)).ends _

/-- A hit aims at its identity. -/
theorem strides_hit (w : g.WellKept) (removes : o.Removes) (h : Stride g aim o e none)
    (aims : ∀ i, i.id = x → aim.removes i) :
  (hit x).Strides g aim (Ended g aim) o e
  := by
  simp only [hit, strides_bind]
  apply strides_gets
  cases live : e.registry.getLive? x with
  | none =>
    simp only [strides_bind]
    apply strides_log
    intro e₁ same
    exact h.alike same
  | some r =>
    obtain rfl : r.id = x := h.sound.wellKept.live_id live
    simp only [strides_bind]
    apply strides_gets
    split
    · simp only [strides_bind]
      exact (strides_removeEntry removes h (doomed_of_id w aims)).ends _
    · simp only [strides_bind]
      apply strides_modify
      have counted := h.modify (x := r.id)
        (f := fun s => { s with throttle := (r.throttle.allow e.clock.millis).2 }) removes
        fun _ => ⟨rfl, rfl, rfl, rfl⟩
      split
      · apply strides_judge removes counted
        intro g'
        exact doomed_of_id w aims
      · simp only [strides_bind]
        apply strides_log
        intro e₁ same
        apply strides_modify
        exact (counted.alike same).frames removes _

/-! ### Ticks -/

/-- A sweep aims at what has expired. -/
theorem strides_sweep (w : g.WellKept) {now : Instant} (removes : o.Removes)
    (h : Stride g aim o e none) (aims : ∀ i, i.isExpiredAt now = true → aim.removes i) :
  (sweep now).Strides g aim (Removed g aim e) o e
  := by
  have rest {e₁ : Engine} (same : e₁.Alike e) :
      (do return (← removeEach (e.registry.expired now)).length).Strides g aim (Removed g aim e)
        o e₁ := by
    rw [strides_bind]
    apply (strides_removeEach w removes (h.alike same) _).mono
    · intro _ o' e' removed
      exact removed.after (h.sound.alike same)
    intro x mem
    obtain ⟨r, registered, expired⟩ := h.sound.wellKept.get?_of_expired mem
    rw [← same.registry] at registered
    apply Registry.Doomed.of_registered w (h.alike same).later registered (aims _ expired)
  simp only [sweep, strides_bind]
  apply strides_gets
  split
  · rw [strides_bind]
    apply strides_log
    intro e₁ same
    apply rest same
  · apply rest ⟨rfl, rfl, rfl⟩

/-- Attempts one after another. None of them is for the install that was deferred last. -/
theorem strides_retryEach {now : Instant} {ids : List InstrumentId} (installs : aim.installs)
    (h : Stride g aim o e none) (distinct : ids.Nodup) (others : ∀ r, o.Defers r → r.id ∉ ids) :
  (retryEach now ids).Strides g aim (Ended g aim) o e
  := by
  induction ids generalizing o e with
  | nil => exact h
  | cons x ids ih =>
    obtain ⟨once, distinctRest⟩ := List.nodup_cons.mp distinct
    have othersRest : ∀ r, o.Defers r → r.id ∉ ids := fun r deferred mem =>
      others r deferred (.tail _ mem)
    simp only [retryEach, strides_bind]
    apply strides_gets
    cases applying : e.registry.getApplying? x with
    | none =>
      simp only [strides_bind]
      apply strides_modify
      apply ih (h.forget applying _) distinctRest othersRest
      rintro r deferred rfl
      exact others r deferred (.head _)
    | some r =>
      obtain rfl : r.id = x := h.sound.wellKept.applying_id applying
      dsimp only
      split
      · apply ih h distinctRest othersRest
      · simp only [strides_bind]
        apply strides_log
        intro e₁ same
        apply (strides_apply installs (h.alike same).proceed).mono
        rintro answer o₂ e₂ ⟨made, stride⟩
        -- the last deferral is now that of this attempt, if of any, and the rest leave it alone
        have othersNow : ∀ s, o₂.Defers s → s.id ∉ ids := by
          intro s deferred
          obtain rfl := Option.some.inj (made.symm.trans deferred.registration?_eq)
          exact once
        cases answer with
        | ok =>
          simp only [strides_bind]
          exact (ih stride distinctRest othersNow).returns _
        | error err =>
          simp only [strides_bind]
          apply strides_log
          intro e₃ same₃
          exact (ih (stride.alike same₃) distinctRest othersNow).returns _

/-- An attempt for each deferred install that is due. -/
theorem strides_retryDue {now : Instant} (installs : aim.installs) (removes : o.Removes)
    (h : Stride g aim o e none) :
  (retryDue now).Strides g aim (Ended g aim) o e
  := by
  simp only [retryDue, strides_bind]
  apply strides_update
  apply strides_retryEach installs
  · exact h.retry removes _
  · exact RetryQueue.nodup_due _ now
  · intro r deferred
    exact absurd deferred removes.not_defers

/-- A tick aims at what has expired. -/
theorem strides_tick (w : g.WellKept) {now : Instant} (installs : aim.installs)
    (removes : o.Removes) (h : Stride g aim o e none)
    (aims : ∀ i, i.isExpiredAt now = true → aim.removes i) :
  (tick now).Strides g aim (Ended g aim) o e
  := by
  simp only [tick, strides_bind]
  apply (strides_sweep w removes h aims).mono
  rintro expired o₁ e₁ ⟨removes₁, stride₁, -⟩
  exact (strides_retryDue installs removes₁ stride₁).returns _

/-- A reset aims at everything. -/
theorem strides_clear (removes : o.Removes) (h : Stride g aim o e none)
    (aims : ∀ i, aim.removes i) :
  clear.Strides g aim (Ended g aim) o e
  := by
  apply strides_modify
  have after := Engine.Sound.clear e
  apply Stride.of_removes removes (after.trans h.succeeds) (after.registry.trans h.later)
  intro x r _ spared
  exact absurd (aims _) spared

end Lifecycle

namespace Control

open Routine

variable {g : Registry} {aim : Aim} {o : Origin} {e : Engine}

/-! ### Commands -/

/-- The refusal of a command. -/
theorem strides_reject (h : Stride g aim o e none) (raw : Json) (cause : String) :
  (reject raw cause).Strides g aim (Ended g aim) o e
  := by
  simp only [reject, strides_bind]
  apply strides_log
  intro e₁ same
  apply strides_publish
  intro e₂ same₂
  exact h.alike (same₂.trans same)

/-- The installs of a command. -/
theorem strides_add (installs : aim.installs) (h : Stride g aim o e none)
    (instruments : List Instrument) :
  (add instruments).Strides g aim (Ended g aim) o e
  := by
  induction instruments generalizing o e with
  | nil => exact h
  | cons i rest ih =>
    simp only [add, strides_bind]
    apply (Lifecycle.strides_install installs h i).mono
    intro answer o₁ e₁ stride₁
    apply (ih stride₁).mono
    intro outcome o₂ e₂ stride₂
    cases answer with
    | ok => exact stride₂
    | error => exact stride₂

/-- The removals of listed instruments. -/
theorem strides_removeListed (w : g.WellKept) {instruments : List Instrument} (removes : o.Removes)
    (h : Stride g aim o e none) (aims : ∀ j ∈ instruments, ∀ i, i.id = j.id → aim.removes i) :
  (removeListed instruments).Strides g aim (Removed g aim e) o e
  := by
  induction instruments generalizing o e with
  | nil => exact ⟨removes, h, .refl h.sound⟩
  | cons j rest ih =>
    simp only [removeListed, strides_bind]
    apply (Lifecycle.strides_remove w j.location (some j.id) removes h (aims j (.head _))).mono
    rintro _ o₁ e₁ ⟨removes₁, stride₁, after⟩
    apply (ih removes₁ stride₁ fun k mem => aims k (.tail _ mem)).mono
    intro _ o₂ e₂ removed
    exact removed.after after

/-- The removals at listed locations. -/
theorem strides_removeAt (w : g.WellKept) {locations : List Location} (removes : o.Removes)
    (h : Stride g aim o e none)
    (aims : ∀ l ∈ locations, ∀ i : Instrument, i.location.answers l = true → aim.removes i) :
  (removeAt locations).Strides g aim (Removed g aim e) o e
  := by
  induction locations generalizing o e with
  | nil => exact ⟨removes, h, .refl h.sound⟩
  | cons l rest ih =>
    simp only [removeAt, strides_bind]
    apply (Lifecycle.strides_remove w l none removes h (aims l (.head _))).mono
    rintro _ o₁ e₁ ⟨removes₁, stride₁, after⟩
    apply (ih removes₁ stride₁ fun k mem => aims k (.tail _ mem)).mono
    intro _ o₂ e₂ removed
    exact removed.after after

/-- A command that was read. -/
theorem strides_perform (w : g.WellKept) {command : Command} (removes : o.Removes)
    (h : Stride g command.aim o e none) :
  (perform command).Strides g command.aim (Ended g command.aim) o e
  := by
  simp only [perform, strides_bind]
  apply strides_log
  intro e₁ same
  have h₁ := h.alike same
  cases action : command.action with
  | add =>
    apply strides_add _ h₁
    simp only [Command.aim, action]
  | remove =>
    simp only [remove, strides_bind]
    apply (strides_removeListed w removes h₁ _).mono
    · rintro _ o₂ e₂ ⟨removes₂, stride₂, -⟩
      refine (strides_removeAt w removes₂ stride₂ ?_).ends _
      intro l mem i answers
      simp only [Command.aim, action]
      exact .inr ⟨l, mem, answers⟩
    · intro j mem i id
      simp only [Command.aim, action]
      exact .inl ⟨j, mem, id⟩

/-- A command given as a value. -/
theorem strides_handle (w : g.WellKept) {raw : Json} (removes : o.Removes)
    (h : Stride g (Command.aimOf raw) o e none) :
  (handle raw).Strides g (Command.aimOf raw) (Ended g (Command.aimOf raw)) o e
  := by
  have refuses (cause : String) : (Except.error <$> reject raw cause :
      Routine (Except InstrumentError Outcome)).Strides g (Command.aimOf raw)
        (Ended g (Command.aimOf raw)) o e := by
    apply strides_bind.mpr
    exact (strides_reject h raw cause).returns _
  rw [handle]
  cases read : Command.decode raw with
  | error err => apply refuses
  | ok command =>
    have own : Command.aimOf raw = command.aim := by simp only [Command.aimOf, read]
    dsimp only
    split
    · apply refuses
    · rw [own] at h ⊢
      rw [strides_bind]
      apply (strides_perform w removes h).mono
      intro outcome o₁ e₁ ended
      split
      · rw [strides_bind]
        apply strides_publish
        intro e₂ same
        exact Stride.alike ended same
      · exact ended

/-- A command given as text. -/
theorem strides_handleText (w : g.WellKept) {text : String} (removes : o.Removes)
    (h : Stride g (Operation.handleText text).aim o e none) :
  (handleText text).Strides g (Operation.handleText text).aim
    (Ended g (Operation.handleText text).aim) o e
  := by
  rw [handleText]
  cases read : Json.parse? text with
  | some raw =>
    have own : (Operation.handleText text).aim = Command.aimOf raw := by
      simp only [Operation.aim, read]
    rw [own] at h ⊢
    apply strides_handle w removes h
  | none =>
    apply strides_bind.mpr
    exact (strides_reject h (.string text) _).returns _

end Control

end Instrumentation
