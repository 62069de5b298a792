import Instrumentation.Proofs.Coalescing

/-!
# The permits of operations

Every operation keeps the account of an identity. An attempt needs a permit and gives it back, used
or deferred; an install that registers the identity brings a permit with it, and any other install
of the identity finds it registered.

What operations hold that wait further down is held all the time. It is a parameter here.
-/

namespace Instrumentation

/-- An install of the identity answers an instrument that fits, unless its condition cannot be
read. -/
def Instrument.Coalesces (fits : Instrument → Prop) (x : InstrumentId) (i : Instrument)
    (answer : Except InstrumentError Instrument) : Prop :=
  i.id = x → (∃ j, fits j ∧ answer = .ok j)
    ∨ ∃ err, Candidate.ofInstrument i = .error err ∧ answer = .error err

/-- While a call waits, the account is kept and the registration stays. An operation that calls may
hold some permits more, which it gets round to later. -/
def Handling.keeping (x : InstrumentId) (n : Nat) (fits : Instrument → Prop) (held underway : Nat) :
    Handling Unit where
  before call after _ e := e.Keeps x n fits
    → ∃ more, e.Accounted x n fits True (held + more + call.permits x) (underway + call.patches x)
      ∧ ∀ answer e', e'.Keeps x n fits
        → e'.Accounted x n fits True (held + more + call.permits x) (underway + call.patches x)
        → after answer () e'
  mono := by
    intro call after after' γ e h weaker keeps
    obtain ⟨more, accounted, goesOn⟩ := h keeps
    use more, accounted
    intro answer e' keeps' accounted'
    apply weaker _ _ _ (goesOn answer e' keeps' accounted')

variable {x : InstrumentId} {n : Nat} {fits : Instrument → Prop} {P : Prop}
  {held underway : Nat} {e : Engine} {r : Registration}

namespace Routine

/-- A call of an operation that holds some permits more. What it knows stays true, since the
registration stays. -/
theorem ensures_ask (more : Nat) {call : Call} {goal : call.request.Answer → Unit → Engine → Prop}
    (h : e.Keeps x n fits → e.Accounted x n fits P (held + more + call.permits x) underway)
    (goesOn : ∀ answer e',
      e'.Accounted x n fits P (held + more + call.permits x) (underway + call.patches x)
        → goal answer () e') :
  (request call).Ensures (.keeping x n fits held underway) goal () e
  := by
  apply ensures_request
  intro keeps
  have before : e.Keeps x n fits := ⟨fun found => keeps.only found, keeps.still⟩
  have accounted := (h before).ask call (Nat.le_add_left _ _)
  have p : P := by
    rcases accounted.tally with lost | ⟨p, -⟩
    · exact absurd lost keeps.not_lost
    · exact p
  use more, accounted.weaken fun _ => trivial
  intro answer e' keeps' accounted' e'' quiet
  apply goesOn answer e'' ((accounted'.weaken fun _ => p).quiet quiet)

end Routine

namespace Lifecycle

open Routine

/-! ### Installs -/

/-- An install that fails. -/
theorem ensures_failInstall {T : Handling Unit} (call : Call)
    (attempt : call = .resolve r ∨ call = .patch r)
    (h : e.Accounted x n fits P (held + call.permits x) (underway + call.patches x))
    (err : InstrumentError) :
  (failInstall r err).Ensures T
    (fun _ _ e' => e'.Accounted x n fits (P ∧ r.id ≠ x) held underway) () e
  := by
  simp only [failInstall, ensures_bind]
  apply ensures_modify
  apply ensures_log
  intro e₁ quiet₁
  have fails := h.fail call attempt quiet₁
  apply ensures_detach
  cases detached : (e₁.registry.detach r.id).1 with
  | none => exact fails
  | some s =>
    simp only [ensures_bind]
    apply ensures_modify
    refine ensures_publish trivial ?_
    intro e₂ quiet₂
    apply fails.quiet (quiet₂.trans (.frames _ _))

/-- An attempt whose unit is not loaded. -/
theorem ensures_deferInstall {T : Handling Unit}
    (h : e.Accounted x n fits P (held + (Call.resolve r).permits x) underway) (now : Instant) :
  (deferInstall r now).Ensures T (fun a _ e' =>
    e'.Accounted x n fits (P ∧ ∀ err, a = .error err → r.id ≠ x) held underway) () e
  := by
  have fails {e' : Engine} {err : InstrumentError}
      (h : e'.Accounted x n fits P (held + (Call.resolve r).permits x) underway) :
      (do return .error (← failInstall r err) : Routine (Except InstrumentError Unit)).Ensures T
        (fun a _ e' => e'.Accounted x n fits (P ∧ ∀ err, a = .error err → r.id ≠ x) held underway)
        () e' := by
    rw [ensures_bind]
    apply (ensures_failInstall (.resolve r) (.inl rfl) h err).mono
    intro answer _ e₁ failed
    apply failed.weaken
    rintro ⟨p, other⟩
    exact ⟨p, fun _ _ => other⟩
  rw [deferInstall]
  dsimp only
  split
  · apply fails h
  · rw [ensures_bind]
    apply ensures_update
    cases decision : (e.retries.schedule r.id now).1 with
    | scheduled dueAt attempts =>
      dsimp only
      simp only [ensures_bind]
      apply ensures_log
      intro e₁ quiet
      apply ((h.defer now).quiet quiet).weaken
      intro p
      use p
      rintro _ ⟨⟩
    | exhausted attempts =>
      rw [RetryQueue.schedule_exhausted decision]
      apply fails (h.cancel r.id)

/-- An attempt whose patch is in place. -/
theorem ensures_confirmInstall {more : Nat}
    (h : e.Accounted x n fits P (held + more + (Call.patch r).permits x)
      (underway + (Call.patch r).patches x))
    (less : underway ≤ held) :
  (confirmInstall r).Ensures (.keeping x n fits held underway)
    (fun _ _ e' => e'.Accounted x n fits P (held + more) underway) () e
  := by
  simp only [confirmInstall, ensures_bind]
  apply ensures_modify
  apply ensures_update
  cases promoted : (e.registry.promote r.id).1 with
  | some s =>
    dsimp only
    simp only [ensures_bind]
    apply ensures_log
    intro e₁ quiet
    apply ensures_modify
    apply h.confirm (by omega) promoted quiet
  | none =>
    obtain ⟨gone, same⟩ := h.sound.wellKept.promote_none promoted
    have parted := (h.cancel r.id).part gone
    dsimp only
    rw [same]
    simp only [ensures_bind]
    apply ensures_log
    intro e₁ quiet
    apply ensures_ask more fun _ => parted.quiet quiet
    intro answer e₂ h₂
    cases answer with
    | ok => exact h₂
    | error err =>
      apply ensures_log
      intro e₃ quiet₃
      apply h₂.quiet quiet₃

/-- An attempt. It is known to have a permit if the registration stays until its first call. -/
theorem ensures_apply (more : Nat) (less : underway ≤ held) (now : Instant)
    (h : e.Keeps x n fits
      → e.Accounted x n fits P (held + more + (Call.resolve r).permits x) underway) :
  (apply r now).Ensures (.keeping x n fits held underway) (fun a _ e' =>
    e'.Accounted x n fits (P ∧ ∀ err, a = .error err → r.id ≠ x) (held + more) underway) () e
  := by
  simp only [apply, ensures_bind]
  apply ensures_ask more h
  intro loaded e₁ h₁
  cases loaded with
  | false => apply ensures_deferInstall h₁
  | true =>
    have permitted : e₁.Accounted x n fits P (held + more + (Call.patch r).permits x) underway := h₁
    rw [if_pos rfl, ensures_bind]
    apply ensures_ask more fun _ => permitted
    intro answer e₂ h₂
    cases answer with
    | ok =>
      dsimp only
      rw [ensures_bind]
      apply (ensures_confirmInstall h₂ less).mono
      intro _ _ e₃ h₃
      apply h₃.weaken
      intro p
      use p
      rintro _ ⟨⟩
    | error source =>
      dsimp only
      simp only [ensures_bind]
      apply (ensures_failInstall (.patch r) (.inr rfl) h₂ _).mono
      intro err _ e₃ h₃
      have failed {e' : Engine} (h : e'.Accounted x n fits (P ∧ r.id ≠ x) (held + more) underway) :
          e'.Accounted x n fits
            (P ∧ ∀ err', (Except.error err : Except InstrumentError Unit) = .error err'
              → r.id ≠ x) (held + more) underway := by
        apply h.weaken
        rintro ⟨p, other⟩
        exact ⟨p, fun _ _ => other⟩
      apply ensures_ask more fun _ => h₃
      intro answer e₄ h₄
      cases answer with
      | ok => exact failed h₄
      | error secondary =>
        dsimp only
        simp only [ensures_bind]
        apply ensures_log
        intro e₅ quiet
        exact failed (h₄.quiet quiet)

/-- An install. -/
theorem ensures_install (less : underway ≤ held) (i : Instrument)
    (h : e.Accounted x n fits P held underway) :
  (install i).Ensures (.keeping x n fits held underway)
    (fun a _ e' => e'.Accounted x n fits (P ∧ i.Coalesces fits x a) held underway) () e
  := by
  rw [install, ensures_bind]
  apply ensures_gets
  cases registered : e.registry.get? i.id with
  | some r =>
    dsimp only
    rw [ensures_bind]
    apply ensures_log
    intro e₁ quiet
    by_cases own : i.id = x
    · have known := h.known (own ▸ registered)
      apply (known.quiet quiet).weaken
      rintro ⟨p, fit⟩
      exact ⟨p, fun _ => .inl ⟨r.instrument, fit, rfl⟩⟩
    · apply (h.quiet quiet).weaken
      intro p
      exact ⟨p, fun own' => absurd own' own⟩
  | none =>
    cases valid : Candidate.ofInstrument i with
    | error err =>
      dsimp only
      simp only [ensures_bind]
      apply ensures_log
      intro e₁ quiet
      refine ensures_publish trivial ?_
      intro e₂ quiet₂
      apply (h.quiet (quiet₂.trans quiet)).weaken
      intro p
      exact ⟨p, fun _ => .inr ⟨err, valid, rfl⟩⟩
    | ok candidate =>
      obtain rfl := Candidate.instrument_of valid
      dsimp only
      simp only [ensures_bind]
      apply ensures_update
      obtain ⟨g, fresh⟩ : ∃ g, e.registry.reserve candidate
          = (.fresh (.ofCandidate e.registry.nextSerial candidate), g) := by
        rw [Registry.reserve, registered]
        exact ⟨_, rfl⟩
      rw [fresh]
      dsimp only
      rw [ensures_bind]
      apply ensures_gets
      rw [ensures_bind]
      apply (ensures_apply 0 less _ fun keeps => h.register fresh keeps).mono
      intro a _ e₁ h₁
      cases a with
      | ok =>
        apply h₁.weaken
        rintro ⟨⟨p, fit⟩, -⟩
        exact ⟨p, fun own => .inl ⟨candidate.instrument, fit own, rfl⟩⟩
      | error err =>
        apply h₁.weaken
        rintro ⟨⟨p, -⟩, other⟩
        exact ⟨p, fun own => absurd own (other err rfl)⟩

/-! ### Ticks -/

/-- Attempts that were taken up, with a permit for each of them. -/
theorem ensures_retryEach (less : underway ≤ held) (now : Instant) (ids : List InstrumentId)
    (h : e.Accounted x n fits P (held + ids.count x) underway) :
  (retryEach now ids).Ensures (.keeping x n fits held underway)
    (fun _ _ e' => e'.Accounted x n fits P held underway) () e
  := by
  induction ids generalizing e with
  | nil => exact h
  | cons y ids ih =>
    rw [List.count_cons] at h
    rw [retryEach, ensures_bind]
    apply ensures_gets
    cases applying : e.registry.getApplying? y with
    | none =>
      dsimp only
      rw [ensures_bind]
      apply ensures_modify
      apply ih ((h.cancel y).lower (by omega))
    | some r =>
      dsimp only
      split
      · apply ih (h.lower (by omega))
      · have permit : (Call.resolve r).permits x = if y == x then 1 else 0 := by
          rw [Call.permits, h.sound.wellKept.applying_id applying]
          simp
        rw [← Nat.add_assoc, ← permit] at h
        simp only [ensures_bind]
        apply ensures_log
        intro e₁ quiet
        apply (ensures_apply (ids.count x) less now fun _ => h.quiet quiet).mono
        intro a _ e₂ h₂
        have left := h₂.weaken And.left
        cases a with
        | ok =>
          dsimp only
          rw [ensures_bind]
          apply ih left
        | error err =>
          dsimp only
          simp only [ensures_bind]
          apply ensures_log
          intro e₃ quiet₃
          apply ih (left.quiet quiet₃)

/-- The attempts that are due. -/
theorem ensures_retryDue (less : underway ≤ held) (now : Instant)
    (h : e.Accounted x n fits P held underway) :
  (retryDue now).Ensures (.keeping x n fits held underway)
    (fun _ _ e' => e'.Accounted x n fits P held underway) () e
  := by
  rw [retryDue, ensures_bind]
  apply ensures_update
  apply ensures_retryEach less now _ (h.takeDue now)

end Lifecycle

/-! ### Operations -/

/-- The account withstands removals and hits. -/
theorem Engine.Accounted.upkeep (x : InstrumentId) (n : Nat) (fits : Instrument → Prop)
    (held underway : Nat) :
  Upkeep (.keeping x n fits held underway)
    fun P _ e => e.Accounted x n fits P held underway
  where
  weaken h weaker := h.weaken weaker
  quiet h quiet := h.quiet quiet
  touch h y _ alike := h.touch y alike
  leave h y := h.leave y
  withdraw := by
    intro P γ e h r after goesOn keeps
    have p : P := by
      rcases h.tally with lost | ⟨p, -⟩
      · exact absurd lost keeps.not_lost
      · exact p
    use 0, h.weaken fun _ => trivial
    intro answer e' _ h'
    apply goesOn answer () e' (h'.weaken fun _ => p)

/-- Every operation keeps the account, and so do its installs. -/
theorem Operation.ensures_accounted (less : underway ≤ held) (op : Operation)
    (h : e.Accounted x n fits True held underway) :
  op.routine.Ensures (.keeping x n fits held underway)
    (fun a _ e' => e'.Accounted x n fits (op.Answers (Instrument.Coalesces fits x) a) held underway)
    () e
  := by
  have keeps := Engine.Accounted.upkeep x n fits held underway
  have installs (i : Instrument) {P : Prop} {γ : Unit} {e : Engine}
      (h : e.Accounted x n fits P held underway) :
      (Lifecycle.install i).Ensures (.keeping x n fits held underway)
        (fun a _ e' => e'.Accounted x n fits (P ∧ i.Coalesces fits x a) held underway) γ e :=
    Lifecycle.ensures_install less i h
  cases op with
  | install i =>
    apply (installs i h).mono
    intro a _ e' h'
    apply h'.weaken And.right
  | removeById y cause => apply Lifecycle.ensures_removeEntry keeps.toRemoving h
  | remove query y => apply Lifecycle.ensures_remove keeps.toRemoving h
  | hit y => apply Lifecycle.ensures_hit keeps h
  | sweep now =>
    apply (Lifecycle.ensures_sweep keeps.toRemoving h now).mono
    intro a _ e' h'
    exact h'
  | retryDue now => apply Lifecycle.ensures_retryDue less now h
  | tick now =>
    simp only [routine, Lifecycle.tick, Routine.ensures_bind]
    apply (Lifecycle.ensures_sweep keeps.toRemoving h now).mono
    intro expired _ e₁ h₁
    apply (Lifecycle.ensures_retryDue less now h₁).mono
    intro retried _ e₂ h₂
    exact h₂
  | handle raw =>
    apply (Control.ensures_handle keeps.toRemoving installs h raw).mono
    intro a _ e' h'
    apply h'.weaken And.right
  | handleText text =>
    apply (Control.ensures_handleText keeps.toRemoving installs h text).mono
    intro a _ e' h'
    apply h'.weaken And.right
  | clear =>
    apply Routine.ensures_modify
    apply h.clear

end Instrumentation
