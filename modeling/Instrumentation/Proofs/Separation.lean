import Instrumentation.Proofs.Alone

/-!
# What is kept for an identity

All instruments share the stores of an engine, and each store keeps what it keeps for an instrument
under its identity. Two engines resemble each other in an identity when they keep the same for it,
have the same policy for deferred installs, and stand at the same time. The numbers of registrations
do not count, for they tell how many instruments were registered before.

A routine that is about one identity is run side by side on two engines that resemble each other in
it. It cannot tell them apart, and it changes nothing that is kept for other identities. This is
shown for whatever routines write; what is composed of such steps is separate from other identities
in turn.
-/

namespace Instrumentation

/-! ### The stores -/

/-- What is applying is promoted. -/
theorem Registry.WellKept.promote_of_applying {g : Registry} (w : g.WellKept) {x : InstrumentId}
    {r : Registration} (applying : g.applying.get? x = some r) :
  (g.promote x).1 = some { r with isLive := true }
  := by
  have kept : ¬r.isRemoved = true := by simp [(w.applying_flags applying).2]
  rw [promote, applying]
  dsimp only
  rw [if_neg kept]

namespace RetryQueue

/-- What becomes of an install after a failed attempt depends on the policy and on the attempts made
for it before. -/
theorem schedule_congr {q q' : RetryQueue} {x : InstrumentId} (now : Instant)
    (policy : q.policy = q'.policy) (pending : q.pending.get? x = q'.pending.get? x) :
  (q.schedule x now).1 = (q'.schedule x now).1
    ∧ (q.schedule x now).2.pending.get? x = (q'.schedule x now).2.pending.get? x
  := by
  have attempts : q.attempts? x = q'.attempts? x := congrArg (Option.map _) pending
  have last (n : UInt32) : q.isLast n = q'.isLast n := by rw [isLast, isLast, policy]
  simp only [schedule, attempts, last, policy]
  split
  · simp only [Dict.get?_erase, if_pos, and_self]
  · simp only [Dict.get?_insert, if_pos, and_self]

end RetryQueue

/-! ### Registrations without their numbers -/

/-- The registration under another number. -/
def Registration.numbered (r : Registration) (n : Nat) : Registration := { r with serial := n }

/-- The registration as it is told without its number. -/
def Registration.unnumbered (r : Registration) : Registration := r.numbered 0

/-- Registrations that differ in their numbers only. -/
theorem Registration.eq_numbered {r r' : Registration} (same : r.unnumbered = r'.unnumbered) :
  r' = r.numbered r'.serial
  := by
  obtain ⟨serial, instrument, predicate, throttle, isLive, isRemoved, isDone⟩ := r
  obtain ⟨serial', instrument', predicate', throttle', isLive', isRemoved', isDone'⟩ := r'
  simp only [unnumbered, numbered, Registration.mk.injEq, true_and] at same ⊢
  obtain ⟨rfl, rfl, rfl, rfl, rfl, rfl⟩ := same
  simp

/-- The same is found but for its number, or nothing in both places. -/
theorem Registration.map_unnumbered_cases {o o' : Option Registration}
    (same : o.map unnumbered = o'.map unnumbered) :
  (o = none ∧ o' = none) ∨ ∃ r n, o = some r ∧ o' = some (r.numbered n)
  := by
  cases o with
  | none => exact .inl ⟨rfl, Option.map_eq_none_iff.mp same.symm⟩
  | some r =>
    obtain ⟨r', found, alike⟩ := Option.map_eq_some_iff.mp same.symm
    exact .inr ⟨r, r'.serial, rfl, found.trans (congrArg some (eq_numbered alike.symm))⟩

/-! ### Standings -/

/-- What an engine keeps for an identity. -/
structure Standing where
  /-- The live instrument. -/
  live : Option Registration
  /-- The applying instrument. -/
  applying : Option Registration
  /-- The deferred install. -/
  pending : Option PendingRetry
  /-- The captured frame. -/
  frame : Option Frame

/-- The standing without the numbers of registrations. -/
def Standing.unnumbered (s : Standing) : Standing :=
  { s with
    live := s.live.map Registration.unnumbered
    applying := s.applying.map Registration.unnumbered }

/-- What the engine keeps for an identity. -/
def Engine.standing (e : Engine) (x : InstrumentId) : Standing where
  live := e.registry.live.get? x
  applying := e.registry.applying.get? x
  pending := e.retries.pending.get? x
  frame := e.frames.frames.get? x

/-- The same standing, store by store. -/
theorem Engine.standing_eq_iff {e e' : Engine} {x : InstrumentId} :
  (e.standing x).unnumbered = (e'.standing x).unnumbered
    ↔ (e.registry.live.get? x).map Registration.unnumbered
        = (e'.registry.live.get? x).map Registration.unnumbered
      ∧ (e.registry.applying.get? x).map Registration.unnumbered
        = (e'.registry.applying.get? x).map Registration.unnumbered
      ∧ e.retries.pending.get? x = e'.retries.pending.get? x
      ∧ e.frames.frames.get? x = e'.frames.frames.get? x
  := by
  simp only [Standing.unnumbered, standing, Standing.mk.injEq]

namespace Engine

/-- The engines keep the same for an identity but for the numbers of registrations, and have the
same policy and the same time. -/
structure Resembles (e e' : Engine) (x : InstrumentId) : Prop where
  /-- One engine is sound. -/
  sound : e.Sound
  /-- The other engine is sound. -/
  sound' : e'.Sound
  /-- They keep the same for the identity. -/
  standing : (e.standing x).unnumbered = (e'.standing x).unnumbered
  /-- They have the same policy for deferred installs. -/
  policy : e.retries.policy = e'.retries.policy
  /-- They stand at the same time. -/
  clock : e.clock = e'.clock

/-- The engine keeps for other identities what it kept before, and has its policy and its time. -/
structure ChangesOnly (e' e : Engine) (x : InstrumentId) : Prop where
  /-- The engine is sound. -/
  sound : e'.Sound
  /-- The other identities stand as before. -/
  others : ∀ y, y ≠ x → e'.standing y = e.standing y
  /-- The policy for deferred installs is the same. -/
  policy : e'.retries.policy = e.retries.policy
  /-- The time is the same. -/
  clock : e'.clock = e.clock

namespace ChangesOnly

variable {e e' e'' : Engine} {x y : InstrumentId}

/-- One change after another. -/
protected theorem trans (h : e''.ChangesOnly e' x) (h' : e'.ChangesOnly e x) :
  e''.ChangesOnly e x
  := by
  use h.sound, fun y other => (h.others y other).trans (h'.others y other)
  · exact h.policy.trans h'.policy
  · exact h.clock.trans h'.clock

/-- An engine resembles the one before in the identities that are not concerned. -/
theorem resembles (h : e'.ChangesOnly e x) (sound : e.Sound) (other : y ≠ x) :
  e.Resembles e' y
  := by
  constructor
  · exact sound
  · exact h.sound
  · rw [h.others y other]
  · exact h.policy.symm
  · exact h.clock.symm

end ChangesOnly

namespace Resembles

variable {e e' e₁ e₁' : Engine} {x : InstrumentId}

/-- An engine resembles itself. -/
protected theorem refl (h : e.Sound) (x : InstrumentId) :
  e.Resembles e x
  := ⟨h, h, rfl, rfl, rfl⟩

/-- Resemblance goes both ways. -/
protected theorem symm (h : e.Resembles e' x) :
  e'.Resembles e x
  := ⟨h.sound', h.sound, h.standing.symm, h.policy.symm, h.clock.symm⟩

/-- What resembles the same resembles each other. -/
protected theorem trans {e'' : Engine} (h : e.Resembles e' x) (h' : e'.Resembles e'' x) :
  e.Resembles e'' x
  := by
  constructor
  · exact h.sound
  · exact h'.sound'
  · exact h.standing.trans h'.standing
  · exact h.policy.trans h'.policy
  · exact h.clock.trans h'.clock

/-- The same is live. -/
theorem live (h : e.Resembles e' x) :
  (e.registry.live.get? x).map Registration.unnumbered
    = (e'.registry.live.get? x).map Registration.unnumbered
  := congrArg Standing.live h.standing

/-- The same is applying. -/
theorem applying (h : e.Resembles e' x) :
  (e.registry.applying.get? x).map Registration.unnumbered
    = (e'.registry.applying.get? x).map Registration.unnumbered
  := congrArg Standing.applying h.standing

/-- The same install is deferred. -/
theorem pending (h : e.Resembles e' x) :
  e.retries.pending.get? x = e'.retries.pending.get? x
  := congrArg Standing.pending h.standing

/-- The same frame was captured. -/
theorem frame (h : e.Resembles e' x) :
  e.frames.frames.get? x = e'.frames.frames.get? x
  := congrArg Standing.frame h.standing

/-- The same is registered. -/
theorem get? (h : e.Resembles e' x) :
  (e.registry.get? x).map Registration.unnumbered
    = (e'.registry.get? x).map Registration.unnumbered
  := by
  rw [Registry.get?, Registry.get?]
  rcases Registration.map_unnumbered_cases h.live with ⟨none, none'⟩ | ⟨r, n, found, found'⟩
  · rw [none, none']
    apply h.applying
  · rw [found, found']
    rfl

/-- Both engines change what they keep for the identity, in the same way. -/
theorem change (h : e.Resembles e' x) (left : e₁.ChangesOnly e x) (right : e₁'.ChangesOnly e' x)
    (standing : (e₁.standing x).unnumbered = (e₁'.standing x).unnumbered) :
  e₁.Resembles e₁' x
  := by
  constructor
  · exact left.sound
  · exact right.sound
  · exact standing
  · rw [left.policy, right.policy, h.policy]
  · rw [left.clock, right.clock, h.clock]

end Resembles

/-! ### What is written for an identity -/

namespace Sound

variable {e e' : Engine} {x : InstrumentId}

/-- Nothing that is kept in a store has changed. -/
theorem changesOnly_alike (h : e.Sound) (same : e'.Alike e) (clock : e'.clock = e.clock)
    (x : InstrumentId) :
  e'.ChangesOnly e x ∧ e'.standing x = e.standing x
  := by
  have standing (y : InstrumentId) : e'.standing y = e.standing y := by
    rw [Engine.standing, same.registry, same.retries, same.frames]
    rfl
  use ⟨(h.alike same).sound, fun y _ => standing y, by rw [same.retries], clock⟩
  apply standing

/-- The deferred install of the identity has changed. -/
theorem changesOnly_retry (h : e.Sound) {q : RetryQueue}
    (policy : q.policy = e.retries.policy)
    (others : ∀ y, y ≠ x → q.pending.get? y = e.retries.pending.get? y) :
  ({ e with retries := q } : Engine).ChangesOnly e x
  := by
  constructor
  · exact (h.retry q).sound
  · intro y other
    simp only [Engine.standing, others y other]
  · exact policy
  · rfl

/-- The frame of the identity is dropped. -/
theorem changesOnly_uncapture (h : e.Sound) (x : InstrumentId) :
  ({ e with frames := e.frames.clear x } : Engine).ChangesOnly e x
  := by
  have kept : ({ e with frames := e.frames.clear x } : Engine).Succeeds e := h.keep rfl
  constructor
  · exact kept.sound
  · intro y other
    simp only [Engine.standing, FrameStore.clear, Dict.get?_erase, if_neg other]
  · rfl
  · rfl

/-- What is registered for the identity has changed. -/
theorem changesOnly_register {g : Registry} (sound : ({ e with registry := g } : Engine).Sound)
    (live : ∀ y, y ≠ x → g.live.get? y = e.registry.live.get? y)
    (applying : ∀ y, y ≠ x → g.applying.get? y = e.registry.applying.get? y) :
  ({ e with registry := g } : Engine).ChangesOnly e x
  := by
  constructor
  · exact sound
  · intro y other
    simp only [Engine.standing, live y other, applying y other]
  · rfl
  · rfl

/-- The identity is detached. -/
theorem changesOnly_detach (h : e.Sound) (x : InstrumentId) :
  ({ e with registry := (e.registry.detach x).2 } : Engine).ChangesOnly e x
  := by
  apply changesOnly_register (h.detach x).sound
  · intro y other
    rw [Registry.live_detach, if_neg other]
  · intro y other
    rw [h.wellKept.applying_detach, if_neg other]

/-- The identity is promoted. -/
theorem changesOnly_promote (h : e.Sound) (x : InstrumentId) :
  ({ e with registry := (e.registry.promote x).2 } : Engine).ChangesOnly e x
  := by
  cases promoted : (e.registry.promote x).1 with
  | none =>
    apply changesOnly_register (h.promote x).sound
    · rw [(h.wellKept.promote_none promoted).2]
      intro y _
      rfl
    · rw [(h.wellKept.promote_none promoted).2]
      intro y _
      rfl
  | some r =>
    apply changesOnly_register (h.promote x).sound
    · intro y other
      rw [h.wellKept.live_promote promoted, if_neg other]
    · intro y other
      rw [h.wellKept.applying_promote promoted, if_neg other]

/-- The entry of the identity is changed. -/
theorem changesOnly_modify (h : e.Sound) (x : InstrumentId) {f : Registration → Registration}
    (alike : ∀ r, (f r).Alike r) :
  ({ e with registry := e.registry.modify x f } : Engine).ChangesOnly e x
  := by
  apply changesOnly_register (h.modify x alike).sound
  · intro y other
    rw [Registry.live_modify, if_neg other]
  · intro y other
    rw [h.wellKept.applying_modify, if_neg other]

/-- An instrument is registered. -/
theorem changesOnly_reserve (h : e.Sound) {c : Candidate} {r : Registration} {g : Registry}
    (fresh : e.registry.reserve c = (.fresh r, g)) :
  ({ e with registry := g } : Engine).ChangesOnly e r.id
  := by
  apply changesOnly_register (h.reserve fresh).sound
  · intro y other
    rw [Registry.live_reserve fresh]
  · intro y other
    rw [Registry.applying_reserve fresh, if_neg other]

end Sound

end Engine

/-! ### Two runs side by side -/

namespace Routine

variable {α β : Type} {answer : (request : Request) → request.Answer} {x : InstrumentId}

/-- On engines that resemble each other in an identity the two routines have results that meet the
goal, leave engines that resemble each other again, and change nothing for other identities. -/
def SideBySide (answer : (request : Request) → request.Answer) (x : InstrumentId)
    (goal : α → α → Prop) (r r' : Routine α) : Prop :=
  ∀ ⦃e e' : Engine⦄, e.Resembles e' x →
    goal (r.runAlone answer e).1 (r'.runAlone answer e').1
    ∧ (r.runAlone answer e).2.Resembles (r'.runAlone answer e').2 x
    ∧ (r.runAlone answer e).2.ChangesOnly e x

namespace SideBySide

variable {goal : α → α → Prop} {goal' : β → β → Prop} {r r' : Routine α} {f f' : α → Routine β}

/-- Two routines, one after the other. -/
protected theorem bind (h : SideBySide answer x goal r r')
    (next : ∀ a a', goal a a' → SideBySide answer x goal' (f a) (f' a')) :
  SideBySide answer x goal' (r >>= f) (r' >>= f')
  := by
  intro e e' resembles
  rw [runAlone_bind, runAlone_bind]
  obtain ⟨meets, resembles, changes⟩ := h resembles
  obtain ⟨meets, resembles, changes'⟩ := next _ _ meets resembles
  exact ⟨meets, resembles, changes'.trans changes⟩

/-- Two routines, one after the other, the first one without a result. -/
protected theorem next {r r' : Routine Unit} {q q' : Routine β}
    (h : SideBySide answer x (fun _ _ => True) r r') (next : SideBySide answer x goal' q q') :
  SideBySide answer x goal' (r >>= fun _ => q) (r' >>= fun _ => q')
  := h.bind fun _ _ _ => next

/-- The end. -/
protected theorem pure {a a' : α} (meets : goal a a') :
  SideBySide answer x goal (pure a) (pure a')
  := fun _ _ resembles => ⟨meets, resembles, resembles.sound, fun _ _ => rfl, rfl, rfl⟩

/-- A look at the engine. -/
protected theorem gets {f : Engine → α}
    (meets : ∀ {e e' : Engine}, e.Resembles e' x → goal (f e) (f e')) :
  SideBySide answer x goal (gets f) (gets f)
  := fun _ _ resembles =>
    ⟨meets resembles, resembles, resembles.sound, fun _ _ => rfl, rfl, rfl⟩

/-- What others do not see. -/
theorem alike {e e' e₁ e₁' : Engine} (resembles : e.Resembles e' x) (same : e₁.Alike e)
    (clock : e₁.clock = e.clock) (same' : e₁'.Alike e') (clock' : e₁'.clock = e'.clock) :
  e₁.Resembles e₁' x ∧ e₁.ChangesOnly e x
  := by
  obtain ⟨changes, standing⟩ := resembles.sound.changesOnly_alike same clock x
  obtain ⟨changes', standing'⟩ := resembles.sound'.changesOnly_alike same' clock' x
  constructor
  · apply resembles.change changes changes'
    rw [standing, standing', resembles.standing]
  · exact changes

end SideBySide

/-- Records in the log, which may differ. -/
theorem sideBySide_log {level level' : Level} {message message' : String}
    {fields fields' : List (String × String)} :
  SideBySide answer x (fun _ _ => True) (log level message fields) (log level' message' fields')
  := by
  intro e e' resembles
  use trivial
  apply SideBySide.alike resembles
  · apply Engine.Alike.log
  · rfl
  · apply Engine.Alike.log
  · rfl

/-- Events, which may differ. -/
theorem sideBySide_publish {serial serial' : Option Nat} {event event' : Instant → Event} :
  SideBySide answer x (fun _ _ => True) (publish serial event) (publish serial' event')
  := by
  intro e e' resembles
  use trivial
  apply SideBySide.alike resembles
  · apply Engine.Alike.publish
  · apply Engine.clock_publish
  · apply Engine.Alike.publish
  · apply Engine.clock_publish

/-- Calls, each with what comes after its answer. -/
theorem SideBySide.ask {goal : β → β → Prop} {call call' : Call}
    {f : call.request.Answer → Routine β} {f' : call'.request.Answer → Routine β}
    (next : SideBySide answer x goal (f (answer call.request)) (f' (answer call'.request))) :
  SideBySide answer x goal (request call >>= f) (request call' >>= f')
  := by
  intro e e' resembles
  rw [runAlone_bind, runAlone_bind, runAlone_request, runAlone_request]
  obtain ⟨noted, changes⟩ := SideBySide.alike resembles
    ((Engine.Alike.note _ (call.answered (answer call.request))).trans (.note e call.asked)) rfl
    ((Engine.Alike.note _ (call'.answered (answer call'.request))).trans (.note e' call'.asked)) rfl
  obtain ⟨meets, resembles, changes'⟩ := next noted
  exact ⟨meets, resembles, changes'.trans changes⟩

/-! ### What is looked up for the identity -/

/-- What is registered. -/
theorem sideBySide_registered :
  SideBySide answer x
    (fun o o' => o.map Registration.unnumbered = o'.map Registration.unnumbered)
    (gets fun e => e.registry.get? x) (gets fun e => e.registry.get? x)
  := SideBySide.gets fun resembles => resembles.get?

/-- What is live. -/
theorem sideBySide_live :
  SideBySide answer x
    (fun o o' => o.map Registration.unnumbered = o'.map Registration.unnumbered
      ∧ ∀ r, o = some r → r.id = x)
    (gets fun e => e.registry.getLive? x) (gets fun e => e.registry.getLive? x)
  := SideBySide.gets fun resembles =>
    ⟨resembles.live, fun _ found => resembles.sound.wellKept.live_id found⟩

/-- What was captured. -/
theorem sideBySide_frame :
  SideBySide answer x Eq (gets fun e => e.frames.get x) (gets fun e => e.frames.get x)
  := SideBySide.gets fun resembles => congrArg (Option.getD · Frame.empty) resembles.frame

/-- The time. -/
theorem sideBySide_clock :
  SideBySide answer x Eq (gets Engine.clock) (gets Engine.clock)
  := SideBySide.gets fun resembles => resembles.clock

/-! ### What is written for the identity -/

/-- A change for the identity, with a result. -/
theorem sideBySide_update {goal : α → α → Prop} {f : Engine → α × Engine}
    (changes : ∀ {e : Engine}, e.Sound → (f e).2.ChangesOnly e x)
    (same : ∀ {e e' : Engine}, e.Resembles e' x →
      goal (f e).1 (f e').1 ∧ ((f e).2.standing x).unnumbered = ((f e').2.standing x).unnumbered) :
  SideBySide answer x goal (update f) (update f)
  := by
  intro e e' resembles
  obtain ⟨meets, standing⟩ := same resembles
  constructor
  · exact meets
  · constructor
    · exact resembles.change (changes resembles.sound) (changes resembles.sound') standing
    · exact changes resembles.sound

/-- A change for the identity. -/
theorem sideBySide_modify {f : Engine → Engine}
    (changes : ∀ {e : Engine}, e.Sound → (f e).ChangesOnly e x)
    (same : ∀ {e e' : Engine}, e.Resembles e' x →
      ((f e).standing x).unnumbered = ((f e').standing x).unnumbered) :
  SideBySide answer x (fun _ _ => True) (modify f) (modify f)
  := by
  change SideBySide answer x _ (update fun e => ((), f e)) (update fun e => ((), f e))
  exact sideBySide_update changes fun resembles => ⟨trivial, same resembles⟩

/-- The frame of the identity is dropped. -/
theorem sideBySide_uncapture :
  SideBySide answer x (fun _ _ => True)
    (modify fun e => { e with frames := e.frames.clear x })
    (modify fun e => { e with frames := e.frames.clear x })
  := by
  apply sideBySide_modify
  · intro e sound
    exact sound.changesOnly_uncapture x
  · intro e e' resembles
    apply Engine.standing_eq_iff.mpr
    use resembles.live, resembles.applying, resembles.pending
    simp only [FrameStore.clear, Dict.get?_erase, if_pos]

/-- The deferred install of the identity is cancelled. -/
theorem sideBySide_cancel :
  SideBySide answer x (fun _ _ => True)
    (modify fun e => { e with retries := e.retries.cancel x })
    (modify fun e => { e with retries := e.retries.cancel x })
  := by
  apply sideBySide_modify
  · intro e sound
    exact sound.changesOnly_retry rfl
      fun y other => RetryQueue.get?_cancel_of_ne other
  · intro e e' resembles
    apply Engine.standing_eq_iff.mpr
    have cancelled (q : RetryQueue) : (q.cancel x).pending.get? x = none := by
      simp only [RetryQueue.cancel, Dict.get?_erase, if_pos]
    exact ⟨resembles.live, resembles.applying, (cancelled _).trans (cancelled _).symm,
      resembles.frame⟩

/-- An attempt for the identity has failed. -/
theorem sideBySide_schedule {now : Instant} :
  SideBySide answer x Eq
    (update fun e =>
      let (decision, retries) := e.retries.schedule x now
      (decision, { e with retries }))
    (update fun e =>
      let (decision, retries) := e.retries.schedule x now
      (decision, { e with retries }))
  := by
  apply sideBySide_update
  · intro e sound
    exact sound.changesOnly_retry (RetryQueue.policy_schedule _ x now)
      fun y other => RetryQueue.get?_schedule_of_ne other
  · intro e e' resembles
    obtain ⟨decision, pending⟩ :=
      RetryQueue.schedule_congr now resembles.policy resembles.pending
    use decision
    apply Engine.standing_eq_iff.mpr
    exact ⟨resembles.live, resembles.applying, pending, resembles.frame⟩

/-- The identity is detached. -/
theorem sideBySide_detach :
  SideBySide answer x
    (fun d d' => d.map Registration.unnumbered = d'.map Registration.unnumbered
      ∧ ∀ r, d = some r → r.id = x)
    (update fun e =>
      let (detached, registry) := e.registry.detach x
      (detached, { e with registry }))
    (update fun e =>
      let (detached, registry) := e.registry.detach x
      (detached, { e with registry }))
  := by
  apply sideBySide_update
  · intro e sound
    exact sound.changesOnly_detach x
  · intro e e' resembles
    constructor
    · constructor
      · dsimp only
        rw [Registry.detach_fst, Registry.detach_fst]
        rcases Registration.map_unnumbered_cases resembles.get? with
          ⟨none, none'⟩ | ⟨r, n, found, found'⟩
        · rw [none, none']
        · rw [found, found']
          rfl
      · intro r detached
        dsimp only at detached
        rw [Registry.detach_fst] at detached
        obtain ⟨s, found, rfl⟩ := Option.map_eq_some_iff.mp detached
        apply resembles.sound.wellKept.id_eq found
    · apply Engine.standing_eq_iff.mpr
      constructor
      · simp only [Registry.live_detach, if_pos]
      · constructor
        · simp only [resembles.sound.wellKept.applying_detach,
            resembles.sound'.wellKept.applying_detach, if_pos]
        · exact ⟨resembles.pending, resembles.frame⟩

/-- The identity is promoted. -/
theorem sideBySide_promote :
  SideBySide answer x (fun p p' => p.isSome = p'.isSome)
    (update fun e =>
      let (promoted, registry) := e.registry.promote x
      (promoted, { e with registry }))
    (update fun e =>
      let (promoted, registry) := e.registry.promote x
      (promoted, { e with registry }))
  := by
  apply sideBySide_update
  · intro e sound
    exact sound.changesOnly_promote x
  · intro e e' resembles
    have w := resembles.sound.wellKept
    have w' := resembles.sound'.wellKept
    rcases Registration.map_unnumbered_cases resembles.applying with
      ⟨none, none'⟩ | ⟨r, n, found, found'⟩
    · have same {g : Registry} (none : g.applying.get? x = .none) : g.promote x = (.none, g) := by
        rw [Registry.promote, none]
      dsimp only
      rw [same none, same none']
      exact ⟨rfl, resembles.standing⟩
    · have promoted := w.promote_of_applying found
      have promoted' := w'.promote_of_applying found'
      constructor
      · dsimp only
        rw [promoted, promoted']
        rfl
      · apply Engine.standing_eq_iff.mpr
        dsimp only
        constructor
        · rw [w.live_promote promoted, w'.live_promote promoted', if_pos rfl, if_pos rfl]
          rfl
        · constructor
          · rw [w.applying_promote promoted, w'.applying_promote promoted', if_pos rfl, if_pos rfl]
          · exact ⟨resembles.pending, resembles.frame⟩

/-- The entry of the identity is changed, whatever its number. -/
theorem sideBySide_revise {f : Registration → Registration} (alike : ∀ r, (f r).Alike r)
    (free : ∀ r n, f (r.numbered n) = (f r).numbered n) :
  SideBySide answer x (fun _ _ => True)
    (modify fun e => { e with registry := e.registry.modify x f })
    (modify fun e => { e with registry := e.registry.modify x f })
  := by
  have revised {o o' : Option Registration}
      (same : o.map Registration.unnumbered = o'.map Registration.unnumbered) :
      (o.map f).map Registration.unnumbered = (o'.map f).map Registration.unnumbered := by
    rcases Registration.map_unnumbered_cases same with ⟨rfl, rfl⟩ | ⟨r, n, rfl, rfl⟩
    · rfl
    · simp only [Option.map_some, free]
      rfl
  apply sideBySide_modify
  · intro e sound
    exact sound.changesOnly_modify x alike
  · intro e e' resembles
    apply Engine.standing_eq_iff.mpr
    constructor
    · simpa only [Registry.live_modify, if_pos] using revised resembles.live
    · constructor
      · simpa only [resembles.sound.wellKept.applying_modify,
          resembles.sound'.wellKept.applying_modify, if_pos] using revised resembles.applying
      · exact ⟨resembles.pending, resembles.frame⟩

/-- An instrument is registered, or one is registered under its identity already. -/
theorem sideBySide_reserve {c : Candidate} (own : c.instrument.id = x) :
  SideBySide answer x
    (fun p p' => ∃ r n,
      (p = .fresh r ∧ p' = .fresh (r.numbered n) ∧ r.id = x)
        ∨ (p = .existing r ∧ p' = .existing (r.numbered n)))
    (update fun e =>
      let (reservation, registry) := e.registry.reserve c
      (reservation, { e with registry }))
    (update fun e =>
      let (reservation, registry) := e.registry.reserve c
      (reservation, { e with registry }))
  := by
  apply sideBySide_update
  · intro e sound
    rcases reserved : e.registry.reserve c with ⟨r | r, g⟩
    · have changes := sound.changesOnly_reserve reserved
      rw [(Registry.reserve_fresh reserved).2.1] at changes
      exact own ▸ changes
    · rw [Registry.reserve_existing reserved]
      exact (sound.changesOnly_alike ⟨rfl, rfl, rfl⟩ rfl x).1
  · intro e e' resembles
    have same := resembles.get?
    subst own
    rcases Registration.map_unnumbered_cases same with ⟨none, none'⟩ | ⟨r, n, found, found'⟩
    · simp only [Registry.reserve, none, none']
      constructor
      · use .ofCandidate e.registry.nextSerial c, e'.registry.nextSerial
        exact .inl ⟨rfl, rfl, rfl⟩
      · apply Engine.standing_eq_iff.mpr
        have named (n : Nat) : c.instrument.id = (Registration.ofCandidate n c).id := rfl
        simp only [Dict.get?_insert, ← named, if_pos]
        exact ⟨resembles.live, rfl, resembles.pending, resembles.frame⟩
    · simp only [Registry.reserve, found, found']
      exact ⟨⟨r, n, .inr ⟨rfl, rfl⟩⟩, resembles.standing⟩

end Routine

end Instrumentation
