import Instrumentation.Proofs.Session
import Instrumentation.Proofs.Sound

/-!
# Strides

An operation makes one stride after another. A stride leads from its origin, which is the start of
the operation or the answer to a call, to the next call or to the end, and nothing else happens
during it.

What an operation does in a stride depends on its origin. After an attempt that failed it takes out
the identity of that attempt and touches nobody else. Otherwise it takes out only what it aims at or
what was registered late. After an attempt that is deferred it leaves the registry alone, unless it
goes on to another call.

While a call waits, other operations may run to any depth. All that is known of the engine then is
that it succeeds the one in which the call was made.
-/

namespace Instrumentation

/-! ### Origins -/

namespace Call

/-- The answer ends an install with a failure. -/
def Fails (q : RetryQueue) : (call : Call) → call.request.Answer → Prop
  | resolve r, loaded => loaded = false ∧ ∃ now err, q.GivesUp r now err
  | patch _, answer => ∃ source, answer = .error source
  | restore _, _ => False
  | withdraw _, _ => False

/-- The answer defers an install. -/
def Defers (q : RetryQueue) : (call : Call) → call.request.Answer → Prop
  | resolve r, loaded => loaded = false ∧ ∀ now err, ¬q.GivesUp r now err
  | patch _, _ => False
  | restore _, _ => False
  | withdraw _, _ => False

/-- The call takes back the patch of a live instrument that is removed. -/
def IsWithdrawal : Call → Prop
  | withdraw _ => True
  | _ => False

end Call

/-- A call that was answered. -/
structure Reply where
  /-- The call. -/
  call : Call
  /-- The answer. -/
  answer : call.request.Answer

/-- Where a stride begins. -/
structure Origin where
  /-- The call that was answered, unless the operation starts. -/
  reply : Option Reply
  /-- The engine at that time. -/
  engine : Engine

namespace Origin

variable {o : Origin} {r : Registration}

/-- The operation starts, or has taken back the patch of an instrument that it removes. -/
def Removes (o : Origin) : Prop := ∀ reply, o.reply = some reply → reply.call.IsWithdrawal

/-- An attempt to install the registration has failed. -/
def Fails (o : Origin) (r : Registration) : Prop :=
  ∃ reply, o.reply = some reply ∧ reply.call.registration = r
    ∧ reply.call.Fails o.engine.retries reply.answer

/-- An attempt to install the registration is deferred. -/
def Defers (o : Origin) (r : Registration) : Prop :=
  ∃ reply, o.reply = some reply ∧ reply.call.registration = r
    ∧ reply.call.Defers o.engine.retries reply.answer

/-- The registration for which the call was made that was answered. -/
def registration? (o : Origin) : Option Registration :=
  o.reply.map fun reply => reply.call.registration

/-- An attempt that is deferred is one for its registration. -/
theorem Defers.registration?_eq (deferred : o.Defers r) :
  o.registration? = some r
  := by
  obtain ⟨reply, replied, rfl, -⟩ := deferred
  simp [registration?, replied]

/-- An attempt that has failed is not deferred. -/
theorem Fails.not_defers {s : Registration} (failed : o.Fails r) :
  ¬o.Defers s
  := by
  rintro ⟨reply, replied, -, defers⟩
  obtain ⟨again, replied', -, fails⟩ := failed
  obtain rfl := Option.some.inj (replied.symm.trans replied')
  obtain ⟨call, answer⟩ := reply
  cases call with
  | resolve r =>
    obtain ⟨-, now, err, givesUp⟩ := fails
    exact defers.2 now err givesUp
  | patch r | restore r | withdraw r => cases defers

/-- A removal is not an attempt that has failed. -/
theorem Removes.not_fails (removes : o.Removes) :
  ¬o.Fails r
  := by
  rintro ⟨⟨call, answer⟩, reply, -, fails⟩
  have withdrawal := removes _ reply
  cases call with
  | withdraw r => cases fails
  | resolve r | patch r | restore r => cases withdrawal

/-- A removal is not an attempt that is deferred. -/
theorem Removes.not_defers (removes : o.Removes) :
  ¬o.Defers r
  := by
  rintro ⟨⟨call, answer⟩, reply, -, defers⟩
  have withdrawal := removes _ reply
  cases call with
  | withdraw r => cases defers
  | resolve r | patch r | restore r => cases withdrawal

/-- An operation that starts may remove. -/
theorem removes_start (e : Engine) :
  Removes ⟨none, e⟩
  := by
  intro reply replied
  cases replied

/-- An operation goes on removing once a patch is taken back. -/
theorem removes_withdraw (r : Registration) (answer : Except TransformError Unit) (e : Engine) :
  Removes ⟨some ⟨.withdraw r, answer⟩, e⟩
  := by
  intro reply replied
  obtain rfl := Option.some.inj replied
  trivial

end Origin

/-! ### What a stride does -/

/-- What an operation is meant to do. -/
structure Aim where
  /-- The instruments that it is meant to remove. -/
  removes : Instrument → Prop
  /-- It may install instruments. -/
  installs : Prop

/-- Only the identity is affected: it is free, unless it was registered again. -/
structure Engine.Forsakes (e : Engine) (x : InstrumentId) (e' : Engine) : Prop where
  /-- Other instruments go on applying. -/
  applying : ∀ {y s}, y ≠ x → e.registry.applying.get? y = some s
    → e'.registry.applying.get? y = some s
  /-- Other instruments stay live. -/
  live : ∀ {y s}, y ≠ x → e.registry.live.get? y = some s → e'.registry.live.get? y = some s
  /-- A registration of the identity is new. -/
  fresh : ∀ {s}, e'.registry.get? x = some s → e.registry.nextSerial ≤ s.serial
  /-- The attempts of other applying instruments stay scheduled. -/
  pending : ∀ {y s}, y ≠ x → e.registry.applying.get? y = some s
    → e'.retries.pending.get? y = e.retries.pending.get? y
  /-- The frames of other identities stay. -/
  frames : ∀ {y}, y ≠ x → e'.frames.frames.get? y = e.frames.frames.get? y

namespace Engine.Forsakes

variable {e e' e'' : Engine} {x : InstrumentId}

/-- An identity is detached, and its deferred install and its frame are dropped. -/
theorem of_detach (w : e.registry.WellKept) (registry : e'.registry = (e.registry.detach x).2)
    (retries : ∀ {y}, y ≠ x → e'.retries.pending.get? y = e.retries.pending.get? y)
    (frames : ∀ {y}, y ≠ x → e'.frames.frames.get? y = e.frames.frames.get? y) :
  e.Forsakes x e'
  := by
  constructor
  · intro y s other found
    rw [registry, w.applying_detach, if_neg other, found]
  · intro y s other found
    rw [registry, Registry.live_detach, if_neg other, found]
  · intro s found
    rw [registry, w.get?_detach, if_pos rfl] at found
    cases found
  · intro y s other _
    apply retries other
  · intro y other
    apply frames other

/-- Only the deferred install of the identity changed before. -/
theorem precede (h : e'.Forsakes x e'') (registry : e'.registry = e.registry)
    (retries : ∀ {y}, y ≠ x → e'.retries.pending.get? y = e.retries.pending.get? y)
    (frames : e'.frames = e.frames) :
  e.Forsakes x e''
  := by
  constructor
  · intro y s other found
    apply h.applying other (registry ▸ found)
  · intro y s other found
    apply h.live other (registry ▸ found)
  · intro s found
    rw [← registry]
    apply h.fresh found
  · intro y s other found
    rw [h.pending other (registry ▸ found), retries other]
  · intro y other
    rw [h.frames other, frames]

/-- Nothing happens that is seen. -/
theorem alike (h : e.Forsakes x e') (same : e''.Alike e') :
  e.Forsakes x e''
  := by
  obtain ⟨registry, retries, frames⟩ := same
  constructor
  · intro y s other found
    rw [registry, h.applying other found]
  · intro y s other found
    rw [registry, h.live other found]
  · intro s found
    apply h.fresh (registry ▸ found)
  · intro y s other found
    rw [retries, h.pending other found]
  · intro y other
    rw [frames, h.frames other]

/-- The frame of the identity is cleared. -/
theorem clearFrame (h : e.Forsakes x e') :
  e.Forsakes x { e' with frames := e'.frames.clear x }
  := by
  constructor
  · exact h.applying
  · exact h.live
  · exact h.fresh
  · exact h.pending
  · intro y other
    rw [← h.frames other]
    change (e'.frames.frames.erase x).get? y = e'.frames.frames.get? y
    rw [Dict.get?_erase, if_neg other]

/-- Another instrument is registered. -/
theorem register (h : e.Forsakes x e') (later : e'.registry.Succeeds e.registry) {c : Candidate}
    {r : Registration} {g : Registry} (reserved : e'.registry.reserve c = (.fresh r, g)) :
  e.Forsakes x { e' with registry := g }
  := by
  obtain ⟨freeLive, freeApplying⟩ :=
    Registry.get?_eq_none_iff.mp (Registry.reserve_fresh reserved).1
  constructor
  · intro y s other found
    have still := h.applying other found
    have ne : y ≠ r.id := by
      rintro rfl
      rw [freeApplying] at still
      cases still
    rw [Registry.applying_reserve reserved, if_neg ne, still]
  · intro y s other found
    rw [Registry.live_reserve reserved, h.live other found]
  · intro s found
    rw [Registry.get?_reserve reserved] at found
    split at found
    next =>
      obtain rfl := Option.some.inj found
      rw [(Registry.reserve_fresh reserved).2.1]
      exact later.nextSerial_le
    next => apply h.fresh found
  · intro y s other found
    apply h.pending other found
  · intro y other
    apply h.frames other

/-- A deferred install is forgotten that is no longer applying. -/
theorem forget (h : e.Forsakes x e') {y : InstrumentId}
    (gone : e'.registry.getApplying? y = none) :
  e.Forsakes x { e' with retries := e'.retries.cancel y }
  := by
  constructor
  · exact h.applying
  · exact h.live
  · exact h.fresh
  · intro z s other found
    have still := h.applying other found
    have ne : z ≠ y := by
      rintro rfl
      rw [Registry.getApplying?, still] at gone
      cases gone
    rw [← h.pending other found]
    change (e'.retries.pending.erase y).get? z = e'.retries.pending.get? z
    rw [Dict.get?_erase, if_neg ne]
  · exact h.frames

end Engine.Forsakes

/-- What an operation has done since its origin, and is about to call unless it is over. It has an
aim, and things were registered late if they were not in the given registry. -/
structure Stride (g : Registry) (aim : Aim) (o : Origin) (e : Engine)
    (next : Option Call) : Prop where
  /-- The engine succeeds that at the origin. -/
  succeeds : e.Succeeds o.engine
  /-- The registry succeeds the given one. -/
  later : e.registry.Succeeds g
  /-- Unless an attempt has failed, what is not aimed at and was not registered late is spared. -/
  spares : (∀ r, ¬o.Fails r) → ∀ {x r}, g.get? x = some r → ¬aim.removes r.instrument
    → o.engine.registry.Has x r.serial → e.registry.Has x r.serial
  /-- A failure affects its own identity only. -/
  forsakes : ∀ {r}, o.Fails r → o.engine.Forsakes r.id e
  /-- A deferral that is the last thing leaves the registry, and the install pending. -/
  defers : ∀ {r}, o.Defers r → next = none
    → e.registry = o.engine.registry ∧ e.retries.isPending r.id = true

/-- Of the given registry nothing is registered under the identity that the aim spares. -/
def Registry.Doomed (g : Registry) (aim : Aim) (g' : Registry) (x : InstrumentId) :
    Prop :=
  ∀ r, g.get? x = some r → ¬aim.removes r.instrument → ¬g'.Has x r.serial

namespace Registry.Doomed

variable {g g' g'' : Registry} {aim : Aim} {x : InstrumentId} {s : Registration}

/-- Everything under the identity is aimed at. -/
theorem of_aim (aims : ∀ r, g.get? x = some r → aim.removes r.instrument) :
  g.Doomed aim g' x
  := fun r found spared => absurd (aims r found) spared

/-- What is registered under the identity is aimed at. -/
theorem of_registered (w : g.WellKept) (later : g'.Succeeds g) (found : g'.get? x = some s)
    (aims : aim.removes s.instrument) :
  g.Doomed aim g' x
  := by
  rintro r before spared ⟨s, again, serial⟩
  obtain rfl := Option.some.inj (found.symm.trans again)
  rcases later.stems found with new | ⟨q, first, -, instrument⟩
  · have := w.serial_lt before
    omega
  · obtain rfl := Option.some.inj (before.symm.trans first)
    exact spared (instrument ▸ aims)

/-- What has gone does not come back. -/
theorem succeed (h : g.Doomed aim g' x) (w : g.WellKept) (later : g'.Succeeds g)
    (later' : g''.Succeeds g') :
  g.Doomed aim g'' x
  := by
  intro r found spared has
  apply h r found spared
  apply has.before later'
  exact Nat.lt_of_lt_of_le (w.serial_lt found) later.nextSerial_le

end Registry.Doomed

namespace Stride

variable {g : Registry} {aim : Aim} {o : Origin} {e e' : Engine}
  {next : Option Call} {x : InstrumentId}

/-- The engine of a stride is sound. -/
theorem sound (h : Stride g aim o e next) :
  e.Sound
  := h.succeeds.sound

/-- An operation starts. -/
theorem start (sound : e.Sound) (later : e.registry.Succeeds g) :
  Stride g aim ⟨none, e⟩ e next
  := by
  constructor
  · exact .refl sound
  · exact later
  · intro _ x r _ _ has
    exact has
  · rintro r ⟨reply, replied, -⟩
    cases replied
  · rintro r ⟨reply, replied, -⟩
    cases replied

/-- A stride goes on to a call. -/
theorem proceed (h : Stride g aim o e none) :
  Stride g aim o e next
  := ⟨h.succeeds, h.later, h.spares, h.forsakes, fun deferred _ => h.defers deferred rfl⟩

/-- Nothing happens that is seen. -/
theorem alike (h : Stride g aim o e next) (same : e'.Alike e) :
  Stride g aim o e' next
  := by
  constructor
  · exact h.succeeds.alike same
  · rw [same.registry]
    exact h.later
  · rw [same.registry]
    exact h.spares
  · intro r failed
    apply (h.forsakes failed).alike same
  · rw [same.registry, same.retries]
    exact h.defers

/-- Another instrument is registered, and a call follows. -/
theorem register (h : Stride g aim o e none) {c : Candidate} {r : Registration} {g' : Registry}
    (fresh : e.registry.reserve c = (.fresh r, g')) (call : Call) :
  Stride g aim o { e with registry := g' } (some call)
  := by
  constructor
  · exact (h.sound.reserve fresh).trans h.succeeds
  · exact (Registry.Succeeds.reserve fresh).trans h.later
  · intro unfailing x s found spared has
    apply (h.spares unfailing found spared has).reserve fresh
  · intro s failed
    apply (h.forsakes failed).register h.succeeds.registry fresh
  · intro s _ ends
    cases ends

/-- A deferred install is forgotten that is no longer applying, and that is not the one which was
deferred last. -/
theorem forget (h : Stride g aim o e none) (gone : e.registry.getApplying? x = none)
    (other : ∀ r, o.Defers r → r.id ≠ x) :
  Stride g aim o { e with retries := e.retries.cancel x } none
  := by
  constructor
  · exact (h.sound.retry _).trans h.succeeds
  · exact h.later
  · exact h.spares
  · intro r failed
    apply (h.forsakes failed).forget gone
  · intro r deferred _
    obtain ⟨registry, pending⟩ := h.defers deferred rfl
    use registry
    change ((e.retries.pending.erase x).get? r.id).isSome = true
    rw [Dict.get?_erase, if_neg (other r deferred)]
    exact pending

/-! ### Attempts -/

/-- An attempt has failed. -/
theorem fail {reply : Reply} (failed : reply.call.Fails e.retries reply.answer)
    (later : e.registry.Succeeds g) (succeeds : e'.Succeeds e)
    (forsakes : e.Forsakes reply.call.registration.id e') :
  Stride g aim ⟨some reply, e⟩ e' next
  := by
  have fails : Origin.Fails ⟨some reply, e⟩ reply.call.registration := ⟨reply, rfl, rfl, failed⟩
  constructor
  · exact succeeds
  · exact succeeds.registry.trans later
  · intro unfailing
    exact absurd fails (unfailing _)
  · rintro r ⟨again, replied, rfl, -⟩
    obtain rfl := Option.some.inj replied
    exact forsakes
  · intro r deferred
    exact absurd deferred fails.not_defers

/-- An attempt is deferred. -/
theorem defer {reply : Reply} (deferred : reply.call.Defers e.retries reply.answer)
    (later : e.registry.Succeeds g) (succeeds : e'.Succeeds e) (registry : e'.registry = e.registry)
    (pending : e'.retries.isPending reply.call.registration.id = true) :
  Stride g aim ⟨some reply, e⟩ e' next
  := by
  have defers : Origin.Defers ⟨some reply, e⟩ reply.call.registration :=
    ⟨reply, rfl, rfl, deferred⟩
  constructor
  · exact succeeds
  · exact succeeds.registry.trans later
  · intro _ x r _ _ has
    exact registry ▸ has
  · intro r failed
    exact absurd defers failed.not_defers
  · rintro r ⟨again, replied, rfl, -⟩ _
    obtain rfl := Option.some.inj replied
    exact ⟨registry, pending⟩

/-- An attempt has come so far that it neither fails nor is deferred. -/
theorem settle {reply : Reply} (fails : ¬reply.call.Fails e.retries reply.answer)
    (defers : ¬reply.call.Defers e.retries reply.answer) (later : e.registry.Succeeds g)
    (succeeds : e'.Succeeds e) (keeps : ∀ {x n}, e.registry.Has x n → e'.registry.Has x n) :
  Stride g aim ⟨some reply, e⟩ e' next
  := by
  constructor
  · exact succeeds
  · exact succeeds.registry.trans later
  · intro _ x r _ _ has
    exact keeps has
  · rintro r ⟨again, replied, -, failed⟩
    obtain rfl := Option.some.inj replied
    exact absurd failed fails
  · rintro r ⟨again, replied, -, deferred⟩
    obtain rfl := Option.some.inj replied
    exact absurd deferred defers

/-- Nothing more happens after an answer that neither fails an attempt nor defers one. -/
theorem rest {reply : Reply} (fails : ¬reply.call.Fails e.retries reply.answer)
    (defers : ¬reply.call.Defers e.retries reply.answer) (sound : e.Sound)
    (later : e.registry.Succeeds g) (same : e'.Alike e) :
  Stride g aim ⟨some reply, e⟩ e' next
  := by
  apply settle fails defers later (sound.alike same)
  intro x n has
  rw [same.registry]
  exact has

/-! ### Removals -/

/-- A removal fails no attempt and defers none. -/
theorem of_removes (removes : o.Removes) (succeeds : e.Succeeds o.engine)
    (later : e.registry.Succeeds g)
    (spares : ∀ {x r}, g.get? x = some r → ¬aim.removes r.instrument
      → o.engine.registry.Has x r.serial → e.registry.Has x r.serial) :
  Stride g aim o e next
  := by
  constructor
  · exact succeeds
  · exact later
  · exact fun _ => spares
  · intro r failed
    exact absurd failed removes.not_fails
  · intro r deferred
    exact absurd deferred removes.not_defers

/-- A removal changes the deferred installs. -/
theorem retry (h : Stride g aim o e none) (removes : o.Removes) (q : RetryQueue) :
  Stride g aim o { e with retries := q } none
  := by
  apply of_removes removes
  · exact (h.sound.retry q).trans h.succeeds
  · exact h.later
  · exact h.spares fun _ => removes.not_fails

/-- A removal changes the frames. -/
theorem frames (h : Stride g aim o e none) (removes : o.Removes) (s : FrameStore) :
  Stride g aim o { e with frames := s } none
  := by
  apply of_removes removes
  · exact Engine.Succeeds.trans (h.sound.keep rfl) h.succeeds
  · exact h.later
  · exact h.spares fun _ => removes.not_fails

/-- A removal takes out an identity under which nothing is to be spared. -/
theorem detach (h : Stride g aim o e none) (removes : o.Removes)
    (doomed : g.Doomed aim e.registry x) :
  Stride g aim o { e with registry := (e.registry.detach x).2 } none
  := by
  apply of_removes removes
  · exact (h.sound.detach x).trans h.succeeds
  · exact (Registry.Succeeds.detach h.sound.wellKept x).trans h.later
  · intro y r found spared has
    have still := h.spares (fun _ => removes.not_fails) found spared has
    have other : y ≠ x := by
      rintro rfl
      exact doomed r found spared still
    apply still.detach h.sound.wellKept other

/-- A hit is counted. -/
theorem modify (h : Stride g aim o e none) (removes : o.Removes)
    {f : Registration → Registration} (alike : ∀ r, (f r).Alike r) :
  Stride g aim o { e with registry := e.registry.modify x f } none
  := by
  apply of_removes removes
  · exact (h.sound.modify x alike).trans h.succeeds
  · exact (Registry.Succeeds.modify h.sound.wellKept x alike).trans h.later
  · intro y r found spared has
    apply (h.spares (fun _ => removes.not_fails) found spared has).modify h.sound.wellKept alike

end Stride

namespace Routine

variable {α β : Type}

/-- The routine goes on by strides, whatever its calls are answered and whatever engine it finds
then that succeeds the one in which it called. It calls for an install only if it may install. At
its end the goal holds of the result, the origin of the last stride and the engine. -/
def Strides (g : Registry) (aim : Aim) (goal : α → Origin → Engine → Prop) :
    Routine α → Origin → Engine → Prop
  | done a, o, e => goal a o e
  | read next, o, e => (next e).Strides g aim goal o e
  | write e' next, o, _ => next.Strides g aim goal o e'
  | ask call next, o, e =>
    (call.IsWithdrawal ∨ aim.installs) ∧ Stride g aim o e (some call)
      ∧ ∀ answer e', e'.Succeeds e
        → (next answer).Strides g aim goal ⟨some ⟨call, answer⟩, e'⟩ e'

/-- The end of an operation is the end of its last stride. -/
def Ended {α : Type} (g : Registry) (aim : Aim) (_ : α) (o : Origin) (e : Engine) :
    Prop :=
  Stride g aim o e none

/-- An attempt for a registration is over. -/
def Tried {α : Type} (g : Registry) (aim : Aim) (r : Registration) (_ : α)
    (o : Origin) (e : Engine) : Prop :=
  o.registration? = some r ∧ Stride g aim o e none

/-- A removal is over, in an engine that succeeds a given one. -/
def Removed {α : Type} (g : Registry) (aim : Aim) (e : Engine) (_ : α) (o : Origin)
    (e' : Engine) : Prop :=
  o.Removes ∧ Stride g aim o e' none ∧ e'.Succeeds e

section Rules

variable {g : Registry} {aim : Aim} {o : Origin} {e : Engine}

/-- The strides of two routines, one after the other. -/
theorem strides_bind {goal : β → Origin → Engine → Prop} {r : Routine α} {f : α → Routine β} :
  (r >>= f).Strides g aim goal o e
    ↔ r.Strides g aim (fun a o' e' => (f a).Strides g aim goal o' e') o e
  := by
  change (r.bind f).Strides g aim goal o e ↔ _
  induction r generalizing o e with
  | done a => rfl
  | read next ih => apply ih
  | write e' next ih => apply ih
  | ask call next ih =>
    constructor
    · intro h
      exact ⟨h.1, h.2.1, fun answer e' later => (ih answer).mp (h.2.2 answer e' later)⟩
    · intro h
      exact ⟨h.1, h.2.1, fun answer e' later => (ih answer).mpr (h.2.2 answer e' later)⟩

/-- Strides to a weaker goal. -/
theorem Strides.mono {goal goal' : α → Origin → Engine → Prop} {r : Routine α}
    (h : r.Strides g aim goal o e) (weaker : ∀ a o e, goal a o e → goal' a o e) :
  r.Strides g aim goal' o e
  := by
  induction r generalizing o e with
  | done a => apply weaker _ _ _ h
  | read next ih => apply ih _ h
  | write e' next ih => apply ih h
  | ask call next ih => exact ⟨h.1, h.2.1, fun answer e' later => ih answer (h.2.2 answer e' later)⟩

/-- A look at the engine. -/
theorem strides_gets {goal : α → Origin → Engine → Prop} {f : Engine → α}
    (h : goal (f e) o e) :
  (gets f).Strides g aim goal o e
  := h

/-- A change of the engine. -/
theorem strides_modify {goal : Unit → Origin → Engine → Prop} {f : Engine → Engine}
    (h : goal () o (f e)) :
  (modify f).Strides g aim goal o e
  := h

/-- A change of the engine with a result. -/
theorem strides_update {goal : α → Origin → Engine → Prop} {f : Engine → α × Engine}
    (h : goal (f e).1 o (f e).2) :
  (update f).Strides g aim goal o e
  := h

/-- A record in the log. -/
theorem strides_log {goal : Unit → Origin → Engine → Prop} {level : Level} {message : String}
    {fields : List (String × String)} (h : ∀ e', e'.Alike e → goal () o e') :
  (log level message fields).Strides g aim goal o e
  := h _ (.log e level message fields)

/-- An event. -/
theorem strides_publish {goal : Unit → Origin → Engine → Prop} {serial : Option Nat}
    {event : Instant → Event} (h : ∀ e', e'.Alike e → goal () o e') :
  (publish serial event).Strides g aim goal o e
  := h _ (.publish e serial (event e.clock))

/-- A call. -/
theorem strides_request {call : Call} {goal : call.request.Answer → Origin → Engine → Prop}
    (may : call.IsWithdrawal ∨ aim.installs) (stride : Stride g aim o e (some call))
    (h : ∀ answer e₁ e₂, e₁.Succeeds e → e₂.Alike e₁ → goal answer ⟨some ⟨call, answer⟩, e₁⟩ e₂) :
  (request call).Strides g aim goal o e
  := by
  have same : (e.note call.asked).Alike e := .note e _
  use may, stride.alike same
  intro answer e' later
  apply h answer e' _ _ (.note e' _)
  exact later.trans (stride.sound.alike same)

end Rules

end Routine

end Instrumentation
