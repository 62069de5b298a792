import Instrumentation.Proofs.Ensures.Operations

/-!
# One attempt at a time

While an identity applies, one permit at most lets somebody attempt its install. The permit is with
the deferred installs when an attempt is due, with an operation that has taken it up and gets round
to it later, or with an attempt that is under way. It is used up when the patch is in place. So the
unit is patched once, unless the registration leaves the registry.

The account of an identity is kept with respect to a registration that is never to leave: nothing is
said of engines in which it has left.
-/

namespace Instrumentation

/-! ### What is counted -/

/-- The entry is the call to insert a patch that calls back the identity. -/
def Entry.patches (x : InstrumentId) : Entry → Bool
  | asked _ (.patch _ spec) => spec.instrumentId = x
  | _ => false

/-- The entry is the event that an instrument of the identity was applied. -/
def Entry.applies (x : InstrumentId) : Entry → Bool
  | published _ (.applied i _) => i.id = x
  | _ => false

/-- The number of calls to insert a patch that calls back the identity. -/
def Engine.patches (e : Engine) (x : InstrumentId) : Nat := e.history.countP (Entry.patches x)

/-- The number of events that an instrument of the identity was applied. -/
def Engine.applications (e : Engine) (x : InstrumentId) : Nat :=
  e.history.countP (Entry.applies x)

/-- The permits that are with a deferred install. -/
def RetryQueue.permits (q : RetryQueue) (x : InstrumentId) : Nat :=
  if ((q.pending.get? x).bind PendingRetry.dueAt).isSome then 1 else 0

/-- The permits that are with a call. -/
def Call.permits (x : InstrumentId) : Call → Nat
  | resolve r => if r.id = x then 1 else 0
  | patch r => if r.id = x then 1 else 0
  | _ => 0

/-- The patches of the identity that a call inserts. -/
def Call.patches (x : InstrumentId) : Call → Nat
  | patch r => if r.id = x then 1 else 0
  | _ => 0

/-- A call that inserts a patch has a permit. -/
theorem Call.patches_le_permits (x : InstrumentId) (call : Call) :
  call.patches x ≤ call.permits x
  := by
  cases call with
  | patch r => apply Nat.le_refl
  | _ => apply Nat.zero_le

/-! ### The registration that stays -/

/-- The identity has a given registration with an instrument that fits, and no other, unless it was
not registered yet. -/
structure Engine.Keeps (e : Engine) (x : InstrumentId) (n : Nat) (fits : Instrument → Prop) : Prop where
  /-- Nothing else is registered. -/
  only : ∀ {r}, e.registry.get? x = some r → r.serial = n ∧ fits r.instrument
  /-- It is still registered. -/
  still : n < e.registry.nextSerial → ∃ r, e.registry.get? x = some r

/-- The registration has left. -/
def Engine.Lost (e : Engine) (x : InstrumentId) (n : Nat) : Prop :=
  n < e.registry.nextSerial ∧ ¬e.registry.Has x n

/-- How far an install has come. -/
inductive Stage where
  /-- The identity is not registered. -/
  | unborn
  /-- The instrument is applying. -/
  | applying
  /-- The patch is in place. -/
  | live

namespace Stage

/-- The identity is registered as far as its install has come. -/
def Holds (g : Registry) (x : InstrumentId) (n : Nat) (fits : Instrument → Prop) : Stage → Prop
  | unborn => g.get? x = none
  | applying => ∃ r, g.applying.get? x = some r ∧ r.serial = n ∧ fits r.instrument
  | live => ∃ r, g.live.get? x = some r ∧ r.serial = n ∧ fits r.instrument

/-- So many permits are with the deferred installs and with operations, and so many patches are
under way, when so many were asked for and announced. -/
def Allows (queued held underway patches applications : Nat) : Stage → Prop
  | unborn => queued = 0 ∧ held = 0 ∧ underway = 0 ∧ patches = 0 ∧ applications = 0
  | applying => held + queued ≤ 1 ∧ patches = underway ∧ applications = 0
  | live => queued = 0 ∧ held = 0 ∧ underway = 0 ∧ patches = 1 ∧ applications = 1

variable {g g' : Registry} {x y : InstrumentId} {n : Nat} {fits : Instrument → Prop} {stage : Stage}

/-- A change of an entry. -/
protected theorem Holds.modify (h : stage.Holds g x n fits) (w : g.WellKept)
    {f : Registration → Registration} (alike : ∀ r, (f r).Alike r) :
  stage.Holds (g.modify y f) x n fits
  := by
  cases stage with
  | unborn =>
    have free : g.get? x = none := h
    change (g.modify y f).get? x = none
    rw [w.get?_modify]
    split
    next own => rw [← own, free, Option.map_none]
    next => exact free
  | applying =>
    obtain ⟨r, found, serial, instrument⟩ := h
    by_cases own : x = y
    · subst own
      refine ⟨f r, ?_, (alike r).serial.trans serial, (alike r).instrument ▸ instrument⟩
      rw [w.applying_modify, if_pos rfl, found, Option.map_some]
    · exact ⟨r, by rw [w.applying_modify, if_neg own, found], serial, instrument⟩
  | live =>
    obtain ⟨r, found, serial, instrument⟩ := h
    by_cases own : x = y
    · subst own
      refine ⟨f r, ?_, (alike r).serial.trans serial, (alike r).instrument ▸ instrument⟩
      rw [Registry.live_modify, if_pos rfl, found, Option.map_some]
    · exact ⟨r, by rw [Registry.live_modify, if_neg own, found], serial, instrument⟩

/-- Another identity is detached. -/
protected theorem Holds.detach (h : stage.Holds g x n fits) (w : g.WellKept) (other : x ≠ y) :
  stage.Holds (g.detach y).2 x n fits
  := by
  cases stage with
  | unborn =>
    have free : g.get? x = none := h
    change (g.detach y).2.get? x = none
    rw [w.get?_detach, if_neg other, free]
  | applying =>
    obtain ⟨r, found, known⟩ := h
    exact ⟨r, by rw [w.applying_detach, if_neg other, found], known⟩
  | live =>
    obtain ⟨r, found, known⟩ := h
    exact ⟨r, by rw [Registry.live_detach, if_neg other, found], known⟩

/-- Another identity is promoted. -/
protected theorem Holds.promote (h : stage.Holds g x n fits) (w : g.WellKept) (other : x ≠ y) :
  stage.Holds (g.promote y).2 x n fits
  := by
  cases promoted : (g.promote y).1 with
  | none => rwa [(w.promote_none promoted).2]
  | some s =>
    cases stage with
    | unborn =>
      have free : g.get? x = none := h
      change (g.promote y).2.get? x = none
      rw [w.get?_promote promoted, if_neg other, free]
    | applying =>
      obtain ⟨r, found, known⟩ := h
      exact ⟨r, by rw [w.applying_promote promoted, if_neg other, found], known⟩
    | live =>
      obtain ⟨r, found, known⟩ := h
      exact ⟨r, by rw [w.live_promote promoted, if_neg other, found], known⟩

/-- Another identity is registered. -/
protected theorem Holds.reserve {c : Candidate} {r : Registration} (h : stage.Holds g x n fits)
    (fresh : g.reserve c = (.fresh r, g')) (other : x ≠ r.id) :
  stage.Holds g' x n fits
  := by
  cases stage with
  | unborn =>
    have free : g.get? x = none := h
    change g'.get? x = none
    rw [Registry.get?_reserve fresh, if_neg other, free]
  | applying =>
    obtain ⟨s, found, known⟩ := h
    exact ⟨s, by rw [Registry.applying_reserve fresh, if_neg other, found], known⟩
  | live =>
    obtain ⟨s, found, known⟩ := h
    exact ⟨s, by rw [Registry.live_reserve fresh, found], known⟩

/-- What is registered has the number. -/
theorem Holds.has (h : stage.Holds g x n fits) (w : g.WellKept) :
  stage = unborn ∨ g.Has x n
  := by
  cases stage with
  | unborn => exact .inl rfl
  | applying =>
    obtain ⟨r, found, serial, -⟩ := h
    exact .inr ⟨r, w.get?_of_applying found, serial⟩
  | live =>
    obtain ⟨r, found, serial, -⟩ := h
    exact .inr ⟨r, Registry.get?_of_live found, serial⟩

/-- What is registered has the number, and its instrument fits. -/
theorem Holds.eq_of_get? (h : stage.Holds g x n fits) (w : g.WellKept) {r : Registration}
    (found : g.get? x = some r) :
  r.serial = n ∧ fits r.instrument
  := by
  cases stage with
  | unborn =>
    rw [Holds, found] at h
    cases h
  | applying =>
    obtain ⟨s, applying, known⟩ := h
    obtain rfl := Option.some.inj (found.symm.trans (w.get?_of_applying applying))
    exact known
  | live =>
    obtain ⟨s, live, known⟩ := h
    obtain rfl := Option.some.inj (found.symm.trans (Registry.get?_of_live live))
    exact known

/-- A permit that is held is one of an applying instrument. -/
theorem Allows.applying {queued held underway patches applications : Nat}
    (h : stage.Allows queued held underway patches applications) (some : 0 < held + queued) :
  stage = .applying
  := by
  cases stage with
  | applying => rfl
  | unborn =>
    obtain ⟨none, none', -⟩ := h
    omega
  | live =>
    obtain ⟨none, none', -⟩ := h
    omega

end Stage

/-! ### The account -/

/-- The engine is sound, and unless the registration has left, the proposition holds and the permits
and patches of the identity are those that the stage of its install allows. -/
structure Engine.Accounted (e : Engine) (x : InstrumentId) (n : Nat) (fits : Instrument → Prop) (P : Prop)
    (held underway : Nat) : Prop where
  /-- The engine is sound. -/
  sound : e.Sound
  /-- The registration has left, or the numbers are right. -/
  tally : e.Lost x n ∨ P ∧ ∃ stage : Stage, stage.Holds e.registry x n fits
    ∧ stage.Allows (e.retries.permits x) held underway (e.patches x) (e.applications x)

section Account

variable {e e' : Engine} {x y : InstrumentId} {n : Nat} {fits : Instrument → Prop} {P P' : Prop}
  {held held' underway underway' : Nat} {r : Registration}

/-- What has left does not come back. -/
theorem Engine.Lost.succeed (h : e.Lost x n) (later : e'.Succeeds e) :
  e'.Lost x n
  := by
  constructor
  · exact Nat.lt_of_lt_of_le h.1 later.registry.nextSerial_le
  · intro has
    exact h.2 (has.before later.registry h.1)

/-- A registration that stays has not left. -/
theorem Engine.Keeps.not_lost (h : e.Keeps x n fits) :
  ¬e.Lost x n
  := by
  rintro ⟨old, gone⟩
  obtain ⟨r, found⟩ := h.still old
  exact gone ⟨r, found, (h.only found).1⟩

/-- An entry of no concern is counted nowhere. -/
theorem Entry.IsAside.not_counted {entry : Entry} (h : entry.IsAside) (x : InstrumentId) :
  entry.patches x = false ∧ entry.applies x = false
  := by
  cases entry with
  | asked serial request =>
    cases request with
    | resolve | patch => cases h
    | unpatch => exact ⟨rfl, rfl⟩
  | answered => exact ⟨rfl, rfl⟩
  | published serial event =>
    cases event with
    | applied => cases h
    | removed | commandFailed => exact ⟨rfl, rfl⟩
  | logged => exact ⟨rfl, rfl⟩

/-- When nothing of concern happens, no more is counted. -/
theorem Engine.Quiet.counts (h : e'.Quiet e) (x : InstrumentId) :
  e'.patches x = e.patches x ∧ e'.applications x = e.applications x
  := by
  obtain ⟨entries, adds, aside⟩ := h.adds
  have none : entries.countP (Entry.patches x) = 0 := by
    apply List.countP_eq_zero.mpr
    intro entry mem
    simp [(aside entry mem).not_counted x]
  have none' : entries.countP (Entry.applies x) = 0 := by
    apply List.countP_eq_zero.mpr
    intro entry mem
    simp [(aside entry mem).not_counted x]
  rw [Engine.patches, Engine.patches, Engine.applications, Engine.applications, adds,
    List.countP_append, List.countP_append, none, none']
  exact ⟨rfl, rfl⟩

/-- The permits of one identity are not those of another. -/
theorem RetryQueue.permits_congr {q q' : RetryQueue}
    (same : q'.pending.get? x = q.pending.get? x) :
  q'.permits x = q.permits x
  := by
  rw [permits, permits, same]

/-- One permit at most is with a deferred install. -/
theorem RetryQueue.permits_le_one (q : RetryQueue) (x : InstrumentId) :
  q.permits x ≤ 1
  := by
  rw [permits]
  split
  · apply Nat.le_refl
  · apply Nat.zero_le

/-- A cancelled install has no permit. -/
theorem RetryQueue.permits_cancel (q : RetryQueue) (x : InstrumentId) :
  (q.cancel x).permits x = 0
  := by
  rw [permits, cancel, Dict.get?_erase, if_pos rfl]
  rfl

/-- Taking up what is due takes up its permits. -/
theorem RetryQueue.permits_takeDue (q : RetryQueue) (now : Instant) (x : InstrumentId) :
  (q.takeDue now).2.permits x + (q.takeDue now).1.count x = q.permits x
  := by
  have listed : (q.takeDue now).1.count x = if x ∈ q.due now then 1 else 0 :=
    List.Nodup.count (q.nodup_due now)
  rw [listed, permits, permits, get?_takeDue]
  cases found : q.pending.get? x with
  | none =>
    have out : x ∉ q.due now := by simp [mem_due_iff, found]
    rw [if_neg out]
    rfl
  | some p =>
    have taken : x ∈ q.due now ↔ PendingRetry.isDue p now = true := by
      simp [mem_due_iff, found]
    cases isDue : PendingRetry.isDue p now with
    | false =>
      have out : x ∉ q.due now := by simp [taken, isDue]
      simp [out, isDue]
    | true =>
      -- what is due has a time at which it is due
      obtain ⟨dueAt, attempts⟩ := p
      cases dueAt with
      | none => cases isDue
      | some t => simp [taken.mpr isDue, isDue]

namespace Engine.Accounted

/-- The account after a change. -/
theorem step (h : e.Accounted x n fits P held underway) (later : e'.Succeeds e)
    (goes : ∀ stage : Stage, P → stage.Holds e.registry x n fits
      → stage.Allows (e.retries.permits x) held underway (e.patches x) (e.applications x)
      → e'.Lost x n ∨ P' ∧ ∃ stage' : Stage, stage'.Holds e'.registry x n fits
        ∧ stage'.Allows (e'.retries.permits x) held' underway' (e'.patches x) (e'.applications x)) :
  e'.Accounted x n fits P' held' underway'
  := by
  use later.sound
  rcases h.tally with lost | ⟨p, stage, holds, allows⟩
  · left
    exact lost.succeed later
  · apply goes stage p holds allows

/-- A weaker proposition. -/
theorem weaken (h : e.Accounted x n fits P held underway) (weaker : P → P') :
  e.Accounted x n fits P' held underway
  := by
  apply h.step (.refl h.sound)
  intro stage p holds allows
  exact .inr ⟨weaker p, stage, holds, allows⟩

/-- A permit is given up. -/
theorem lower (h : e.Accounted x n fits P held underway) (less : held' ≤ held) :
  e.Accounted x n fits P held' underway
  := by
  apply h.step (.refl h.sound)
  intro stage p holds allows
  refine .inr ⟨p, stage, holds, ?_⟩
  cases stage with
  | unborn | live =>
    obtain ⟨queued, none, rest⟩ := allows
    exact ⟨queued, by omega, rest⟩
  | applying =>
    obtain ⟨one, rest⟩ := allows
    exact ⟨by omega, rest⟩

/-- Nothing of concern happens. -/
theorem quiet (h : e.Accounted x n fits P held underway) (quiet : e'.Quiet e) :
  e'.Accounted x n fits P held underway
  := by
  apply h.step (h.sound.quiet quiet)
  intro stage p holds allows
  refine .inr ⟨p, stage, ?_, ?_⟩
  · rw [quiet.registry]
    exact holds
  · rw [quiet.retries, (quiet.counts x).1, (quiet.counts x).2]
    exact allows

/-- A hit is counted. -/
theorem touch (h : e.Accounted x n fits P held underway) (y : InstrumentId)
    {f : Registration → Registration} (alike : ∀ r, (f r).Alike r) :
  ({ e with registry := e.registry.modify y f } : Engine).Accounted x n fits P held underway
  := by
  apply h.step (h.sound.modify y alike)
  intro stage p holds allows
  exact .inr ⟨p, stage, holds.modify h.sound.wellKept alike, allows⟩

/-- An identity is detached whose registration stays no longer. -/
theorem lost_detach {stage : Stage} (sound : e.Sound) (holds : stage.Holds e.registry x n fits)
    (born : stage ≠ .unborn) (registry : e'.registry = (e.registry.detach x).2) :
  e'.Lost x n
  := by
  obtain ⟨r, found, serial⟩ := (holds.has sound.wellKept).resolve_left born
  rw [Lost, registry]
  constructor
  · rw [Registry.nextSerial_detach, ← serial]
    exact sound.wellKept.serial_lt found
  · rintro ⟨s, again, -⟩
    rw [sound.wellKept.get?_detach, if_pos rfl] at again
    cases again

/-- An identity is removed. -/
theorem leave (h : e.Accounted x n fits P held underway) (y : InstrumentId) :
  ({ e with registry := (e.registry.detach y).2, retries := e.retries.cancel y } :
    Engine).Accounted x n fits P held underway
  := by
  have detached := h.sound.detach y
  have cancelled := detached.sound.retry (e.retries.cancel y)
  apply h.step (cancelled.trans detached)
  intro stage p holds allows
  by_cases own : x = y
  · subst own
    by_cases born : stage = .unborn
    · subst born
      obtain ⟨-, rest⟩ := allows
      refine .inr ⟨p, .unborn, ?_, RetryQueue.permits_cancel _ _, rest⟩
      change (e.registry.detach x).2.get? x = none
      rw [h.sound.wellKept.get?_detach, if_pos rfl]
    · left
      exact lost_detach h.sound holds born rfl
  · refine .inr ⟨p, stage, holds.detach h.sound.wellKept own, ?_⟩
    rw [RetryQueue.permits_congr (RetryQueue.get?_cancel_of_ne own)]
    exact allows

/-- An identity waits for an attempt no longer. -/
theorem cancel (h : e.Accounted x n fits P held underway) (y : InstrumentId) :
  ({ e with retries := e.retries.cancel y } : Engine).Accounted x n fits P held underway
  := by
  apply h.step (h.sound.retry _)
  intro stage p holds allows
  refine .inr ⟨p, stage, holds, ?_⟩
  by_cases own : x = y
  · subst own
    change stage.Allows ((e.retries.cancel x).permits x) _ _ _ _
    rw [RetryQueue.permits_cancel]
    cases stage with
    | applying =>
      obtain ⟨one, rest⟩ := allows
      exact ⟨by omega, rest⟩
    | unborn | live =>
      obtain ⟨-, rest⟩ := allows
      exact ⟨rfl, rest⟩
  · rw [RetryQueue.permits_congr (RetryQueue.get?_cancel_of_ne own)]
    exact allows

/-- An attempt has failed, and its identity is removed. -/
theorem fail (call : Call) (attempt : call = .resolve r ∨ call = .patch r)
    (h : e.Accounted x n fits P (held + call.permits x) (underway + call.patches x))
    (quiet : e'.Quiet { e with retries := e.retries.cancel r.id }) :
  ({ e' with registry := (e'.registry.detach r.id).2 } : Engine).Accounted x n fits
    (P ∧ r.id ≠ x) held underway
  := by
  have goes := (h.cancel r.id).quiet quiet
  apply goes.step (goes.sound.detach r.id)
  intro stage p holds allows
  by_cases own : r.id = x
  · have permit : call.permits x = 1 := by
      rcases attempt with rfl | rfl <;> exact if_pos own
    obtain rfl := allows.applying (by omega)
    left
    subst own
    exact lost_detach goes.sound holds (by simp) rfl
  · have other : x ≠ r.id := fun eq => own eq.symm
    have none : call.permits x = 0 ∧ call.patches x = 0 := by
      rcases attempt with rfl | rfl
      · exact ⟨if_neg own, rfl⟩
      · exact ⟨if_neg own, if_neg own⟩
    rw [none.1, none.2] at allows
    exact .inr ⟨⟨p, own⟩, stage, holds.detach goes.sound.wellKept other, allows⟩

/-- A call is made. -/
theorem ask (call : Call) (h : e.Accounted x n fits P held underway) (may : call.permits x ≤ held) :
  (e.note call.asked).Accounted x n fits P held (underway + call.patches x)
  := by
  have history : (e.note call.asked).history = e.history ++ [call.asked] :=
    congrArg View.history (e.view_note_asked call)
  have patches : (e.note call.asked).patches x = e.patches x + call.patches x := by
    rw [Engine.patches, history, List.countP_append, List.countP_singleton]
    cases call with
    | patch r =>
      by_cases own : r.id = x
      · simp [Entry.patches, Call.patches, Instrument.patchSpec, ← own, Registration.id,
          Engine.patches]
      · have other : ¬r.instrument.id = x := own
        simp [Entry.patches, Call.patches, Instrument.patchSpec, own, other, Engine.patches]
    | _ => rfl
  have applications : (e.note call.asked).applications x = e.applications x := by
    rw [Engine.applications, history, List.countP_append]
    rfl
  have later : (e.note call.asked).Succeeds e := h.sound.keep rfl
  apply h.step later
  intro stage p holds allows
  refine .inr ⟨p, stage, holds, ?_⟩
  have few := call.patches_le_permits x
  rw [patches, applications]
  change stage.Allows (e.retries.permits x) _ _ _ _
  cases stage with
  | applying =>
    obtain ⟨one, patched, rest⟩ := allows
    exact ⟨one, by omega, rest⟩
  | unborn | live =>
    -- nobody has a permit, so that the call is about another identity
    obtain ⟨queued, none, rest⟩ := allows
    have aside : call.patches x = 0 := by omega
    rw [aside]
    exact ⟨queued, none, rest⟩

/-- An instrument is registered. -/
theorem register {c : Candidate} {g : Registry} (h : e.Accounted x n fits P held underway)
    (fresh : e.registry.reserve c = (.fresh r, g))
    (keeps : ({ e with registry := g } : Engine).Keeps x n fits) :
  ({ e with registry := g } : Engine).Accounted x n fits (P ∧ (r.id = x → fits r.instrument))
    (held + (Call.resolve r).permits x) underway
  := by
  apply h.step (h.sound.reserve fresh)
  intro stage p holds allows
  right
  by_cases own : r.id = x
  · subst own
    have permit : (Call.resolve r).permits r.id = 1 := if_pos rfl
    have known := keeps.only (r := r) (by rw [Registry.get?_reserve fresh, if_pos rfl])
    have unborn : stage = .unborn := by
      apply (holds.has h.sound.wellKept).resolve_right
      rintro ⟨s, found, -⟩
      rw [(Registry.reserve_fresh fresh).1] at found
      cases found
    subst unborn
    obtain ⟨queued, none, idle, patches, applications⟩ := allows
    refine ⟨⟨p, fun _ => known.2⟩, .applying, ⟨r, ?_, known⟩, ?_⟩
    · rw [Registry.applying_reserve fresh, if_pos rfl]
    · change _ + e.retries.permits r.id ≤ 1 ∧ _
      exact ⟨by omega, patches.trans idle.symm, applications⟩
  · refine ⟨⟨p, fun own' => absurd own' own⟩, stage, ?_, ?_⟩
    · apply holds.reserve fresh
      exact fun eq => own eq.symm
    · rw [Call.permits, if_neg own]
      exact allows

/-- An attempt that was made is deferred. -/
theorem defer (h : e.Accounted x n fits P (held + (Call.resolve r).permits x) underway)
    (now : Instant) :
  ({ e with retries := (e.retries.schedule r.id now).2 } : Engine).Accounted x n fits P held
    underway
  := by
  apply h.step (h.sound.retry _)
  intro stage p holds allows
  refine .inr ⟨p, stage, holds, ?_⟩
  by_cases own : r.id = x
  · have permit : (Call.resolve r).permits x = 1 := if_pos own
    obtain rfl := allows.applying (by omega)
    obtain ⟨one, rest⟩ := allows
    have few : (e.retries.schedule r.id now).2.permits x ≤ 1 := RetryQueue.permits_le_one _ x
    change _ + (e.retries.schedule r.id now).2.permits x ≤ 1 ∧ _
    exact ⟨by omega, rest⟩
  · have other : x ≠ r.id := fun eq => own eq.symm
    rw [RetryQueue.permits_congr (RetryQueue.get?_schedule_of_ne other)]
    rw [Call.permits, if_neg own] at allows
    exact allows

/-- A patch that is in place is confirmed. -/
theorem confirm {s : Registration} {t : Instant}
    (h : e.Accounted x n fits P (held + (Call.patch r).permits x)
      (underway + (Call.patch r).patches x))
    (less : underway ≤ held) (promoted : (e.registry.promote r.id).1 = some s)
    (quiet : e'.Quiet { e with
      retries := e.retries.cancel r.id, registry := (e.registry.promote r.id).2 }) :
  (e'.publish (some r.serial) (.applied r.instrument t)).Accounted x n fits P held underway
  := by
  have cancelled := h.sound.retry (e.retries.cancel r.id)
  have later := (cancelled.sound.promote r.id).trans cancelled
  have told : (e'.publish (some r.serial) (.applied r.instrument t)).Alike e' := .publish e' _ _
  have history : (e'.publish (some r.serial) (.applied r.instrument t)).history
      = e'.history ++ [.published (some r.serial) (.applied r.instrument t)] :=
    congrArg View.history (e'.view_publish _ _)
  have patches : (e'.publish (some r.serial) (.applied r.instrument t)).patches x
      = e.patches x := by
    rw [Engine.patches, history, List.countP_append]
    exact (quiet.counts x).1
  have applications : (e'.publish (some r.serial) (.applied r.instrument t)).applications x
      = e.applications x + if r.id = x then 1 else 0 := by
    rw [Engine.applications, history, List.countP_append, List.countP_singleton]
    have before : e'.history.countP (Entry.applies x) = e.applications x := (quiet.counts x).2
    by_cases own : r.instrument.id = x
    · simp [before, Entry.applies, Registration.id, own]
    · simp [before, Entry.applies, Registration.id, own]
  apply h.step (((later.sound.quiet quiet).trans later).alike told)
  intro stage p holds allows
  rw [told.registry, told.retries, quiet.registry, quiet.retries, patches, applications]
  right
  by_cases own : r.id = x
  · subst own
    have permit : (Call.patch r).permits r.id = 1 := if_pos rfl
    have patch : (Call.patch r).patches r.id = 1 := if_pos rfl
    obtain rfl := allows.applying (by omega)
    obtain ⟨one, patched, none⟩ := allows
    obtain ⟨q, found, known⟩ := holds
    obtain ⟨q', found', rfl, -⟩ := h.sound.wellKept.promote_some promoted
    obtain rfl := Option.some.inj (found.symm.trans found')
    refine ⟨p, .live, ⟨{ q with isLive := true }, ?_, known⟩, ?_⟩
    · rw [h.sound.wellKept.live_promote promoted, if_pos rfl]
    · refine ⟨RetryQueue.permits_cancel _ _, by omega, by omega, by omega, ?_⟩
      rw [none, if_pos rfl]
  · have other : x ≠ r.id := fun eq => own eq.symm
    refine ⟨p, stage, holds.promote h.sound.wellKept other, ?_⟩
    rw [RetryQueue.permits_congr (RetryQueue.get?_cancel_of_ne other), if_neg own]
    rw [Call.permits, Call.patches, if_neg own] at allows
    exact allows

/-- A patch is in place whose instrument was removed in the meantime. -/
theorem part (h : e.Accounted x n fits P (held + (Call.patch r).permits x)
      (underway + (Call.patch r).patches x))
    (gone : e.registry.applying.get? r.id = none) :
  e.Accounted x n fits P held underway
  := by
  apply h.step (.refl h.sound)
  intro stage p holds allows
  refine .inr ⟨p, stage, holds, ?_⟩
  by_cases own : r.id = x
  · subst own
    have permit : (Call.patch r).permits r.id = 1 := if_pos rfl
    obtain rfl := allows.applying (by omega)
    obtain ⟨q, found, -⟩ := holds
    rw [gone] at found
    cases found
  · rw [Call.permits, Call.patches, if_neg own] at allows
    exact allows

/-- What is due is taken up. -/
theorem takeDue (h : e.Accounted x n fits P held underway) (now : Instant) :
  ({ e with retries := (e.retries.takeDue now).2 } : Engine).Accounted x n fits P
    (held + (e.retries.takeDue now).1.count x) underway
  := by
  have counted := e.retries.permits_takeDue now x
  apply h.step (h.sound.retry _)
  intro stage p holds allows
  refine .inr ⟨p, stage, holds, ?_⟩
  change stage.Allows ((e.retries.takeDue now).2.permits x) _ _ _ _
  cases stage with
  | applying =>
    obtain ⟨one, rest⟩ := allows
    exact ⟨by omega, rest⟩
  | unborn | live =>
    obtain ⟨queued, none, rest⟩ := allows
    exact ⟨by omega, by omega, rest⟩

/-- The identity is registered, unless its registration has left. -/
theorem known (h : e.Accounted x n fits P held underway) (found : e.registry.get? x = some r) :
  e.Accounted x n fits (P ∧ fits r.instrument) held underway
  := by
  apply h.step (.refl h.sound)
  intro stage p holds allows
  exact .inr ⟨⟨p, (holds.eq_of_get? h.sound.wellKept found).2⟩, stage, holds, allows⟩

/-- Everything is dropped. -/
theorem clear (h : e.Accounted x n fits P held underway) :
  ({ e with registry := e.registry.clear.2, retries := e.retries.clear } : Engine).Accounted x n
    fits P held underway
  := by
  apply h.step (Engine.Sound.clear e)
  intro stage p holds allows
  by_cases born : stage = .unborn
  · subst born
    obtain ⟨-, rest⟩ := allows
    exact .inr ⟨p, .unborn, rfl, rfl, rest⟩
  · left
    obtain ⟨r, found, serial⟩ := (holds.has h.sound.wellKept).resolve_left born
    constructor
    · change n < e.registry.nextSerial
      rw [← serial]
      exact h.sound.wellKept.serial_lt found
    · rintro ⟨s, found, -⟩
      cases found

end Engine.Accounted

end Account

end Instrumentation
