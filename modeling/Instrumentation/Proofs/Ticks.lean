import Instrumentation.Proofs.Departures
import Mathlib.Data.List.Nodup

/-!
# What a tick sweeps out, and what it attempts

A tick first removes what has expired, live or applying, one instrument after another, whether the
patches are taken back or not. Then it attempts the deferred installs that are due. Nothing that has
expired is left by then, and what is pending is applying, so that each attempt finds its instrument
registered and not expired.

An attempt changes nothing but what is kept for its identity. Therefore the attempts do not
interfere, and an instrument that has not expired stays registered unless its own attempt fails.
-/

namespace Instrumentation

/-! ### How many depart -/

/-- As many depart as are registered and meant. -/
theorem Engine.Releases.length_eq {e e' : Engine} {meant : Instrument → Bool}
    {departures : List Departure} (h : e'.Releases e (fun i => meant i = true) departures)
    (sound : e.Sound) :
  departures.length = e.registry.registrations.countP fun r => meant r.instrument
  := by
  have nodup : (departures.map Departure.registration).Nodup := by
    apply List.Nodup.of_map Registration.id
    rw [List.map_map]
    exact h.nodup
  have nodup' := sound.wellKept.nodup_registrations.of_map Registration.id
  have same : (departures.map Departure.registration).Perm
      (e.registry.registrations.filter fun r => meant r.instrument) := by
    apply (List.perm_ext_iff_of_nodup nodup (nodup'.filter _)).mpr
    intro r
    rw [h.mem_iff, List.mem_filter, sound.wellKept.mem_registrations_iff]
  rw [List.countP_eq_length_filter, ← same.length_eq, List.length_map]

/-! ### Attempts -/

/-- An attempt to install an applying instrument, with what the transform engine answers. -/
inductive Trial where
  /-- The unit is not loaded, and the instrument waits for another attempt. -/
  | waits (r : Registration)
  /-- The unit is not loaded, and the instrument does not wait. -/
  | misses (r : Registration)
  /-- The unit is not loaded, and no attempt is left. -/
  | exhausts (r : Registration) (attempts : UInt32)
  /-- The unit is patched. -/
  | applies (r : Registration)
  /-- The unit could not be patched, and the patch is taken back. -/
  | rejects (r : Registration) (source : TransformError) (answer : Except TransformError Unit)

namespace Trial

/-- The registration that is attempted. -/
def registration : Trial → Registration
  | waits r => r
  | misses r => r
  | exhausts r _ => r
  | applies r => r
  | rejects r _ _ => r

/-- The identity that is attempted. -/
def id (t : Trial) : InstrumentId := t.registration.id

/-- The failure of an attempt. -/
def failure? : Trial → Option InstrumentError
  | waits _ => none
  | misses r => some (.targetNotFound r.id r.instrument.unitName)
  | exhausts r attempts => some (.retriesExhausted r.id attempts)
  | applies _ => none
  | rejects r source _ => some (.patchFailed r.id source)

/-- What is registered after an attempt. -/
def left? : Trial → Option Registration
  | waits r => some r
  | misses _ => none
  | exhausts _ _ => none
  | applies r => some { r with isLive := true }
  | rejects _ _ _ => none

/-- An instrument stays registered if its attempt does not fail. -/
theorem left?_of_unfailing {t : Trial} (unfailing : t.failure? = none) :
  ∃ r, t.left? = some r ∧ r.serial = t.registration.serial
    ∧ r.instrument = t.registration.instrument
  := by
  cases t with
  | waits r => exact ⟨r, rfl, rfl, rfl⟩
  | applies r => exact ⟨{ r with isLive := true }, rfl, rfl, rfl⟩
  | misses => cases unfailing
  | exhausts => cases unfailing
  | rejects => cases unfailing

/-- The instrument that is registered after an attempt is the one that was attempted. -/
theorem instrument_left? {t : Trial} {r : Registration} (left : t.left? = some r) :
  r.instrument = t.registration.instrument
  := by
  cases t with
  | waits =>
    obtain rfl := Option.some.inj left
    rfl
  | applies =>
    obtain rfl := Option.some.inj left
    rfl
  | misses => cases left
  | exhausts => cases left
  | rejects => cases left

/-- The removal of an instrument whose attempt fails. -/
def failed (r : Registration) (err : InstrumentError) (now : Instant) : Entry :=
  .published (some r.serial) (.removed r.instrument (some err.message) now)

/-- What is seen of an attempt. -/
def entries (now : Instant) : Trial → List Entry
  | waits r => [(Call.resolve r).asked, (Call.resolve r).answered false]
  | misses r =>
    [(Call.resolve r).asked, (Call.resolve r).answered false,
      failed r (.targetNotFound r.id r.instrument.unitName) now]
  | exhausts r attempts =>
    [(Call.resolve r).asked, (Call.resolve r).answered false,
      failed r (.retriesExhausted r.id attempts) now]
  | applies r =>
    [(Call.resolve r).asked, (Call.resolve r).answered true,
      (Call.patch r).asked, (Call.patch r).answered (.ok ()),
      .published (some r.serial) (.applied r.instrument now)]
  | rejects r source answer =>
    [(Call.resolve r).asked, (Call.resolve r).answered true,
      (Call.patch r).asked, (Call.patch r).answered (.error source),
      failed r (.patchFailed r.id source) now,
      (Call.restore r).asked, (Call.restore r).answered answer]

end Trial

namespace Engine

variable {e e' e'' : Engine} {x : InstrumentId} {left : Option Registration}
  {entries later : List Entry} {trials more : List Trial}

/-- Only what is kept for one identity has changed, and some entries are seen. -/
structure Turns (e' e : Engine) (x : InstrumentId) (left : Option Registration)
    (entries : List Entry) : Prop where
  /-- Nothing that is kept for other identities has changed. -/
  changes : e'.ChangesOnly e x
  /-- What is registered for the identity. -/
  registered : e'.registry.get? x = left
  /-- What is seen. -/
  history : e'.history = e.history ++ entries

/-- Notes change nothing that is kept. -/
theorem Notes.changesOnly (noted : e'.Notes e entries) (sound : e.Sound) (x : InstrumentId) :
  e'.ChangesOnly e x
  := by
  use noted.sound sound, fun y _ => noted.standing y
  · rw [noted.alike.retries]
  · exact noted.clock

namespace Turns

/-- Something is noted before. -/
theorem after (h : e''.Turns e' x left later) (noted : e'.Notes e entries) (sound : e.Sound) :
  e''.Turns e x left (entries ++ later)
  := by
  use h.changes.trans (noted.changesOnly sound x), h.registered
  rw [h.history, noted.history, List.append_assoc]

/-- Something is noted afterwards. -/
theorem notes (h : e'.Turns e x left entries) (noted : e''.Notes e' later) :
  e''.Turns e x left (entries ++ later)
  := by
  use (noted.changesOnly h.changes.sound x).trans h.changes
  · rw [noted.alike.registry, h.registered]
  · rw [noted.history, h.history, List.append_assoc]

end Turns

/-- Applying instruments have been attempted. What is registered afterwards for each of them is
what its attempt leaves, all other identities stand as before, and nothing else is seen. -/
structure Tries (e' e : Engine) (trials : List Trial) : Prop where
  /-- The engine is sound. -/
  sound : e'.Sound
  /-- The time is the same. -/
  clock : e'.clock = e.clock
  /-- What is attempted is applying. -/
  applying : ∀ t ∈ trials, e.registry.getApplying? t.id = some t.registration
  /-- What is left after an attempt. -/
  left : ∀ t ∈ trials, e'.registry.get? t.id = t.left?
  /-- The attempts are seen one after another. -/
  history : e'.history = e.history ++ trials.flatMap (Trial.entries e.clock)
  /-- All other identities stand as before. -/
  others : ∀ y, y ∉ trials.map Trial.id → e'.standing y = e.standing y

namespace Tries

/-- Nothing is attempted. -/
theorem nil (sound : e.Sound) :
  e.Tries e []
  := by
  use sound, rfl
  · intro t mem
    cases mem
  · intro t mem
    cases mem
  · exact (List.append_nil _).symm
  · intro y _
    rfl

/-- One attempt before others, of other identities. -/
theorem cons {t : Trial} (applying : e.registry.getApplying? t.id = some t.registration)
    (turns : e'.Turns e t.id t.left? (t.entries e.clock)) (h : e''.Tries e' trials)
    (apart : t.id ∉ trials.map Trial.id) :
  e''.Tries e (t :: trials)
  := by
  use h.sound, h.clock.trans turns.changes.clock
  · intro u mem
    rcases List.mem_cons.mp mem with rfl | mem
    · exact applying
    · have other : u.id ≠ t.id := fun same => apart (same ▸ List.mem_map_of_mem mem)
      have stands := congrArg Standing.applying (turns.changes.others u.id other)
      exact stands.symm.trans (h.applying u mem)
  · intro u mem
    rcases List.mem_cons.mp mem with rfl | mem
    · rw [← registered?_standing, h.others u.id apart, registered?_standing, turns.registered]
    · exact h.left u mem
  · rw [h.history, turns.history, turns.changes.clock, List.flatMap_cons, List.append_assoc]
  · intro y stays
    rw [List.map_cons, List.mem_cons, not_or] at stays
    rw [h.others y stays.2, turns.changes.others y stays.1]

end Tries

end Engine

namespace Lifecycle

open Routine

variable {e : Engine} {r : Registration} {now : Instant}

/-- The end of an attempt that fails. -/
theorem always_failInstall (sound : e.Sound) (applying : e.registry.applying.get? r.id = some r)
    (err : InstrumentError) :
  (failInstall r err).Always
    (fun _ e' => e'.Turns e r.id none [Trial.failed r err e.clock]) e
  := by
  rw [failInstall]
  apply Always.bind
  apply ensures_modify
  apply Always.bind
  apply always_log
  intro e₁ logged
  apply Always.bind
  apply ensures_detach
  have detached : (e₁.registry.detach r.id).1 = some r.remove := by
    rw [Registry.detach_fst, logged.alike.registry]
    exact congrArg (Option.map _) (sound.wellKept.get?_of_applying applying)
  rw [detached]
  apply Always.bind
  apply ensures_modify
  apply Always.bind
  apply always_publish
  intro e₂ published
  have left := sound.changesOnly_without r.id
  have noted : e₂.Notes (e.without r.id) [Trial.failed r err e.clock] := by
    constructor
    · apply published.alike.trans
      constructor
      · change (e₁.registry.detach r.id).2 = _
        rw [logged.alike.registry]
        rfl
      · exact logged.alike.retries
      · change e₁.frames.clear r.id = _
        rw [logged.alike.frames]
        rfl
    · exact published.clock.trans logged.clock
    · have history := published.history
      change e₂.history = e₁.history ++ [Trial.failed r err e₁.clock] at history
      rw [history, logged.history, List.append_nil, logged.clock]
      rfl
  constructor
  · exact (noted.changesOnly left.sound r.id).trans left
  · rw [noted.alike.registry, ← Engine.registered?_standing, sound.standing_without]
    rfl
  · exact noted.history

/-- The end of an attempt whose unit is not loaded. -/
theorem always_deferInstall (sound : e.Sound) (applying : e.registry.applying.get? r.id = some r) :
  (deferInstall r now).Always
    (fun _ e' => ∃ t : Trial, t.registration = r ∧ ∃ later,
      t.entries e.clock = (Call.resolve r).asked :: (Call.resolve r).answered false :: later
        ∧ e'.Turns e r.id t.left? later) e
  := by
  rw [deferInstall]
  dsimp only
  split
  · apply Always.bind
    apply (always_failInstall sound applying _).weaken
    intro err e₁ turns
    exact ⟨.misses r, rfl, _, rfl, turns⟩
  · apply Always.bind
    apply ensures_update
    dsimp only
    have scheduled : ({ e with retries := (e.retries.schedule r.id now).2 } : Engine).ChangesOnly e
        r.id :=
      sound.changesOnly_retry
        (RetryQueue.policy_schedule _ r.id now) fun y other => RetryQueue.get?_schedule_of_ne other
    cases (e.retries.schedule r.id now).1 with
    | scheduled dueAt attempts =>
      apply Always.bind
      apply always_log
      intro e₁ logged
      have turns : ({ e with retries := (e.retries.schedule r.id now).2 } : Engine).Turns e r.id
          (some r) [] :=
        ⟨scheduled, sound.wellKept.get?_of_applying applying, (List.append_nil _).symm⟩
      exact ⟨.waits r, rfl, [], rfl, turns.notes logged⟩
    | exhausted attempts =>
      apply Always.bind
      apply (always_failInstall scheduled.sound applying _).weaken
      intro err e₁ turns
      exact ⟨.exhausts r attempts, rfl, _, rfl, turns.changes.trans scheduled, turns.registered,
        turns.history⟩

/-- The end of an attempt whose patch is in place. -/
theorem always_confirmInstall (sound : e.Sound)
    (applying : e.registry.applying.get? r.id = some r) :
  (confirmInstall r).Always
    (fun _ e' => e'.Turns e r.id (some { r with isLive := true })
      [.published (some r.serial) (.applied r.instrument e.clock)]) e
  := by
  rw [confirmInstall]
  apply Always.bind
  apply ensures_modify
  apply Always.bind
  apply ensures_update
  have promoted := sound.wellKept.promote_of_applying applying
  dsimp only
  rw [promoted]
  apply Always.bind
  apply always_log
  intro e₁ logged
  apply always_publish
  intro e₂ published
  have cancelled : ({ e with retries := e.retries.cancel r.id } : Engine).ChangesOnly e r.id :=
    sound.changesOnly_retry rfl
      fun y other => RetryQueue.get?_cancel_of_ne other
  have changed := (cancelled.sound.changesOnly_promote r.id).trans cancelled
  have noted := published.trans logged
  rw [logged.clock] at noted
  constructor
  · exact (noted.changesOnly changed.sound r.id).trans changed
  · rw [noted.alike.registry]
    change (e.registry.promote r.id).2.get? r.id = _
    rw [sound.wellKept.get?_promote promoted, if_pos rfl]
  · exact noted.history

/-- An attempt to install an applying instrument. -/
theorem always_apply (sound : e.Sound) (applying : e.registry.applying.get? r.id = some r) :
  (apply r now).Always
    (fun _ e' => ∃ t : Trial, t.registration = r ∧ e'.Turns e r.id t.left? (t.entries e.clock)) e
  := by
  rw [apply]
  apply Always.bind
  apply always_request
  intro loaded e₁ resolved
  have applying₁ : e₁.registry.applying.get? r.id = some r := by
    rw [resolved.alike.registry, applying]
  cases loaded with
  | false =>
    apply (always_deferInstall (resolved.sound sound) applying₁).weaken
    rintro _ e₂ ⟨t, own, later, entries, turns⟩
    rw [resolved.clock] at entries
    use t, own
    rw [entries]
    exact turns.after resolved sound
  | true =>
    apply Always.bind
    apply always_request
    intro answer e₂ patched
    have called := patched.trans resolved
    have applying₂ : e₂.registry.applying.get? r.id = some r := by
      rw [called.alike.registry, applying]
    cases answer with
    | ok _ =>
      apply Always.bind
      apply (always_confirmInstall (called.sound sound) applying₂).weaken
      intro _ e₃ turns
      rw [called.clock] at turns
      exact ⟨.applies r, rfl, turns.after called sound⟩
    | error source =>
      apply Always.bind
      apply (always_failInstall (called.sound sound) applying₂ _).weaken
      intro err e₃ turns
      rw [called.clock] at turns
      apply Always.bind
      apply always_request
      intro answer e₄ restored
      have ends : ∀ e₅ : Engine, e₅.Notes e₄ [] → ∃ t : Trial, t.registration = r
          ∧ e₅.Turns e r.id t.left? (t.entries e.clock) := by
        intro e₅ logged
        exact ⟨.rejects r source answer, rfl,
          (turns.after called sound).notes (logged.trans restored)⟩
      cases answer with
      | ok _ => exact ends e₄ (.refl e₄)
      | error secondary =>
        apply Always.bind
        apply always_log
        exact ends

/-- Attempts of applying instruments that have not expired. -/
theorem always_retryEach {ids : List InstrumentId} (sound : e.Sound) (nodup : ids.Nodup)
    (applying : ∀ x ∈ ids, ∃ r, e.registry.getApplying? x = some r
      ∧ r.instrument.isExpiredAt now = false) :
  (retryEach now ids).Always
    (fun n e' => ∃ trials, n = trials.length ∧ trials.map Trial.id = ids ∧ e'.Tries e trials) e
  := by
  induction ids generalizing e with
  | nil => exact ⟨[], rfl, rfl, .nil sound⟩
  | cons x ids ih =>
    obtain ⟨fresh, apart⟩ := List.nodup_cons.mp nodup
    obtain ⟨r, found, unexpired⟩ := applying x (.head _)
    obtain rfl := sound.wellKept.applying_id found
    -- the attempts that follow find their instruments as they are now
    have rest {e₁ : Engine} {left : Option Registration} {entries : List Entry}
        (turns : e₁.Turns e r.id left entries) : ∀ y ∈ ids, ∃ s,
          e₁.registry.getApplying? y = some s ∧ s.instrument.isExpiredAt now = false := by
      intro y mem
      have other : y ≠ r.id := fun same => fresh (same ▸ mem)
      have stands := congrArg Standing.applying (turns.changes.others y other)
      obtain ⟨s, there, later⟩ := applying y (.tail _ mem)
      exact ⟨s, stands.trans there, later⟩
    rw [retryEach]
    apply Always.bind
    apply ensures_gets
    rw [found]
    dsimp only
    rw [if_neg (by simp [unexpired])]
    apply Always.bind
    apply always_log
    intro e₁ logged
    apply Always.bind
    have found₁ : e₁.registry.applying.get? r.id = some r := by
      rw [logged.alike.registry]
      exact found
    apply (always_apply (logged.sound sound) found₁).weaken
    rintro answer e₂ ⟨t, rfl, turned⟩
    have turns := turned.after logged sound
    rw [logged.clock] at turns
    have goes {e₃ : Engine} (noted : e₃.Notes e₂ []) : (retryEach now ids).Always
        (fun n e' => ∃ trials, n + 1 = trials.length
          ∧ trials.map Trial.id = t.registration.id :: ids ∧ e'.Tries e trials) e₃ := by
      have turns := turns.notes noted
      rw [List.nil_append, List.append_nil] at turns
      apply (ih turns.changes.sound apart (rest turns)).weaken
      rintro n e₄ ⟨trials, rfl, tried, tries⟩
      refine ⟨t :: trials, rfl, congrArg _ tried, .cons found turns tries ?_⟩
      rw [tried]
      exact fresh
    cases answer with
    | ok _ =>
      apply Always.bind
      exact goes (.refl e₂)
    | error err =>
      apply Always.bind
      apply always_log
      intro e₃ logged
      apply Always.bind
      exact goes logged

/-- The removal of what has expired. -/
theorem always_sweep (sound : e.Sound) (now : Instant) :
  (sweep now).Always
    (fun n e' => ∃ departures, n = departures.length
      ∧ e'.Releases e (fun i => i.isExpiredAt now = true) departures) e
  := by
  have removes {e₁ : Engine} (logged : e₁.Notes e []) : (do
      return (← removeEach (e.registry.expired now)).length : Routine Nat).Always
        (fun n e' => ∃ departures, n = departures.length
          ∧ e'.Releases e (fun i => i.isExpiredAt now = true) departures) e₁ := by
    apply Always.bind
    apply (always_removeEach (logged.sound sound) (e.registry.expired now)).weaken
    rintro _ e₂ ⟨departures, rfl, releases⟩
    refine ⟨departures, List.length_map _, (releases.after_log logged).congr ?_⟩
    intro r registered
    exact sound.wellKept.mem_expired_iff registered now
  rw [sweep]
  apply Always.bind
  apply ensures_gets
  dsimp only
  split
  · apply Always.bind
    apply always_log
    intro e₁ logged
    exact removes logged
  · exact removes (.refl e)

/-- The attempts that are due, where what is pending is applying and has not expired. -/
theorem always_retryDue (sound : e.Sound)
    (applying : ∀ x, e.retries.isPending x = true
      → ∃ r, e.registry.getApplying? x = some r ∧ r.instrument.isExpiredAt now = false) :
  (retryDue now).Always
    (fun n e' => ∃ trials, n = trials.length ∧ (trials.map Trial.id).Nodup ∧ e'.Tries e trials) e
  := by
  rw [retryDue]
  apply Always.bind
  apply ensures_update
  dsimp only
  have pending {x : InstrumentId} (due : x ∈ e.retries.due now) : e.retries.isPending x = true := by
    obtain ⟨p, found, -⟩ := RetryQueue.mem_due_iff.mp due
    rw [RetryQueue.isPending, Dict.contains, found]
    rfl
  have taken := sound.retry (e.retries.takeDue now).2
  apply (always_retryEach taken.sound (e.retries.nodup_due now)
    fun x due => applying x (pending due)).weaken
  rintro _ e₁ ⟨trials, rfl, tried, tries⟩
  refine ⟨trials, rfl, ?_, ?_⟩
  · rw [tried]
    exact e.retries.nodup_due now
  · use tries.sound, tries.clock, tries.applying, tries.left, tries.history
    intro y stays
    rw [tries.others y stays]
    -- what is not due is not taken up
    have same : (e.retries.takeDue now).2.pending.get? y = e.retries.pending.get? y := by
      rw [RetryQueue.get?_takeDue]
      cases found : e.retries.pending.get? y with
      | none => rfl
      | some p =>
        have later : ¬RetryQueue.PendingRetry.isDue p now = true := by
          intro due
          rw [tried] at stays
          exact stays (RetryQueue.mem_due_iff.mpr ⟨p, found, due⟩)
        rw [Option.map_some, if_neg later]
    simp only [Engine.standing, same]

end Lifecycle

/-! ### Ticks -/

/-- What has expired at a time has departed, and some deferred installs were attempted afterwards,
none of which has expired. Nothing else is seen, and the rest stands as before. -/
structure Engine.Ticks (e' e : Engine) (now : Instant) (departures : List Departure)
    (trials : List Trial) : Prop where
  /-- What departs is what is registered and has expired. -/
  departs_iff : ∀ r, r ∈ departures.map Departure.registration
    ↔ e.registry.get? r.id = some r ∧ r.instrument.isExpiredAt now = true
  /-- Each identity departs once. -/
  departs_once : (departures.map Departure.id).Nodup
  /-- What is attempted is applying, and has not expired. -/
  tried : ∀ t ∈ trials, e.registry.getApplying? t.id = some t.registration
    ∧ t.registration.instrument.isExpiredAt now = false
  /-- Each identity is attempted once. -/
  tried_once : (trials.map Trial.id).Nodup
  /-- The departures are seen one after another, and then the attempts. -/
  history : e'.history = e.history ++ departures.flatMap (fun d => d.entries e.clock)
    ++ trials.flatMap (Trial.entries e.clock)
  /-- Nothing that is registered afterwards has expired. -/
  unexpired : ∀ x r, e'.registry.get? x = some r → r.instrument.isExpiredAt now = false
  /-- Nothing is kept for what has departed. -/
  gone : ∀ d ∈ departures, e'.standing d.id = .nothing
  /-- What is left after an attempt. -/
  left : ∀ t ∈ trials, e'.registry.get? t.id = t.left?
  /-- All other identities stand as before. -/
  others : ∀ x, x ∉ departures.map Departure.id → x ∉ trials.map Trial.id
    → e'.standing x = e.standing x

namespace Engine

variable {e e₁ e' : Engine} {now : Instant} {departures : List Departure} {trials : List Trial}

/-- What is pending once the expired instruments have departed is applying, and has not expired. -/
theorem Releases.pending (h : e₁.Releases e (fun i => i.isExpiredAt now = true) departures)
    (heeded : e.view.Heeded) (x : InstrumentId) (pending : e₁.retries.isPending x = true) :
  ∃ r, e₁.registry.getApplying? x = some r ∧ r.instrument.isExpiredAt now = false
  := by
  have stays : x ∉ departures.map Departure.id := by
    intro mem
    obtain ⟨d, departs, rfl⟩ := List.mem_map.mp mem
    have dropped : e₁.retries.pending.get? d.id = none :=
      congrArg Standing.pending (h.gone d departs)
    rw [RetryQueue.isPending, Dict.contains, dropped] at pending
    cases pending
  have same := h.others x stays
  have before : e.retries.isPending x = true := by
    rw [← pending]
    exact congrArg (fun standing => standing.pending.isSome) same.symm
  obtain ⟨r, applying⟩ := heeded x before
  have applying₁ : e₁.registry.getApplying? x = some r :=
    (congrArg Standing.applying same).trans applying
  use r, applying₁
  apply eq_false_of_ne_true
  exact (h.stayed (h.sound.wellKept.get?_of_applying applying₁)).2

/-- The departures of what has expired, and then attempts. -/
theorem Releases.ticks (h : e₁.Releases e (fun i => i.isExpiredAt now = true) departures)
    (tries : e'.Tries e₁ trials) (once : (trials.map Trial.id).Nodup) :
  e'.Ticks e now departures trials
  := by
  have stayed {x : InstrumentId} {r : Registration} (found : e₁.registry.get? x = some r) :
      e.registry.get? x = some r ∧ r.instrument.isExpiredAt now = false := by
    obtain ⟨before, unexpired⟩ := h.stayed found
    exact ⟨before, eq_false_of_ne_true unexpired⟩
  have registered {t : Trial} (mem : t ∈ trials) : e₁.registry.get? t.id = some t.registration :=
    h.sound.wellKept.get?_of_applying (tries.applying t mem)
  have apart {d : Departure} (departs : d ∈ departures) : d.id ∉ trials.map Trial.id := by
    intro mem
    obtain ⟨t, tried, same⟩ := List.mem_map.mp mem
    have there := registered tried
    rw [same, ← registered?_standing, h.gone d departs] at there
    cases there
  constructor
  · exact h.mem_iff
  · exact h.nodup
  · intro t mem
    have stays : t.id ∉ departures.map Departure.id := by
      intro departed
      obtain ⟨d, departs, same⟩ := List.mem_map.mp departed
      exact apart departs (same ▸ List.mem_map_of_mem mem)
    constructor
    · have applying := congrArg Standing.applying (h.others t.id stays)
      exact applying.symm.trans (tries.applying t mem)
    · exact (stayed (registered mem)).2
  · exact once
  · rw [tries.history, h.history, h.clock]
  · intro x r found
    by_cases tried : x ∈ trials.map Trial.id
    · obtain ⟨t, mem, rfl⟩ := List.mem_map.mp tried
      rw [tries.left t mem] at found
      rw [Trial.instrument_left? found]
      exact (stayed (registered mem)).2
    · rw [← registered?_standing, tries.others x tried, registered?_standing] at found
      exact (stayed found).2
  · intro d mem
    rw [tries.others d.id (apart mem), h.gone d mem]
  · exact tries.left
  · intro x stays untried
    rw [tries.others x untried, h.others x stays]

/-- What has not expired stays registered unless its own attempt fails. -/
theorem Ticks.stays (h : e'.Ticks e now departures trials) {r : Registration}
    (registered : e.registry.get? r.id = some r) (unexpired : r.instrument.isExpiredAt now = false)
    (unfailing : ∀ t ∈ trials, t.id = r.id → t.failure? = none) (w : e.registry.WellKept) :
  ∃ r', e'.registry.get? r.id = some r' ∧ r'.serial = r.serial ∧ r'.instrument = r.instrument
  := by
  by_cases tried : r.id ∈ trials.map Trial.id
  · obtain ⟨t, mem, same⟩ := List.mem_map.mp tried
    have own := w.get?_of_applying (h.tried t mem).1
    rw [same, registered] at own
    rw [← same, h.left t mem, Option.some.inj own]
    exact Trial.left?_of_unfailing (unfailing t mem same)
  · use r
    refine ⟨?_, rfl, rfl⟩
    rw [← registered?_standing, h.others r.id _ tried, registered?_standing, registered]
    intro departed
    obtain ⟨d, departs, same⟩ := List.mem_map.mp departed
    obtain ⟨there, expired⟩ := (h.departs_iff d.registration).mp (List.mem_map_of_mem departs)
    change e.registry.get? d.id = _ at there
    rw [same, registered] at there
    rw [← Option.some.inj there, unexpired] at expired
    cases expired

end Engine

/-- A tick where what is pending is applying. -/
theorem Lifecycle.always_tick {e : Engine} (sound : e.Sound) (heeded : e.view.Heeded)
    (now : Instant) :
  (tick now).Always
    (fun report e' => ∃ departures trials,
      report = { expired := departures.length, retried := trials.length }
        ∧ departures.length
          = e.registry.registrations.countP (fun r => r.instrument.isExpiredAt now)
        ∧ e'.Ticks e now departures trials) e
  := by
  rw [tick]
  apply Routine.Always.bind
  apply (always_sweep sound now).weaken
  rintro _ e₁ ⟨departures, rfl, releases⟩
  apply Routine.Always.bind
  apply (always_retryDue releases.sound (releases.pending heeded)).weaken
  rintro _ e₂ ⟨trials, rfl, once, tries⟩
  exact ⟨departures, trials, rfl, releases.length_eq sound, releases.ticks tries once⟩

/-- A tick, when one operation runs after another, removes what has expired and nothing else,
whatever the transform engine answers: as many instruments as it reports, each with one event,
whose cause is the failure to take back its patch. Nothing that is registered or pending
afterwards has expired. Units are asked for and patched on behalf of instruments only that have
not expired, and such an instrument stays registered unless its own attempt fails. -/
theorem tick_sweeps_expired {settings : Settings} {clock : Instant} {s : Session}
    (run : Conduct.successive.Run (.idle (.new settings clock)) s) (idle : s.calls = [])
    (respond : Responder) (now : Instant) :
  ∃ departures trials,
    (s.engine.conclude respond (.tick now)).1
        = { expired := departures.length, retried := trials.length }
      ∧ departures.length
        = s.engine.registry.registrations.countP (fun r => r.instrument.isExpiredAt now)
      ∧ (s.engine.conclude respond (.tick now)).2.Ticks s.engine now departures trials
      ∧ (∀ x, (s.engine.conclude respond (.tick now)).2.retries.isPending x = true
        → ∃ r, (s.engine.conclude respond (.tick now)).2.registry.getApplying? x = some r
          ∧ r.instrument.isExpiredAt now = false)
      ∧ ∀ r, s.engine.registry.get? r.id = some r → r.instrument.isExpiredAt now = false
        → (∀ t ∈ trials, t.id = r.id → t.failure? = none)
        → ∃ r', (s.engine.conclude respond (.tick now)).2.registry.get? r.id = some r'
          ∧ r'.serial = r.serial ∧ r'.instrument = r.instrument
  := by
  have sound : s.engine.Sound := run.since.succeeds.sound
  have after := run.conclude idle respond (.tick now)
  have sound' : (s.engine.conclude respond (.tick now)).2.Sound := after.since.succeeds.sound
  obtain ⟨departures, trials, report, count, ticks⟩ :=
    (Lifecycle.always_tick sound run.heeding.heeded now).runBy respond
  refine ⟨departures, trials, report, count, ticks, ?_, ?_⟩
  · intro x pending
    obtain ⟨r, applying⟩ := after.heeding.heeded x pending
    exact ⟨r, applying, ticks.unexpired x r (sound'.wellKept.get?_of_applying applying)⟩
  · intro r registered unexpired unfailing
    exact ticks.stays registered unexpired unfailing sound.wellKept

/-- One instrument that expires is live, another one waits for its unit, and so does one that does
not expire. -/
def installExpiring : List Action :=
  [.start (.install (.expiring "a" "U")), .reply true, .reply true,
    .start (.install (.expiring "b" "V")), .reply false,
    .start (.install (.lasting "c" "W")), .reply false]

/-- A tick removes an instrument whose patch is not taken back and one that waits for its unit, and
attempts the one that has not expired, whose patch is refused. -/
theorem tick_sweeps_expired_refusing :
  ∃ s, Conduct.successive.Run (.idle (.new .default default)) s ∧ s.calls = []
    ∧ (s.engine.registry.getLive? "a").isSome
    ∧ (s.engine.registry.getApplying? "b").isSome ∧ (s.engine.registry.getApplying? "c").isSome
    ∧ (s.engine.conclude (.steady Request.answerRefusing)
        (.tick (Instant.later default 60000000000))).1 = { expired := 2, retried := 1 }
    ∧ (s.engine.conclude (.steady Request.answerRefusing)
        (.tick (Instant.later default 60000000000))).2.liveCount = 0
    ∧ ∃ departures trials, (s.engine.conclude (.steady Request.answerRefusing)
        (.tick (Instant.later default 60000000000))).2.Ticks s.engine
      (Instant.later default 60000000000) departures trials
  := by
  have installed : Conduct.successive.AllowsAll (.idle (.new .default default)) installExpiring :=
    ⟨rfl, trivial, trivial, rfl, trivial, rfl, trivial, trivial⟩
  obtain ⟨departures, trials, -, -, ticks, -, -⟩ := tick_sweeps_expired installed.run rfl
    (.steady Request.answerRefusing) (Instant.later default 60000000000)
  exact ⟨_, installed.run, rfl, rfl, rfl, rfl, rfl, rfl, departures, trials, ticks⟩

end Instrumentation
