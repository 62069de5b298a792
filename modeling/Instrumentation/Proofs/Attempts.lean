import Instrumentation.Proofs.Deferral
import Instrumentation.Proofs.Life

/-!
# Attempts

An attempt asks whether the unit of a registration is loaded, and misses if it is not. When one
operation runs after another, as many attempts are recorded for an applying registration as have
missed, and these are fewer than the policy allows. The attempt that misses last takes the
registration out, with the failure that its attempts are exhausted.

A registration that has left is over: nothing about it happens any more.
-/

namespace Instrumentation

/-! ### What is counted -/

namespace Entry

/-- The entry is an attempt: the unit is asked for. -/
def isAttempt : Entry → Bool
  | asked _ (.resolve _) => true
  | _ => false

/-- The entry is a miss: the unit is not loaded. -/
def isMiss : Entry → Bool
  | answered _ (.resolve _) false => true
  | _ => false

/-- The entry is the answer to a patch, which is in place or has failed. -/
def isPatched : Entry → Bool
  | answered _ (.patch _ _) _ => true
  | _ => false

/-- The entry is the event that an instrument was removed. -/
def isRemoval : Entry → Bool
  | published _ (.removed _ _ _) => true
  | _ => false

end Entry

namespace View

variable {v : View} {n : Nat} {entries : List Entry}

/-- The number of attempts for a registration. -/
def attempts (v : View) (n : Nat) : Nat := (v.trace n).countP Entry.isAttempt

/-- The number of attempts for a registration that missed. -/
def misses (v : View) (n : Nat) : Nat := (v.trace n).countP Entry.isMiss

/-- Entries of another kind are not counted. -/
theorem count_add {kind : Entry → Bool} (none : ∀ entry ∈ entries, kind entry = false) :
  ((v.add entries).trace n).countP kind = (v.trace n).countP kind
  := by
  have added : (entries.filter fun entry => entry.serial? = some n).countP kind = 0 := by
    apply List.countP_eq_zero.mpr
    intro entry mem
    simp [none entry (List.mem_filter.mp mem).1]
  rw [trace, history_add, List.filter_append, List.countP_append, added]
  rfl

/-- Entries that are no attempts are not counted. -/
theorem attempts_add (none : ∀ entry ∈ entries, entry.isAttempt = false) :
  (v.add entries).attempts n = v.attempts n
  := count_add none

/-- Entries that are no misses are not counted. -/
theorem misses_add (none : ∀ entry ∈ entries, entry.isMiss = false) :
  (v.add entries).misses n = v.misses n
  := count_add none

/-- A miss is one of its registration. -/
theorem misses_add_miss (r : Registration) :
  (v.add [(Call.resolve r).answered false]).misses n
    = v.misses n + if n = r.serial then 1 else 0
  := by
  rw [misses, misses]
  split
  next own =>
    subst own
    rw [trace_append (w := v.add [(Call.resolve r).answered false]) rfl
      (by simp [Entry.serial?, Call.registration]), List.countP_append]
    rfl
  next other =>
    rw [trace_eq (w := v.add [(Call.resolve r).answered false]) rfl]
    · rfl
    · rintro entry (_ | ⟨_, ⟨⟩⟩) own
      exact other (Option.some.inj own).symm

/-- An install that fails misses no more. -/
theorem misses_abandon (v : View) (r : Registration) (err : InstrumentError) (t : Instant) :
  (v.abandon r err t).misses n = v.misses n
  := by
  apply misses_add (v := v.detach r.id)
  rw [failure]
  split
  · simp [Entry.isMiss]
  · simp

end View

section Patterns

variable {n : Nat} {i : Instrument}

/-- As many attempts as were deferred have missed. -/
theorem count_deferrals (k : Nat) :
  (deferrals n i k).countP Entry.isAttempt = k ∧ (deferrals n i k).countP Entry.isMiss = k
  := by
  induction k with
  | zero => exact ⟨rfl, rfl⟩
  | succ k ih =>
    rw [deferrals_succ, List.countP_append, List.countP_append, ih.1, ih.2]
    exact ⟨rfl, rfl⟩

/-- No deferral answers a patch or removes an instrument. -/
theorem pending_deferrals (k : Nat) :
  ∀ entry ∈ deferrals n i k, entry.isPatched = false ∧ entry.isRemoval = false
  := by
  induction k with
  | zero => simp [deferrals]
  | succ k ih =>
    rw [deferrals_succ]
    intro entry mem
    rcases List.mem_append.mp mem with mem | mem
    · apply ih entry mem
    · simp only [List.mem_cons, List.not_mem_nil, or_false] at mem
      rcases mem with rfl | rfl <;> exact ⟨rfl, rfl⟩

end Patterns

namespace Position.Lives

variable {p : Position} {n : Nat} {i : Instrument}

/-- Deferrals come first, and one attempt at most follows, which does not miss. -/
theorem exists_deferrals (lives : p.Lives n i) :
  ∃ k rest, p.view.trace n = deferrals n i k ++ rest
    ∧ rest.countP Entry.isAttempt ≤ 1 ∧ rest.countP Entry.isMiss = 0
  := by
  cases lives with
  | rests place rests =>
    have conforms := rests.conforms
    generalize p.view.trace n = trace at conforms
    cases conforms with
    | waiting k tried => exact ⟨k, [], (List.append_nil _).symm, Nat.zero_le 1, rfl⟩
    | dropped k tried cause t => exact ⟨k, _, rfl, Nat.zero_le 1, rfl⟩
    | rejected k source t answer =>
      rw [refusal, patching, List.append_assoc, List.append_assoc]
      exact ⟨k, _, rfl, Nat.le_refl 1, rfl⟩
    | applied k t =>
      rw [application, patching, List.append_assoc]
      exact ⟨k, _, rfl, Nat.le_refl 1, rfl⟩
    | withdrawn k t answer cause t' =>
      rw [application, patching, List.append_assoc, List.append_assoc]
      exact ⟨k, _, rfl, Nat.le_refl 1, rfl⟩
  | busy call busy =>
    have underway := busy.underway
    generalize p.view.trace call.registration.serial = trace at underway
    cases underway with
    | resolve r k => exact ⟨k, _, rfl, Nat.le_refl 1, rfl⟩
    | patch r k => exact ⟨k, _, rfl, Nat.le_refl 1, rfl⟩
    | restore r k source t =>
      rw [refusal, patching, List.append_assoc, List.append_assoc]
      exact ⟨k, _, rfl, Nat.le_refl 1, rfl⟩
    | withdraw r k t =>
      rw [application, patching, List.append_assoc, List.append_assoc]
      exact ⟨k, _, rfl, Nat.le_refl 1, rfl⟩

/-- One attempt at most has not missed. -/
theorem attempts_le (lives : p.Lives n i) :
  p.view.attempts n ≤ p.view.misses n + 1
  := by
  obtain ⟨k, rest, trace, few, none⟩ := lives.exists_deferrals
  rw [View.attempts, View.misses, trace, List.countP_append, List.countP_append,
    (count_deferrals k).1, (count_deferrals k).2, none]
  omega

/-- A registration is applying until a patch is answered or it is removed. -/
theorem applying (lives : p.Lives n i)
    (pending : ∀ entry ∈ p.view.trace n, entry.isPatched = false ∧ entry.isRemoval = false) :
  Place.applying.Holds p.view.registry n i
  := by
  cases lives with
  | rests place rests =>
    have conforms := rests.conforms
    have holds := rests.holds
    generalize p.view.trace n = trace at conforms pending
    cases conforms with
    | waiting => exact holds
    | dropped k tried cause t =>
      cases (pending (.published (some n) (.removed i cause t)) (by simp)).2
    | rejected k source t answer =>
      cases (pending (.answered n (.patch i.unitName i.patchSpec) (.error source))
        (by simp [refusal])).1
    | applied k t =>
      cases (pending (.answered n (.patch i.unitName i.patchSpec) (.ok ()))
        (by simp [application])).1
    | withdrawn k t answer cause t' =>
      cases (pending (.answered n (.patch i.unitName i.patchSpec) (.ok ()))
        (by simp [application])).1
  | busy call busy =>
    have underway := busy.underway
    have holds := busy.holds
    generalize p.view.trace call.registration.serial = trace at underway pending
    cases underway with
    | resolve => exact holds
    | patch => exact holds
    | restore r k source t =>
      cases (pending ((Call.patch r).answered (.error source))
        (by simp [refusal, Call.registration])).1
    | withdraw r k t =>
      cases (pending ((Call.patch r).answered (.ok ()))
        (by simp [application, Call.registration])).1

end Position.Lives

/-! ### What is recorded -/

/-- A cap is in force. Attempts are recorded for applying registrations only, as many as have
missed, and fewer than the cap allows. -/
structure Position.Counts (p : Position) (m : UInt32) : Prop where
  /-- The cap is in force. -/
  capped : p.view.retries.policy.maxAttempts = some m
  /-- Nothing is recorded for what is not applying. -/
  idle : ∀ {x}, p.view.registry.applying.get? x = none → p.view.retries.attempts? x = none
  /-- What has missed is recorded. -/
  recorded : ∀ {x r}, p.view.registry.applying.get? x = some r
    → ((p.view.retries.attempts? x).getD 0).toNat = p.view.misses r.serial
      ∧ p.view.misses r.serial < m.toNat

/-- Applying registrations of different identities have different numbers. -/
theorem Registry.WellKept.applying_serial_ne {g : Registry} (w : g.WellKept) {x y : InstrumentId}
    {r s : Registration} (found : g.applying.get? x = some r) (found' : g.applying.get? y = some s)
    (other : y ≠ x) :
  s.serial ≠ r.serial
  := fun same => other (w.serial_inj (w.get?_of_applying found') (w.get?_of_applying found) same)

namespace Position.Counts

variable {p q : Position} {m : UInt32}

/-- No attempt misses, and none is recorded. -/
theorem keep (h : p.Counts m) (capped : q.view.retries.policy = p.view.retries.policy)
    (free : ∀ {x}, q.view.registry.applying.get? x = none
      → p.view.registry.applying.get? x = none)
    (applying : ∀ {x r}, q.view.registry.applying.get? x = some r
      → ∃ s, p.view.registry.applying.get? x = some s ∧ s.serial = r.serial)
    (attempts : ∀ x, q.view.retries.attempts? x = p.view.retries.attempts? x)
    (misses : ∀ n, q.view.misses n = p.view.misses n) :
  q.Counts m
  := by
  constructor
  · rw [capped]
    exact h.capped
  · intro x none
    rw [attempts]
    apply h.idle (free none)
  · intro x r found
    obtain ⟨s, before, serial⟩ := applying found
    rw [attempts, misses, ← serial]
    apply h.recorded before

/-- Entries are added that are no misses. -/
theorem add {v : View} {calls calls' : List Call} (h : Position.Counts ⟨v, calls⟩ m)
    {entries : List Entry} (none : ∀ entry ∈ entries, entry.isMiss = false) :
  Position.Counts ⟨v.add entries, calls'⟩ m
  := by
  exact h.keep rfl id (fun found => ⟨_, found, rfl⟩) (fun _ => rfl) fun _ => View.misses_add none

/-- Something happens to one identity. -/
theorem turn (h : p.Counts m) (capped : q.view.retries.policy = p.view.retries.policy)
    (x : InstrumentId)
    (applying : ∀ y, y ≠ x
      → q.view.registry.applying.get? y = p.view.registry.applying.get? y)
    (attempts : ∀ y, y ≠ x → q.view.retries.attempts? y = p.view.retries.attempts? y)
    (misses : ∀ {y s}, y ≠ x → p.view.registry.applying.get? y = some s
      → q.view.misses s.serial = p.view.misses s.serial)
    (free : q.view.registry.applying.get? x = none → q.view.retries.attempts? x = none)
    (own : ∀ {r}, q.view.registry.applying.get? x = some r
      → ((q.view.retries.attempts? x).getD 0).toNat = q.view.misses r.serial
        ∧ q.view.misses r.serial < m.toNat) :
  q.Counts m
  := by
  constructor
  · rw [capped]
    exact h.capped
  · intro y none
    by_cases same : y = x
    · subst same
      apply free none
    · rw [applying y same] at none
      rw [attempts y same]
      apply h.idle none
  · intro y r found
    by_cases same : y = x
    · subst same
      apply own found
    · rw [applying y same] at found
      rw [attempts y same, misses same found]
      apply h.recorded found

/-- An identity is taken out of the applying ones, and its deferred install cancelled. -/
theorem leave (h : p.Counts m) (x : InstrumentId)
    (applying : ∀ y, q.view.registry.applying.get? y
      = if y = x then none else p.view.registry.applying.get? y)
    (retries : q.view.retries = p.view.retries.cancel x)
    (misses : ∀ {y s}, y ≠ x → p.view.registry.applying.get? y = some s
      → q.view.misses s.serial = p.view.misses s.serial) :
  q.Counts m
  := by
  have gone : q.view.registry.applying.get? x = none := by rw [applying, if_pos rfl]
  apply h.turn _ x _ _ misses
  · intro _
    rw [retries]
    apply RetryQueue.attempts?_cancel
  · intro r found
    rw [gone] at found
    cases found
  · rw [retries]
    rfl
  · intro y other
    rw [applying, if_neg other]
  · intro y other
    rw [retries, RetryQueue.attempts?, RetryQueue.get?_cancel_of_ne other]
    rfl

/-- A hit is counted. -/
theorem touch {v : View} {calls : List Call} (h : Position.Counts ⟨v, calls⟩ m)
    (w : v.registry.WellKept) (x : InstrumentId) {f : Registration → Registration}
    (alike : ∀ r, (f r).Alike r) :
  Position.Counts ⟨{ v with registry := v.registry.modify x f }, calls⟩ m
  := by
  refine h.keep rfl ?_ ?_ (fun _ => rfl) fun _ => rfl
  · intro y free
    change (v.registry.modify x f).applying.get? y = none at free
    rw [w.applying_modify] at free
    split at free
    next own =>
      rw [own]
      exact Option.map_eq_none_iff.mp free
    next => exact free
  · intro y r found
    change (v.registry.modify x f).applying.get? y = some r at found
    rw [w.applying_modify] at found
    split at found
    next own =>
      obtain ⟨s, before, rfl⟩ := Option.map_eq_some_iff.mp found
      exact ⟨s, own ▸ before, (alike s).serial.symm⟩
    next => exact ⟨r, found, rfl⟩

/-- An instrument is registered. No attempt for it has missed, and none is recorded. -/
theorem register {v : View} {calls : List Call} (h : Position.Counts ⟨v, calls⟩ m)
    (coherent : Position.Coherent ⟨v, calls⟩) (positive : 1 ≤ m) {c : Candidate} {r : Registration}
    {g : Registry} (fresh : v.registry.reserve c = (.fresh r, g)) :
  Position.Counts ⟨{ v with registry := g }, calls⟩ m
  := by
  obtain ⟨free, made, -⟩ := Registry.reserve_fresh fresh
  have idle := h.idle (Registry.get?_eq_none_iff.mp free).2
  have applying (y : InstrumentId) : g.applying.get? y
      = if y = r.id then some r else v.registry.applying.get? y :=
    Registry.applying_reserve fresh y
  refine h.turn rfl r.id ?_ (fun _ _ => rfl) (fun _ _ => rfl) (fun _ => idle) ?_
  · intro y other
    exact (applying y).trans (if_neg other)
  · intro s found
    obtain rfl := Option.some.inj (((applying r.id).trans (if_pos rfl)).symm.trans found)
    have none : v.misses r.serial = 0 := by
      have new : v.trace r.serial = [] := by
        apply coherent.trace_eq_nil
        rw [made]
        apply Nat.le_refl
      rw [View.misses, new]
      rfl
    change ((v.retries.attempts? r.id).getD 0).toNat = v.misses r.serial
      ∧ v.misses r.serial < m.toNat
    rw [none, idle]
    exact ⟨rfl, positive⟩

/-- An attempt misses that is not the last one, and its install is deferred. -/
theorem defer {v : View} {calls : List Call} {r s : Registration} {now dueAt : Instant}
    {attempts : UInt32} (h : Position.Counts ⟨v, .resolve r :: calls⟩ m)
    (w : v.registry.WellKept) (found : v.registry.applying.get? r.id = some s)
    (serial : s.serial = r.serial)
    (scheduled : (v.retries.schedule r.id now).1 = .scheduled dueAt attempts) :
  Position.Counts ⟨{ v with retries := (v.retries.schedule r.id now).2 }.add
    [(Call.resolve r).answered false], calls⟩ m
  := by
  obtain ⟨counted, more, queue⟩ := RetryQueue.schedule_scheduled scheduled
  obtain ⟨recorded, few⟩ : ((v.retries.attempts? r.id).getD 0).toNat = v.misses s.serial
    ∧ v.misses s.serial < m.toNat := h.recorded found
  have attempted : attempts.toNat = v.misses s.serial + 1 := by
    rw [counted, RetryQueue.toNat_countUp (m := m), recorded]
    rw [recorded]
    exact few
  have less : attempts.toNat < m.toNat := by
    have capped : v.retries.policy.maxAttempts = some m := h.capped
    simp only [RetryQueue.isLast, capped, decide_eq_false_iff_not] at more
    exact UInt32.not_le.mp more
  let answered := v.add [(Call.resolve r).answered false]
  have misses (n : Nat) : answered.misses n = v.misses n + if n = r.serial then 1 else 0 :=
    View.misses_add_miss r
  refine h.turn (by simp [queue]) r.id (fun _ _ => rfl) ?_ ?_ ?_ ?_
  · intro y other
    change (v.retries.schedule r.id now).2.attempts? y = v.retries.attempts? y
    rw [RetryQueue.attempts?, RetryQueue.get?_schedule_of_ne other]
    rfl
  · intro y s' other found'
    have ne := w.applying_serial_ne found found' other
    rw [serial] at ne
    change answered.misses _ = v.misses _
    rw [misses, if_neg ne, Nat.add_zero]
  · intro none
    cases found.symm.trans none
  · intro s' found'
    obtain rfl := Option.some.inj (found.symm.trans found')
    have waits : (v.retries.schedule r.id now).2.attempts? r.id = some attempts := by
      rw [queue, RetryQueue.attempts?, Dict.get?_insert, if_pos rfl]
      rfl
    change (((v.retries.schedule r.id now).2.attempts? r.id).getD 0).toNat
      = answered.misses s.serial ∧ answered.misses s.serial < m.toNat
    rw [misses, if_pos serial, ← attempted, waits]
    exact ⟨rfl, less⟩

end Position.Counts

namespace Move

variable {p q : Position} {m : UInt32}

/-- While one operation runs after another, what has missed is recorded. -/
theorem counts (move : Move Conduct.sequential p q) (coherent : p.Coherent) (orderly : p.Orderly)
    (positive : 1 ≤ m) (h : p.Counts m) :
  q.Counts m
  := by
  have w := coherent.wellKept
  cases move with
  | touch v calls x f alike => exact h.touch w x alike
  | refuse => exact h.add (by simp [Entry.isMiss])
  | complain => exact h.add (by simp [Entry.isMiss])
  | takeDue v calls now =>
    refine h.keep rfl id (fun found => ⟨_, found, rfl⟩) ?_ fun _ => rfl
    intro x
    apply RetryQueue.attempts?_takeDue
  | forget v calls x gone =>
    exact h.leave x (Registry.applying_of_free gone) rfl fun _ _ => rfl
  | register v calls i candidate r g opens valid fresh =>
    exact (h.register coherent positive fresh).add (by simp [Entry.isMiss])
  | attempt => exact h.add (by simp [Entry.isMiss])
  | found => exact h.add (by simp [Entry.isMiss])
  | defer v calls r now dueAt attempts may patient scheduled =>
    obtain ⟨-, ⟨s, found, serial, -⟩, -⟩ := orderly.resolving coherent
    exact h.defer w found serial scheduled
  | fail v calls r now err t may givesUp =>
    obtain ⟨rfl, ⟨s, found, serial, -⟩, -⟩ := orderly.resolving coherent
    refine h.leave r.id (w.applying_detach r.id) rfl ?_
    intro y s' other found'
    have ne := w.applying_serial_ne found found' other
    rw [serial] at ne
    change (View.abandon _ r err t).misses _ = _
    rw [View.misses_abandon, View.misses_add_miss, if_neg ne, Nat.add_zero]
  | reject v calls r source t may =>
    refine h.leave r.id (w.applying_detach r.id) rfl fun _ _ => ?_
    apply (View.misses_add (by simp [Entry.isMiss])).trans
    rw [View.misses_abandon]
    exact View.misses_add (by simp [Entry.isMiss])
  | confirm v calls r s t may promoted =>
    refine h.leave r.id (w.applying_promoted r.id) rfl fun _ _ => ?_
    apply (View.misses_add (by simp [Entry.isMiss])).trans
    exact View.misses_add (v := v) (by simp [Entry.isMiss])
  | revert v calls r may refused =>
    refine h.leave r.id (w.applying_promoted r.id) rfl fun _ _ => ?_
    apply (View.misses_add (by simp [Entry.isMiss])).trans
    exact View.misses_add (v := v) (by simp [Entry.isMiss])
  | settle => exact h.add (by simp [Entry.isMiss])
  | drop v calls x =>
    refine h.leave x (w.applying_detach x) rfl fun _ _ => ?_
    exact View.misses_add (v := v.detach x) (by simp [Entry.isMiss])
  | withdraw v calls x =>
    refine h.leave x (w.applying_detach x) rfl fun _ _ => ?_
    exact View.misses_add (v := v.detach x) (by simp [Entry.isMiss])
  | part => exact h.add (by simp [Entry.isMiss])
  | clear v calls may => exact absurd rfl may.2

end Move

/-! ### The last attempt -/

namespace View

variable {v : View} {n : Nat} {entries : List Entry}

/-- Entries about others are not in a trace. -/
theorem trace_add (others : ∀ entry ∈ entries, entry.serial? ≠ some n) :
  (v.add entries).trace n = v.trace n
  := trace_eq rfl others

/-- The failure of another install is not in a trace. -/
theorem trace_abandon {r : Registration} (other : r.serial ≠ n) (err : InstrumentError)
    (t : Instant) :
  (v.abandon r err t).trace n = v.trace n
  := by
  apply trace_add (v := v.detach r.id)
  intro entry mem own
  rw [serial?_of_mem_failure mem] at own
  exact other (Option.some.inj own)

end View

namespace Move

variable {c : Conduct} {p q : Position} {n : Nat} {i : Instrument}

/-- A registration that has left, and of which no call waits, is over. -/
theorem remains_gone (move : Move c p q) (w : p.view.registry.WellKept)
    (gone : Place.gone.Holds p.view.registry n i)
    (quiet : ∀ call ∈ p.calls, call.registration.serial ≠ n)
    (old : n < p.view.registry.nextSerial) :
  q.view.trace n = p.view.trace n ∧ ∀ call ∈ q.calls, call.registration.serial ≠ n
  := by
  cases move with
  | touch | takeDue | forget | clear => exact ⟨rfl, quiet⟩
  | refuse | complain => exact ⟨View.trace_add (by simp [Entry.serial?]), quiet⟩
  | register v calls i candidate r g opens valid fresh =>
    have new : r.serial = v.registry.nextSerial := by
      rw [(Registry.reserve_fresh fresh).2.1]
      rfl
    have old : n < v.registry.nextSerial := old
    have other : r.serial ≠ n := by omega
    constructor
    · apply View.trace_add
      simp [Entry.serial?, Call.registration, other]
    · exact List.forall_mem_cons.mpr ⟨other, quiet⟩
  | attempt v calls x r opens applying =>
    have other : r.serial ≠ n := gone x r (w.get?_of_applying applying)
    constructor
    · apply View.trace_add
      simp [Entry.serial?, Call.registration, other]
    · exact List.forall_mem_cons.mpr ⟨other, quiet⟩
  | found v calls r may =>
    obtain ⟨other : r.serial ≠ n, others⟩ := List.forall_mem_cons.mp quiet
    constructor
    · apply View.trace_add
      simp [Entry.serial?, Call.registration, other]
    · exact List.forall_mem_cons.mpr ⟨other, others⟩
  | defer v calls r | settle v calls r | part v calls r =>
    obtain ⟨other : r.serial ≠ n, others⟩ := List.forall_mem_cons.mp quiet
    constructor
    · apply View.trace_add (v := v)
      simp [Entry.serial?, Call.registration, other]
    · exact others
  | fail v calls r now err t may givesUp =>
    obtain ⟨other : r.serial ≠ n, others⟩ := List.forall_mem_cons.mp quiet
    constructor
    · apply (View.trace_abandon other err t).trans
      apply View.trace_add
      simp [Entry.serial?, Call.registration, other]
    · exact others
  | reject v calls r source t may =>
    obtain ⟨other : r.serial ≠ n, others⟩ := List.forall_mem_cons.mp quiet
    constructor
    · apply (View.trace_add (by simp [Entry.serial?, Call.registration, other])).trans
      apply (View.trace_abandon other _ t).trans
      apply View.trace_add
      simp [Entry.serial?, Call.registration, other]
    · exact List.forall_mem_cons.mpr ⟨other, others⟩
  | confirm v calls r s t may promoted =>
    obtain ⟨other : r.serial ≠ n, others⟩ := List.forall_mem_cons.mp quiet
    constructor
    · apply (View.trace_add (by simp [Entry.serial?, other])).trans
      apply View.trace_add (v := v)
      simp [Entry.serial?, Call.registration, other]
    · exact others
  | revert v calls r may refused =>
    obtain ⟨other : r.serial ≠ n, others⟩ := List.forall_mem_cons.mp quiet
    constructor
    · apply (View.trace_add (by simp [Entry.serial?, Call.registration, other])).trans
      apply View.trace_add (v := v)
      simp [Entry.serial?, Call.registration, other]
    · exact List.forall_mem_cons.mpr ⟨other, others⟩
  | drop v calls x r cause t opens detached applying =>
    obtain ⟨s, found, rfl⟩ := w.detach_applying detached applying
    have other : s.serial ≠ n := gone x s (w.get?_of_applying found)
    constructor
    · apply View.trace_add (v := v.detach x)
      simp [Entry.serial?, Registration.remove, other]
    · exact quiet
  | withdraw v calls x r opens detached live =>
    obtain ⟨s, found, rfl⟩ := w.detach_live detached live
    have other : s.serial ≠ n := gone x s (Registry.get?_of_live found)
    constructor
    · apply View.trace_add (v := v.detach x)
      simp [Entry.serial?, Call.registration, Registration.remove, other]
    · exact List.forall_mem_cons.mpr ⟨other, quiet⟩

/-- An attempt misses only when its install is deferred or given up. -/
theorem misses_eq_or (move : Move c p q) :
  (∀ n, q.view.misses n = p.view.misses n)
    ∨ ∃ v calls r, p = ⟨v, .resolve r :: calls⟩
      ∧ (∀ n, n ≠ r.serial → q.view.misses n = v.misses n)
      ∧ (q.view.registry = v.registry ∨ ∃ now err t, v.retries.GivesUp r now err
        ∧ q = ⟨(v.add [(Call.resolve r).answered false]).abandon r err t, calls⟩)
  := by
  cases move with
  | touch | takeDue | forget | clear => exact .inl fun _ => rfl
  | refuse | complain | attempt | found | settle | part =>
    exact .inl fun _ => View.misses_add (by simp [Entry.isMiss])
  | register v calls i candidate r g =>
    exact .inl fun _ => View.misses_add (v := { v with registry := g }) (by simp [Entry.isMiss])
  | drop v calls x | withdraw v calls x =>
    exact .inl fun _ => View.misses_add (v := v.detach x) (by simp [Entry.isMiss])
  | reject v calls r =>
    left
    intro n
    apply (View.misses_add (by simp [Entry.isMiss])).trans
    rw [View.misses_abandon]
    exact View.misses_add (by simp [Entry.isMiss])
  | confirm v calls r | revert v calls r =>
    left
    intro n
    apply (View.misses_add (by simp [Entry.isMiss])).trans
    exact View.misses_add (v := v) (by simp [Entry.isMiss])
  | defer v calls r =>
    refine .inr ⟨v, calls, r, rfl, ?_, .inl rfl⟩
    intro n other
    apply (View.misses_add_miss (v := v) r).trans
    rw [if_neg other, Nat.add_zero]
  | fail v calls r now err t may givesUp =>
    refine .inr ⟨v, calls, r, rfl, ?_, .inr ⟨now, err, t, givesUp, rfl⟩⟩
    intro n other
    apply (View.misses_abandon _ r err t).trans
    rw [View.misses_add_miss, if_neg other, Nat.add_zero]

end Move

/-- The last attempt of a registration has missed. It was removed for that, and has left. -/
structure Position.Exhausted (p : Position) (m : UInt32) (n : Nat) (i : Instrument) : Prop where
  /-- It has left. -/
  gone : Place.gone.Holds p.view.registry n i
  /-- No call about it waits. -/
  quiet : ∀ call ∈ p.calls, call.registration.serial ≠ n
  /-- Its trace ends with its removal. -/
  trace : ∃ t, p.view.trace n = deferrals n i m.toNat ++ [.published (some n)
    (.removed i (some (InstrumentError.retriesExhausted i.id m).message) t)]

/-- Every registration leads the life of an instrument. If it is one that waits, either it has
attempts left or its last one has missed. -/
def Position.Capped (p : Position) (m : UInt32) : Prop :=
  ∀ n < p.view.registry.nextSerial, ∃ i, p.Lives n i
    ∧ (i.applyImmediately = false → p.view.misses n < m.toNat ∨ p.Exhausted m n i)

/-- An install that waits is given up when its last attempt misses. -/
theorem Position.Exhausted.of_givesUp {v : View} {r : Registration} {m : UInt32} {now t : Instant}
    {err : InstrumentError} (coherent : Position.Coherent ⟨v, [.resolve r]⟩)
    (orderly : Position.Orderly ⟨v, [.resolve r]⟩) (counts : Position.Counts ⟨v, [.resolve r]⟩ m)
    (patient : r.instrument.applyImmediately = false) (givesUp : v.retries.GivesUp r now err) :
  Position.Exhausted ⟨(v.add [(Call.resolve r).answered false]).abandon r err t, []⟩ m r.serial
    r.instrument
  := by
  have w := coherent.wellKept
  obtain ⟨-, ⟨s, found, serial, -⟩, k, trace⟩ := orderly.resolving coherent
  have registered := w.get?_of_applying found
  cases givesUp with
  | immediate h =>
    rw [patient] at h
    cases h
  | exhausted _ attempts last =>
    have capped : v.retries.policy.maxAttempts = some m := counts.capped
    obtain ⟨recorded, few⟩ : ((v.retries.attempts? r.id).getD 0).toNat = v.misses s.serial
      ∧ v.misses s.serial < m.toNat := counts.recorded found
    obtain ⟨counted, isLast⟩ := RetryQueue.isLast_of_exhausted last
    have attempted : attempts.toNat = v.misses s.serial + 1 := by
      rw [counted, RetryQueue.toNat_countUp (m := m), recorded]
      rw [recorded]
      exact few
    have enough : m.toNat ≤ attempts.toNat := by
      simp only [RetryQueue.isLast, capped, decide_eq_true_eq] at isLast
      exact isLast
    obtain rfl : attempts = m := UInt32.toNat_inj.mp (by omega)
    have misses : v.misses s.serial = k := by
      rw [serial, View.misses, trace, List.countP_append, (count_deferrals k).2]
      rfl
    constructor
    · rw [← serial]
      apply Place.Holds.detached w registered
    · simp
    · use t
      have failed : View.trace ((v.add [(Call.resolve r).answered false]).abandon r
            (.retriesExhausted r.id attempts) t) r.serial
          = v.trace r.serial ++ [(Call.resolve r).answered false, .published (some r.serial)
            (.removed r.instrument (some (InstrumentError.retriesExhausted r.id attempts).message)
              t)] := by
        apply View.trace_append
        · simp [View.failure_of_registered registered]
        · simp [Entry.serial?, Call.registration]
      rw [failed, trace, attempted, misses, deferrals_succ, List.append_assoc, List.append_assoc]
      rfl

namespace Move

variable {p q : Position} {m : UInt32} {n : Nat} {i : Instrument}

/-- While one operation runs after another, a registration that waits has attempts left or its last
one has missed. -/
theorem spends (move : Move Conduct.sequential p q) (coherent : p.Coherent) (orderly : p.Orderly)
    (counts : p.Counts m) (counts' : q.Counts m) (old : n < p.view.registry.nextSerial)
    (lives : p.Lives n i) (patient : i.applyImmediately = false)
    (h : p.view.misses n < m.toNat ∨ p.Exhausted m n i) :
  q.view.misses n < m.toNat ∨ q.Exhausted m n i
  := by
  have w := coherent.wellKept
  rcases h with few | exhausted
  · rcases move.misses_eq_or with same | ⟨v, calls, r, rfl, others, goesOn⟩
    · left
      rw [same]
      exact few
    · by_cases own : n = r.serial
      · subst own
        obtain ⟨rfl, holds, k, trace⟩ := orderly.resolving coherent
        obtain ⟨s, found, serial, instrument⟩ := holds
        rcases goesOn with same | ⟨now, err, t, givesUp, rfl⟩
        · left
          rw [← serial]
          apply (counts'.recorded (x := r.id) _).2
          rw [same]
          exact found
        · obtain rfl : r.instrument = i := by
            rw [← serial] at lives
            exact instrument.symm.trans (lives.instrument_of coherent (w.get?_of_applying found))
          right
          apply Position.Exhausted.of_givesUp coherent orderly counts patient givesUp
      · left
        rw [others n own]
        exact few
  · right
    obtain ⟨trace, quiet⟩ := move.remains_gone w exhausted.gone exhausted.quiet old
    constructor
    · apply exhausted.gone.stay_gone old (move.succeeds w).2
    · exact quiet
    · rw [trace]
      exact exhausted.trace

/-- While one operation runs after another, every registration that waits has attempts left or its
last one has missed. -/
theorem capped (move : Move Conduct.sequential p q) (coherent : p.Coherent) (orderly : p.Orderly)
    (positive : 1 ≤ m) (counts : p.Counts m) (h : p.Capped m) :
  q.Capped m
  := by
  have counts' := move.counts coherent orderly positive counts
  intro n lt
  by_cases old : n < p.view.registry.nextSerial
  · obtain ⟨i, lives, spends⟩ := h n old
    use i, move.lives coherent orderly old lives
    intro patient
    apply move.spends coherent orderly counts counts' old lives patient (spends patient)
  · obtain ⟨i, lives⟩ := (move.orderly coherent orderly).lives n lt
    use i, lives
    intro _
    left
    have none : p.view.misses n = 0 := by
      rw [View.misses, coherent.trace_eq_nil (Nat.le_of_not_lt old)]
      rfl
    have none' : q.view.misses n = 0 := by
      rcases move.misses_eq_or with same | ⟨v, calls, r, rfl, others, -⟩
      · rw [same, none]
      · have lt' : r.serial < v.registry.nextSerial := coherent.knows_head.serial_lt
        have other : n ≠ r.serial := by
          rintro rfl
          exact old lt'
        rw [others n other]
        exact none
    rw [none']
    exact positive

end Move

/-! ### Whole runs -/

/-- The attempts to install an instrument `i` are accounted for, under its registration `n` and a
cap. -/
structure View.Accounts (v : View) (m : UInt32) (n : Nat) (i : Instrument) : Prop where
  /-- No more are made than the cap allows. -/
  attempts_le : v.attempts n ≤ m.toNat
  /-- No more miss than the cap allows. -/
  misses_le : v.misses n ≤ m.toNat
  /-- While fewer have missed, and until a patch is answered or the instrument is removed, it is
  applying, and exactly those that have missed are recorded. -/
  waits : v.misses n < m.toNat
    → (∀ entry ∈ v.trace n, entry.isPatched = false ∧ entry.isRemoval = false)
    → Place.applying.Holds v.registry n i
      ∧ ((v.retries.attempts? i.id).getD 0).toNat = v.misses n
  /-- When the last one has missed it has left, with one removal, for its attempts are exhausted. -/
  ends : v.misses n = m.toNat → Place.gone.Holds v.registry n i
    ∧ ∃ t, (v.trace n).filter Entry.isRemoval = [.published (some n)
      (.removed i (some (InstrumentError.retriesExhausted i.id m).message) t)]

/-- A registration has attempts left or its last one has missed, so that its attempts are accounted
for. -/
theorem Position.Counts.accounts {p : Position} {m : UInt32} {n : Nat} {i : Instrument}
    (counts : p.Counts m) (lives : p.Lives n i)
    (spends : p.view.misses n < m.toNat ∨ p.Exhausted m n i) :
  p.view.Accounts m n i
  := by
  rcases spends with few | ⟨gone, -, t, trace⟩
  · have most := lives.attempts_le
    constructor
    · omega
    · omega
    · intro _ pending
      have applying := lives.applying pending
      obtain ⟨r, found, serial, instrument⟩ := applying
      have recorded := (counts.recorded found).1
      rw [serial] at recorded
      exact ⟨⟨r, found, serial, instrument⟩, recorded⟩
    · omega
  · have attempts : p.view.attempts n = m.toNat := by
      rw [View.attempts, trace, List.countP_append, (count_deferrals _).1]
      rfl
    have misses : p.view.misses n = m.toNat := by
      rw [View.misses, trace, List.countP_append, (count_deferrals _).2]
      rfl
    constructor
    · omega
    · omega
    · omega
    · intro _
      use gone, t
      have none : (deferrals n i m.toNat).filter Entry.isRemoval = [] := by
        apply List.filter_eq_nil_iff.mpr
        intro entry mem
        simp [pending_deferrals _ entry mem]
      rw [trace, List.filter_append, none]
      rfl

namespace Conduct

variable {settings : Settings} {clock : Instant} {s s' : Session} {m : UInt32}

/-- While one operation runs after another, what has missed is recorded, and every registration that
waits has attempts left or its last one has missed. -/
theorem Run.capped (run : sequential.Run (.idle (.new settings clock)) s)
    (cap : settings.maxAttempts = some m) (positive : 1 ≤ m) :
  s.position.Counts m ∧ s.position.Capped m
  := by
  -- `coherent_invariant` does not apply: it starts with any queue, and this one is capped and empty
  have none : sequential.starts.Keeps (Session.idle (.new settings clock)).waiting := trivial
  have start : sequential.Run (.idle (.new settings clock)) (.idle (.new settings clock)) := .refl
  have counts : Position.Counts (Session.idle (.new settings clock)).position m := by
    constructor
    · exact cap
    · exact fun _ => rfl
    · intro x r found
      cases found
  have capped : Position.Capped (Session.idle (.new settings clock)).position m := by
    intro n lt
    cases lt
  have all {p q : Position} (move : Move sequential p q)
      (h : p.Coherent ∧ p.Orderly ∧ p.Counts m ∧ p.Capped m) :
      q.Coherent ∧ q.Orderly ∧ q.Counts m ∧ q.Capped m := by
    obtain ⟨coherent, orderly, counts, capped⟩ := h
    exact ⟨move.coherent coherent, move.orderly coherent orderly,
      move.counts coherent orderly positive counts,
      move.capped coherent orderly positive counts capped⟩
  exact ((Run.moves none run).1.preserve all ⟨start.coherent, start.orderly, counts, capped⟩).2.2

/-- While one operation runs after another, the attempts to install an instrument that waits are
accounted for from its registration on. -/
theorem Run.accounts (run : sequential.Run (.idle (.new settings clock)) s)
    (later : sequential.Run s s') (cap : settings.maxAttempts = some m) (positive : 1 ≤ m)
    {x : InstrumentId} {r : Registration} (found : s.engine.registry.get? x = some r)
    (patient : r.instrument.applyImmediately = false) :
  s'.engine.view.Accounts m r.serial r.instrument
  := by
  have coherent := run.coherent
  have old : r.serial < s.position.view.registry.nextSerial := coherent.wellKept.serial_lt found
  obtain ⟨counts, capped⟩ := run.capped cap positive
  obtain ⟨i, lives, spends⟩ := capped r.serial old
  obtain rfl := lives.instrument_of coherent found
  have all {p q : Position} (move : Move sequential p q)
      (h : p.Coherent ∧ p.Orderly ∧ p.Counts m ∧ r.serial < p.view.registry.nextSerial
        ∧ p.Lives r.serial r.instrument
        ∧ (p.view.misses r.serial < m.toNat ∨ p.Exhausted m r.serial r.instrument)) :
      q.Coherent ∧ q.Orderly ∧ q.Counts m ∧ r.serial < q.view.registry.nextSerial
        ∧ q.Lives r.serial r.instrument
        ∧ (q.view.misses r.serial < m.toNat ∨ q.Exhausted m r.serial r.instrument) := by
    obtain ⟨coherent, orderly, counts, old, lives, spends⟩ := h
    have counts' := move.counts coherent orderly positive counts
    have more := (move.succeeds coherent.wellKept).2.nextSerial_le
    exact ⟨move.coherent coherent, move.orderly coherent orderly, counts',
      Nat.lt_of_lt_of_le old more, move.lives coherent orderly old lives,
      move.spends coherent orderly counts counts' old lives patient spends⟩
  have moves := (later.moves run.keeps).1
  obtain ⟨-, -, counts, -, lives, spends⟩ :=
    moves.preserve all ⟨coherent, run.orderly, counts, old, lives, spends patient⟩
  exact counts.accounts lives spends

end Conduct

end Instrumentation
