import Instrumentation.Proofs.Dict
import Instrumentation.Retry

/-!
# Deferred installs

What the operations on the queue do to each identity: a failed attempt schedules its own identity
or drops it, a cancellation drops its own, and taking up what is due drops none.
-/

namespace Instrumentation

namespace RetryQueue

variable {q : RetryQueue} {x y : InstrumentId} {now : Instant}

/-! ### What is pending -/

/-- An install that is scheduled is pending. -/
theorem isPending_of_scheduled {dueAt : Instant} {attempts : UInt32}
    (scheduled : (q.schedule x now).1 = .scheduled dueAt attempts) :
  (q.schedule x now).2.isPending x = true
  := by
  rw [schedule] at scheduled ⊢
  dsimp only at scheduled ⊢
  split at scheduled
  next => cases scheduled
  next more =>
    rw [if_neg more]
    simp [isPending, Dict.contains, Dict.get?_insert]

/-- The attempts are counted up to the greatest count. -/
theorem toNat_countUp_eq (k : UInt32) :
  (countUp k).toNat = min (k.toNat + 1) 4294967295
  := by
  have bound := k.toNat_lt
  rw [countUp]
  split
  next full =>
    rw [full]
    rfl
  next more =>
    have few : k.toNat ≠ 4294967295 := fun eq => more (UInt32.toNat_inj.mp eq)
    have one : k.toNat + (1 : UInt32).toNat = k.toNat + 1 := rfl
    rw [UInt32.toNat_add, one, Nat.mod_eq_of_lt]
    · omega
    · omega

/-- An attempt counts, up to any cap. -/
theorem toNat_countUp {k m : UInt32} (lt : k.toNat < m.toNat) :
  (countUp k).toNat = k.toNat + 1
  := by
  have bound := m.toNat_lt
  rw [toNat_countUp_eq]
  omega

/-- A count is the last one if it reaches the cap. -/
theorem isLast_iff_cap {n : UInt32} :
  q.isLast n = true ↔ ∃ cap ∈ q.policy.maxAttempts, cap ≤ n
  := by
  rw [isLast]
  split
  next most cap => simp [cap]
  next none => simp [none]

/-- An attempt that is not the last one counts, and its install is due after the backoff. -/
theorem schedule_scheduled {dueAt : Instant} {attempts : UInt32}
    (scheduled : (q.schedule x now).1 = .scheduled dueAt attempts) :
  attempts = countUp ((q.attempts? x).getD 0) ∧ q.isLast attempts = false
    ∧ (q.schedule x now).2
      = { q with pending := q.pending.insert x ⟨some (now.later q.policy.delay), attempts⟩ }
  := by
  rw [schedule] at scheduled ⊢
  dsimp only at scheduled ⊢
  split at scheduled
  next => cases scheduled
  next more =>
    rw [if_neg more]
    obtain ⟨-, rfl⟩ := RetryDecision.scheduled.inj scheduled
    exact ⟨rfl, eq_false_of_ne_true more, rfl⟩

/-- The last attempt counts. -/
theorem isLast_of_exhausted {attempts : UInt32}
    (exhausted : (q.schedule x now).1 = .exhausted attempts) :
  attempts = countUp ((q.attempts? x).getD 0) ∧ q.isLast attempts = true
  := by
  rw [schedule] at exhausted
  dsimp only at exhausted
  split at exhausted
  next last =>
    obtain rfl := RetryDecision.exhausted.inj exhausted
    exact ⟨rfl, last⟩
  next => cases exhausted

/-- The last attempt drops its install. -/
theorem schedule_exhausted {attempts : UInt32}
    (exhausted : (q.schedule x now).1 = .exhausted attempts) :
  (q.schedule x now).2 = q.cancel x
  := by
  rw [schedule] at exhausted ⊢
  dsimp only at exhausted ⊢
  split at exhausted
  next last => rw [if_pos last, cancel]
  next => cases exhausted

/-- A failed attempt leaves the policy. -/
theorem policy_schedule (q : RetryQueue) (x : InstrumentId) (now : Instant) :
  (q.schedule x now).2.policy = q.policy
  := by
  rw [schedule]
  dsimp only
  split <;> rfl

/-- A failed attempt leaves the other deferred installs. -/
theorem get?_schedule_of_ne (other : y ≠ x) :
  (q.schedule x now).2.pending.get? y = q.pending.get? y
  := by
  rw [schedule]
  dsimp only
  split
  · rw [Dict.get?_erase, if_neg other]
  · rw [Dict.get?_insert, if_neg other]

/-- Other installs are pending after a failed attempt if they were before. -/
theorem isPending_schedule_of_ne (other : y ≠ x) :
  (q.schedule x now).2.isPending y = q.isPending y
  := by
  rw [isPending, isPending, Dict.contains, Dict.contains, get?_schedule_of_ne other]

/-- A cancellation leaves the other deferred installs. -/
theorem get?_cancel_of_ne (other : y ≠ x) :
  (q.cancel x).pending.get? y = q.pending.get? y
  := by
  rw [cancel, Dict.get?_erase, if_neg other]

/-- A cancelled install is not pending. -/
theorem isPending_cancel :
  (q.cancel x).isPending y = true ↔ y ≠ x ∧ q.isPending y = true
  := by
  rw [isPending, isPending, Dict.contains, Dict.contains, cancel, Dict.get?_erase]
  by_cases own : y = x
  · simp [own]
  · simp [own]

/-- What is cancelled once need not be cancelled again. -/
theorem cancel_cancel (q : RetryQueue) (x : InstrumentId) :
  (q.cancel x).cancel x = q.cancel x
  := by rw [cancel, cancel, Dict.erase_erase]

/-- Nothing is lost when what is not pending is cancelled. -/
theorem cancel_of_free (free : q.isPending x = false) :
  q.cancel x = q
  := by
  rw [isPending, Dict.contains, Option.isSome_eq_false_iff, Option.isNone_iff_eq_none] at free
  rw [cancel, Dict.erase_of_free free]

/-- No attempts are recorded for a cancelled install. -/
theorem attempts?_cancel :
  (q.cancel x).attempts? x = none
  := by
  rw [attempts?, cancel, Dict.get?_erase, if_pos rfl]
  rfl

/-- An install whose attempt is in progress is pending. -/
theorem isPending_takeDue :
  (q.takeDue now).2.isPending x = q.isPending x
  := by
  rw [isPending, isPending, Dict.contains, Dict.contains, takeDue, Dict.get?_map,
    Option.isSome_map]

/-- The attempts made stay recorded when an install is taken up. -/
theorem attempts?_takeDue :
  (q.takeDue now).2.attempts? x = q.attempts? x
  := by
  rw [attempts?, attempts?, takeDue, Dict.get?_map, Option.map_map]
  congr 1
  funext p
  dsimp only [Function.comp_apply]
  split <;> rfl

/-- An install that is due is taken up, and the others stay as they are. -/
theorem get?_takeDue :
  (q.takeDue now).2.pending.get? x
    = (q.pending.get? x).map fun p =>
        if PendingRetry.isDue p now then { p with dueAt := none } else p
  := by
  apply Dict.get?_map

/-- Attempts are counted for what is pending only. -/
theorem attempts?_eq_none_iff :
  q.attempts? x = none ↔ q.isPending x = false
  := by
  rw [attempts?, isPending, Dict.contains, Option.map_eq_none_iff, Option.isSome_eq_false_iff,
    Option.isNone_iff_eq_none]

/-! ### The order of the queue -/

/-- What is due is listed. -/
theorem mem_due_iff :
  x ∈ q.due now ↔ ∃ p, q.pending.get? x = some p ∧ PendingRetry.isDue p now = true
  := by
  simp only [due, List.mem_map, List.mem_filter]
  constructor
  · rintro ⟨⟨y, p⟩, ⟨entry, isDue⟩, rfl⟩
    exact ⟨p, Dict.get?_of_mem entry, isDue⟩
  · rintro ⟨p, found, isDue⟩
    exact ⟨(x, p), ⟨Dict.mem_of_get? found, isDue⟩, rfl⟩

/-- The instruments that are due are listed once. -/
theorem nodup_due (q : RetryQueue) (now : Instant) :
  (q.due now).Nodup
  := q.pending.nodup_filter _

end RetryQueue

end Instrumentation
