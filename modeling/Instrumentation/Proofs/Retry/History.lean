import Instrumentation.Proofs.Retry
import Mathlib.Data.List.Induction

/-!
# The history of a queue

A chronicle accompanies a queue through failed attempts, cancellations, takings and clearings. It
keeps what was done with the answers, the last thing first.

What the queue holds is read off the chronicle. An identity waits when it was scheduled after its
wait last ended, by a cancellation, by its last attempt or by a clearing; its attempts are the times
that it was scheduled since; and it is due when the backoff has passed since the last one of them,
unless it was handed out in between.
-/

namespace Instrumentation

namespace RetryQueue

/-! ### Chronicles -/

/-- An operation on a queue. -/
inductive Action where
  /-- An attempt fails. -/
  | schedule (x : InstrumentId) (now : Instant)
  /-- An identity is dropped. -/
  | cancel (x : InstrumentId)
  /-- What is due is handed out. -/
  | takeDue (now : Instant)
  /-- Everything is dropped. -/
  | clear

/-- An operation that was done, with its answer. -/
inductive Record where
  /-- An attempt failed. -/
  | scheduled (x : InstrumentId) (now : Instant) (decision : RetryDecision)
  /-- An identity was dropped. -/
  | cancelled (x : InstrumentId)
  /-- What was due was handed out. -/
  | taken (now : Instant) (due : List InstrumentId)
  /-- Everything was dropped. -/
  | cleared

namespace Record

/-- An attempt of the identity failed. -/
def schedules (x : InstrumentId) : Record → Bool
  | scheduled y _ _ => y == x
  | _ => false

/-- The identity was handed out. -/
def handsOut (x : InstrumentId) : Record → Bool
  | taken _ due => due.contains x
  | _ => false

/-- The wait of the identity ended: it was dropped, or its last attempt failed, or everything was
dropped. -/
def ends (x : InstrumentId) : Record → Bool
  | scheduled y _ (.exhausted _) => y == x
  | cancelled y => y == x
  | cleared => true
  | _ => false

/-- The records since the wait of an identity last ended. -/
def since (x : InstrumentId) (rs : List Record) : List Record :=
  rs.takeWhile fun r => !r.ends x

/-- How often an attempt of an identity failed since its wait last ended. -/
def failures (x : InstrumentId) (rs : List Record) : Nat := (since x rs).countP (schedules x)

/-- The last failed attempt of an identity was made at a time, and the identity was not handed out
after it. -/
def Waits (x : InstrumentId) (rs : List Record) (t : Instant) : Prop :=
  ∃ newer decision older, rs = newer ++ .scheduled x t decision :: older
    ∧ ∀ r ∈ newer, r.schedules x = false ∧ r.handsOut x = false

end Record

/-- A queue with all that was done to it. -/
structure Chronicle where
  /-- The queue. -/
  queue : RetryQueue
  /-- What was done, the last thing first. -/
  records : List Record

namespace Chronicle

/-- The chronicle of the queue without installs. -/
def new (policy : RetryPolicy) : Chronicle := { queue := .new policy, records := [] }

/-- The chronicle after an operation. -/
def step (c : Chronicle) : Action → Chronicle
  | .schedule x now =>
    let (decision, q) := c.queue.schedule x now
    { queue := q, records := .scheduled x now decision :: c.records }
  | .cancel x => { queue := c.queue.cancel x, records := .cancelled x :: c.records }
  | .takeDue now =>
    let (due, q) := c.queue.takeDue now
    { queue := q, records := .taken now due :: c.records }
  | .clear => { queue := c.queue.clear, records := .cleared :: c.records }

/-- The chronicle after a sequence of operations, from the one of the queue without installs. -/
def run (policy : RetryPolicy) (actions : List Action) : Chronicle :=
  actions.foldl step (new policy)

end Chronicle

/-! ### What one more record changes -/

namespace Record

variable {x y : InstrumentId} {r : Record} {rs : List Record} {t now : Instant}

/-- The record says nothing of the identity. -/
structure Omits (r : Record) (x : InstrumentId) : Prop where
  /-- No attempt of it failed. -/
  schedules : r.schedules x = false
  /-- It was not handed out. -/
  handsOut : r.handsOut x = false
  /-- Its wait did not end. -/
  ends : r.ends x = false

/-- A failed attempt says nothing of the other identities. -/
theorem omits_scheduled {decision : RetryDecision} (other : x ≠ y) :
  (scheduled y now decision).Omits x
  := by
  have ne : (y == x) = false := beq_false_of_ne other.symm
  constructor
  · exact ne
  · rfl
  · cases decision
    · rfl
    · exact ne

/-- A cancellation says nothing of the other identities. -/
theorem omits_cancelled (other : x ≠ y) :
  (cancelled y).Omits x
  := ⟨rfl, rfl, beq_false_of_ne other.symm⟩

/-- The failures are counted from an end on. -/
theorem failures_cons (r : Record) (rs : List Record) :
  failures x (r :: rs)
    = if r.ends x then 0 else failures x rs + if r.schedules x then 1 else 0
  := by
  rw [failures, since, List.takeWhile_cons]
  cases r.ends x
  · exact List.countP_cons
  · rfl

/-- What is not told changes no count. -/
theorem failures_omits (h : r.Omits x) (rs : List Record) :
  failures x (r :: rs) = failures x rs
  := by
  simp [failures_cons, h.ends, h.schedules]

/-- A wait goes on unless an attempt of it fails or it is taken up. -/
theorem waits_cons_iff (schedules : r.schedules x = false) (handsOut : r.handsOut x = false) :
  Waits x (r :: rs) t ↔ Waits x rs t
  := by
  constructor
  · rintro ⟨newer, decision, older, split, quiet⟩
    cases newer with
    | nil =>
      obtain ⟨rfl, -⟩ := List.cons.inj split
      simp [Record.schedules] at schedules
    | cons r' newer =>
      obtain ⟨-, rfl⟩ := List.cons.inj split
      exact ⟨newer, decision, older, rfl, fun r mem => quiet r (List.mem_cons_of_mem _ mem)⟩
  · rintro ⟨newer, decision, older, rfl, quiet⟩
    refine ⟨r :: newer, decision, older, rfl, ?_⟩
    rintro r' (_ | ⟨_, mem⟩)
    · exact ⟨schedules, handsOut⟩
    · exact quiet r' mem

/-- After a failed attempt the wait is counted from it. -/
theorem waits_scheduled_iff {decision : RetryDecision} :
  Waits x (scheduled x now decision :: rs) t ↔ t = now
  := by
  constructor
  · rintro ⟨newer, decision', older, split, quiet⟩
    cases newer with
    | nil =>
      obtain ⟨same, -⟩ := List.cons.inj split
      exact (scheduled.inj same).2.1.symm
    | cons r' newer =>
      obtain ⟨rfl, -⟩ := List.cons.inj split
      have silent := (quiet _ List.mem_cons_self).1
      simp [schedules] at silent
  · rintro rfl
    exact ⟨[], decision, rs, rfl, by simp⟩

/-- What was handed out does not wait. -/
theorem not_waits_of_handsOut (handsOut : r.handsOut x = true) :
  ¬Waits x (r :: rs) t
  := by
  rintro ⟨newer, decision, older, split, quiet⟩
  cases newer with
  | nil =>
    obtain ⟨rfl, -⟩ := List.cons.inj split
    cases handsOut
  | cons r' newer =>
    obtain ⟨rfl, -⟩ := List.cons.inj split
    exact Bool.eq_false_iff.mp (quiet r List.mem_cons_self).2 handsOut

/-! ### What the records say of an entry -/

/-- An entry of the queue is what the records say of its identity. -/
structure Account (policy : RetryPolicy) (x : InstrumentId) (rs : List Record) (p : PendingRetry) :
    Prop where
  /-- Some attempt failed since the last end. -/
  failed : 0 < failures x rs
  /-- The failed attempts are counted, up to the greatest count. -/
  attempts : p.attempts.toNat = min (failures x rs) 4294967295
  /-- They are fewer than the cap. -/
  capped : ∀ cap ∈ policy.maxAttempts, p.attempts < cap
  /-- The entry has a due time if it waits: the backoff after the last failed attempt. -/
  due : ∀ dueAt, p.dueAt = some dueAt ↔ ∃ t, Waits x rs t ∧ t.later policy.delay = dueAt

variable {policy : RetryPolicy} {p : PendingRetry}

/-- What is not told changes no entry. -/
theorem Account.omits (h : Account policy x rs p) (omits : r.Omits x) :
  Account policy x (r :: rs) p
  := by
  obtain ⟨failed, attempts, capped, due⟩ := h
  rw [← failures_omits omits rs] at failed attempts
  refine ⟨failed, attempts, capped, ?_⟩
  intro dueAt
  simp only [due, waits_cons_iff omits.schedules omits.handsOut]

/-- An identity that is handed out stays with its attempts, and is not due. -/
theorem Account.take (h : Account policy x rs p) {due : List InstrumentId} (mem : x ∈ due) :
  Account policy x (.taken now due :: rs) { p with dueAt := none }
  := by
  obtain ⟨failed, attempts, capped, -⟩ := h
  have same : failures x (.taken now due :: rs) = failures x rs := by
    simp [failures_cons, ends, schedules]
  have out : (taken now due).handsOut x = true := List.contains_iff_mem.mpr mem
  rw [← same] at failed attempts
  refine ⟨failed, attempts, capped, ?_⟩
  intro dueAt
  simp [not_waits_of_handsOut out]

/-- What the records say of an identity that has an entry or none: without an entry, no attempt of
it failed since the last end. -/
def Told (policy : RetryPolicy) (x : InstrumentId) (rs : List Record) : Option PendingRetry → Prop
  | none => failures x rs = 0
  | some p => Account policy x rs p

/-- What is not told changes nothing. -/
theorem Told.omits {entry : Option PendingRetry} (h : Told policy x rs entry) (omits : r.Omits x) :
  Told policy x (r :: rs) entry
  := by
  cases entry with
  | none => exact (failures_omits omits rs).trans h
  | some p => exact Account.omits h omits

end Record

/-! ### What the queue holds -/

namespace Chronicle

open RetryQueue.Record

variable {c : Chronicle} {policy : RetryPolicy} {x : InstrumentId} {now : Instant}

/-- The queue holds what the records say. -/
structure Kept (c : Chronicle) (policy : RetryPolicy) : Prop where
  /-- The policy stays. -/
  inForce : c.queue.policy = policy
  /-- The entries are what the records say. -/
  entries : ∀ x, Told policy x c.records (c.queue.pending.get? x)

namespace Kept

/-- What is not pending did not fail since its last end. -/
theorem free (h : c.Kept policy) (none : c.queue.pending.get? x = none) :
  failures x c.records = 0
  := by
  have told := h.entries x
  rw [none] at told
  exact told

/-- What is pending is as the records say. -/
theorem pending (h : c.Kept policy) {p : PendingRetry} (found : c.queue.pending.get? x = some p) :
  Account policy x c.records p
  := by
  have told := h.entries x
  rw [found] at told
  exact told

/-- The attempts that are counted are the failures since the last end. -/
theorem toNat_attempts (h : c.Kept policy) (x : InstrumentId) :
  ((c.queue.attempts? x).getD 0).toNat = min (failures x c.records) 4294967295
  := by
  rw [attempts?]
  cases found : c.queue.pending.get? x with
  | none =>
    rw [h.free found]
    rfl
  | some p => exact (h.pending found).attempts

/-- One failure more is counted. -/
theorem toNat_attempts_succ (h : c.Kept policy) (x : InstrumentId) :
  (countUp ((c.queue.attempts? x).getD 0)).toNat = min (failures x c.records + 1) 4294967295
  := by
  rw [toNat_countUp_eq, h.toNat_attempts]
  omega

/-- The queue of nothing holds what no records say. -/
theorem new (policy : RetryPolicy) :
  (Chronicle.new policy).Kept policy
  := by
  constructor
  · rfl
  · intro x
    rfl

/-- What a record does not tell of is held as before. -/
theorem of_omits (h : c.Kept policy) {q : RetryQueue} {r : Record}
    (same : q.pending.get? x = c.queue.pending.get? x) (omits : r.Omits x) :
  Told policy x (r :: c.records) (q.pending.get? x)
  := by
  rw [same]
  exact (h.entries x).omits omits

/-- A failed attempt is recorded. -/
theorem schedule (h : c.Kept policy) (y : InstrumentId) (now : Instant) :
  (c.step (.schedule y now)).Kept policy
  := by
  have counted := h.toNat_attempts_succ y
  refine ⟨(policy_schedule ..).trans h.inForce, ?_⟩
  intro x
  change Told policy x (.scheduled y now (c.queue.schedule y now).1 :: c.records)
    ((c.queue.schedule y now).2.pending.get? x)
  by_cases own : x = y
  · subst own
    cases decided : (c.queue.schedule x now).1 with
    | exhausted n =>
      have after : (c.queue.schedule x now).2.pending.get? x = none := by
        rw [schedule_exhausted decided, RetryQueue.cancel, Dict.get?_erase, if_pos rfl]
      rw [after]
      simp [Told, failures_cons, ends]
    | scheduled dueAt n =>
      obtain ⟨count, more, after⟩ := schedule_scheduled decided
      rw [after, Dict.get?_insert, if_pos rfl, h.inForce]
      have one : failures x (.scheduled x now (.scheduled dueAt n) :: c.records)
          = failures x c.records + 1 := by
        simp [failures_cons, ends, schedules]
      rw [← count, ← one] at counted
      refine ⟨one ▸ Nat.succ_pos _, counted, ?_, ?_⟩
      · -- At the cap, the attempt would have been the last one.
        intro cap given
        by_contra reached
        have last := isLast_iff_cap.mpr ⟨cap, h.inForce ▸ given, UInt32.not_lt.mp reached⟩
        exact Bool.false_ne_true (more.symm.trans last)
      · intro dueAt
        simp [waits_scheduled_iff]
  · exact h.of_omits (get?_schedule_of_ne own) (omits_scheduled own)

/-- A cancellation is recorded. -/
theorem cancel (h : c.Kept policy) (y : InstrumentId) :
  (c.step (.cancel y)).Kept policy
  := by
  refine ⟨h.inForce, ?_⟩
  intro x
  change Told policy x (.cancelled y :: c.records) ((c.queue.cancel y).pending.get? x)
  by_cases own : x = y
  · subst own
    rw [RetryQueue.cancel, Dict.get?_erase, if_pos rfl]
    simp [Told, failures_cons, ends]
  · exact h.of_omits (get?_cancel_of_ne own) (omits_cancelled own)

/-- What is handed out is recorded. -/
theorem takeDue (h : c.Kept policy) (now : Instant) :
  (c.step (.takeDue now)).Kept policy
  := by
  refine ⟨h.inForce, ?_⟩
  intro x
  change Told policy x (.taken now (c.queue.due now) :: c.records)
    ((c.queue.takeDue now).2.pending.get? x)
  by_cases mem : x ∈ c.queue.due now
  · obtain ⟨p, found, isDue⟩ := mem_due_iff.mp mem
    rw [get?_takeDue, found, Option.map_some, if_pos isDue]
    exact (h.pending found).take mem
  · apply h.of_omits
    · rw [get?_takeDue]
      cases found : c.queue.pending.get? x with
      | none => rfl
      | some p =>
        have early : ¬PendingRetry.isDue p now = true := fun isDue =>
          mem (mem_due_iff.mpr ⟨p, found, isDue⟩)
        rw [Option.map_some, if_neg early]
    · exact ⟨rfl, Bool.eq_false_iff.mpr (mt List.contains_iff_mem.mp mem), rfl⟩

/-- A clearing is recorded. -/
theorem clear (h : c.Kept policy) :
  (c.step .clear).Kept policy
  := by
  refine ⟨h.inForce, ?_⟩
  intro x
  exact failures_cons _ _

/-- Every operation is recorded. -/
theorem step (h : c.Kept policy) (action : Action) :
  (c.step action).Kept policy
  := by
  cases action with
  | schedule y now => exact h.schedule y now
  | cancel y => exact h.cancel y
  | takeDue now => exact h.takeDue now
  | clear => exact h.clear

/-- The queue of every run holds what the records say. -/
theorem run (policy : RetryPolicy) (actions : List Action) :
  (Chronicle.run policy actions).Kept policy
  := by
  induction actions using List.reverseRecOn with
  | nil => exact .new policy
  | append_singleton actions action ih =>
    rw [Chronicle.run, List.foldl_append]
    exact ih.step action

end Kept

end Chronicle

end RetryQueue

end Instrumentation
