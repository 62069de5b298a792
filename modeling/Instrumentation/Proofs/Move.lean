import Instrumentation.Proofs.Session

/-!
# Moves

Between two calls an operation changes the view of the engine in a few ways only. A move is one
such change, together with the calls that wait before and after it: an install registers its
instrument and asks for its unit, a patch that is in place makes an instrument live, a removal
takes one out, and so on. Operations that do many of these things do them one after another, so
that whatever every move preserves holds in every session.

A call is answered where its operation has it on top of the calls that wait. The operation has
seen nothing of what others did since the call was made, which is why a move of an answered call
looks its identity up again.
-/

namespace Instrumentation

/-- What a session shows: the view of its engine and the calls that wait, the last one first. -/
structure Position where
  /-- The view of the engine. -/
  view : View
  /-- The calls that wait for an answer. -/
  calls : List Call

/-- The position of a session. -/
def Session.position (s : Session) : Position := { view := s.engine.view, calls := s.calls }

/-- The calls of which something holds wait on when another one is answered. -/
theorem Call.waits_on {α : Type} {holds : Call → α → Prop} {head : Call} {calls later : List Call}
    (other : ∀ a, ¬holds head a) (waits : calls ⊆ later) :
  ∀ call ∈ head :: calls, ∀ a, holds call a → call ∈ later
  := by
  intro call mem a h
  rcases List.mem_cons.mp mem with rfl | mem
  · exact absurd h (other a)
  · apply waits mem

/-- Some operation may start while these calls wait. -/
def Starts.Opens (starts : Starts) (calls : List Call) : Prop := ∃ v op, starts v calls op

/-- The failure with which an install is given up whose unit is not loaded at `now`. -/
inductive RetryQueue.GivesUp (q : RetryQueue) (r : Registration) (now : Instant) :
    InstrumentError → Prop where
  /-- The instrument does not wait. -/
  | immediate (h : r.instrument.applyImmediately = true) :
      GivesUp q r now (.targetNotFound r.id r.instrument.unitName)
  /-- The attempt was the last one. -/
  | exhausted (h : r.instrument.applyImmediately = false) (attempts : UInt32)
      (last : (q.schedule r.id now).1 = .exhausted attempts) :
      GivesUp q r now (.retriesExhausted r.id attempts)

/-- An install that waits at one time is not given up at another. -/
theorem RetryQueue.not_givesUp {q : RetryQueue} {r : Registration} {now dueAt : Instant}
    {attempts : UInt32} (patient : r.instrument.applyImmediately = false)
    (scheduled : (q.schedule r.id now).1 = .scheduled dueAt attempts) (now' : Instant)
    (err : InstrumentError) :
  ¬q.GivesUp r now' err
  := by
  intro givesUp
  cases givesUp with
  | immediate h => simp [h] at patient
  | exhausted _ attempts last =>
    rw [schedule] at scheduled last
    dsimp only at scheduled last
    split at scheduled
    next => cases scheduled
    next more =>
      rw [if_neg more] at last
      cases last

/-- The cause of a removal for a given cause, after the answer to its unpatch. -/
def Registration.causeAfter (r : Registration) (cause : Option String) :
    Except TransformError Unit → Option String
  | .ok _ => cause
  | .error source => cause <|> some (InstrumentError.unpatchFailed r.id source).message

namespace View

/-- The view once an identity is detached and its deferred install cancelled. -/
def detach (v : View) (x : InstrumentId) : View :=
  { v with registry := (v.registry.detach x).2, retries := v.retries.cancel x }

/-- The view once an identity is promoted and its deferred install cancelled. -/
def promote (v : View) (x : InstrumentId) : View :=
  { v with registry := (v.registry.promote x).2, retries := v.retries.cancel x }

/-- The event of an install that fails, unless its identity was removed before. -/
def failure (v : View) (r : Registration) (err : InstrumentError) (t : Instant) : List Entry :=
  if v.registry.contains r.id then
    [.published (some r.serial) (.removed r.instrument (some err.message) t)]
  else []

/-- The view once an install has failed. -/
def abandon (v : View) (r : Registration) (err : InstrumentError) (t : Instant) : View :=
  (v.detach r.id).add (v.failure r err t)

/-- A detachment is one of the registry. -/
@[simp]
theorem registry_detach (v : View) (x : InstrumentId) :
  (v.detach x).registry = (v.registry.detach x).2
  := rfl

/-- A detachment is not in the history. -/
@[simp]
theorem history_detach (v : View) (x : InstrumentId) :
  (v.detach x).history = v.history
  := rfl

/-- A promotion is one of the registry. -/
@[simp]
theorem registry_promote (v : View) (x : InstrumentId) :
  (v.promote x).registry = (v.registry.promote x).2
  := rfl

/-- A promotion is not in the history. -/
@[simp]
theorem history_promote (v : View) (x : InstrumentId) :
  (v.promote x).history = v.history
  := rfl

/-- An install that has failed adds its event. -/
@[simp]
theorem history_abandon (v : View) (r : Registration) (err : InstrumentError) (t : Instant) :
  (v.abandon r err t).history = v.history ++ v.failure r err t
  := rfl

/-- An entry more does not change what a failure publishes. -/
@[simp]
theorem failure_add (v : View) (entries : List Entry) (r : Registration) (err : InstrumentError)
    (t : Instant) :
  (v.add entries).failure r err t = v.failure r err t
  := rfl

/-- An install that fails is published if its identity is registered. -/
theorem failure_of_registered {v : View} {r s : Registration}
    (registered : v.registry.get? r.id = some s) (err : InstrumentError) (t : Instant) :
  v.failure r err t = [.published (some r.serial) (.removed r.instrument (some err.message) t)]
  := by
  simp [failure, Registry.contains, registered]

/-- An install that fails is not published if its identity was removed before. -/
theorem failure_of_free {v : View} {r : Registration} (free : v.registry.get? r.id = none)
    (err : InstrumentError) (t : Instant) :
  v.failure r err t = []
  := by
  simp [failure, Registry.contains, free]

/-- The event of an install that fails is about its registration. -/
theorem serial?_of_mem_failure {v : View} {r : Registration} {err : InstrumentError}
    {t : Instant} {entry : Entry} (h : entry ∈ v.failure r err t) :
  entry.serial? = some r.serial
  := by
  rw [failure] at h
  split at h
  · rw [List.mem_singleton.mp h]
    rfl
  · cases h

/-- What follows the answer that a unit is not loaded is about the registration of the call. -/
theorem serial?_of_mem_fail (v : View) (r : Registration) (err : InstrumentError) (t : Instant) :
  ∀ entry ∈ [(Call.resolve r).answered false] ++ v.failure r err t, entry.serial? = some r.serial
  := by
  refine List.forall_mem_append.mpr ⟨List.forall_mem_singleton.mpr rfl, ?_⟩
  intro entry mem
  apply serial?_of_mem_failure mem

/-- What follows the answer that a patch failed is about the registration of the call. -/
theorem serial?_of_mem_reject (v : View) (r : Registration) (source : TransformError)
    (t : Instant) :
  ∀ entry ∈ [(Call.patch r).answered (.error source)] ++ v.failure r (.patchFailed r.id source) t
    ++ [(Call.restore r).asked], entry.serial? = some r.serial
  := by
  refine List.forall_mem_append.mpr ⟨?_, List.forall_mem_singleton.mpr rfl⟩
  refine List.forall_mem_append.mpr ⟨List.forall_mem_singleton.mpr rfl, ?_⟩
  intro entry mem
  apply serial?_of_mem_failure mem

end View

/-- One change that an operation makes, under a conduct. -/
inductive Move (c : Conduct) : Position → Position → Prop where
  /-- A hit is counted. -/
  | touch (v : View) (calls : List Call) (x : InstrumentId) (f : Registration → Registration)
      (alike : ∀ r, (f r).Alike r) :
      Move c ⟨v, calls⟩ ⟨{ v with registry := v.registry.modify x f }, calls⟩
  /-- An instrument is refused because its condition cannot be read. -/
  | refuse (v : View) (calls : List Call) (i : Instrument) (err : InstrumentError) (t : Instant)
      (free : v.registry.get? i.id = none) (invalid : Candidate.ofInstrument i = .error err) :
      Move c ⟨v, calls⟩
        ⟨v.add [.published none (.removed i (some err.message) t)], calls⟩
  /-- A command is refused, or has failed in part. -/
  | complain (v : View) (calls : List Call) (raw : Json) (cause : String) (t : Instant) :
      Move c ⟨v, calls⟩ ⟨v.add [.published none (.commandFailed raw cause t)], calls⟩
  /-- The deferred installs that are due are taken up. -/
  | takeDue (v : View) (calls : List Call) (now : Instant) :
      Move c ⟨v, calls⟩ ⟨{ v with retries := (v.retries.takeDue now).2 }, calls⟩
  /-- A deferred install is forgotten that is no longer applying. -/
  | forget (v : View) (calls : List Call) (x : InstrumentId)
      (gone : v.registry.getApplying? x = none) :
      Move c ⟨v, calls⟩ ⟨{ v with retries := v.retries.cancel x }, calls⟩
  /-- An instrument is registered, and its unit asked for. -/
  | register (v : View) (calls : List Call) (i : Instrument) (candidate : Candidate)
      (r : Registration) (g : Registry) (opens : c.starts.Opens calls)
      (valid : Candidate.ofInstrument i = .ok candidate)
      (fresh : v.registry.reserve candidate = (.fresh r, g)) :
      Move c ⟨v, calls⟩
        ⟨{ v with registry := g }.add [(Call.resolve r).asked], .resolve r :: calls⟩
  /-- A deferred install is attempted again, and its unit asked for. -/
  | attempt (v : View) (calls : List Call) (x : InstrumentId) (r : Registration)
      (opens : c.starts.Opens calls) (applying : v.registry.getApplying? x = some r) :
      Move c ⟨v, calls⟩ ⟨v.add [(Call.resolve r).asked], .resolve r :: calls⟩
  /-- The unit is loaded, and is patched. -/
  | found (v : View) (calls : List Call) (r : Registration)
      (may : c.answers v (.resolve r) true) :
      Move c ⟨v, .resolve r :: calls⟩
        ⟨v.add [(Call.resolve r).answered true, (Call.patch r).asked], .patch r :: calls⟩
  /-- The unit is not loaded, and the install waits. -/
  | defer (v : View) (calls : List Call) (r : Registration) (now dueAt : Instant)
      (attempts : UInt32) (may : c.answers v (.resolve r) false)
      (patient : r.instrument.applyImmediately = false)
      (scheduled : (v.retries.schedule r.id now).1 = .scheduled dueAt attempts) :
      Move c ⟨v, .resolve r :: calls⟩
        ⟨{ v with retries := (v.retries.schedule r.id now).2 }.add
          [(Call.resolve r).answered false], calls⟩
  /-- The unit is not loaded, and the install is given up. -/
  | fail (v : View) (calls : List Call) (r : Registration) (now : Instant)
      (err : InstrumentError) (t : Instant) (may : c.answers v (.resolve r) false)
      (givesUp : v.retries.GivesUp r now err) :
      Move c ⟨v, .resolve r :: calls⟩
        ⟨(v.add [(Call.resolve r).answered false]).abandon r err t, calls⟩
  /-- The unit could not be patched. The install is given up, and the patch taken back. -/
  | reject (v : View) (calls : List Call) (r : Registration) (source : TransformError)
      (t : Instant) (may : c.answers v (.patch r) (.error source)) :
      Move c ⟨v, .patch r :: calls⟩
        ⟨((v.add [(Call.patch r).answered (.error source)]).abandon r
          (.patchFailed r.id source) t).add [(Call.restore r).asked], .restore r :: calls⟩
  /-- The patch is in place, and an instrument becomes live. -/
  | confirm (v : View) (calls : List Call) (r s : Registration) (t : Instant)
      (may : c.answers v (.patch r) (.ok ()))
      (promoted : (v.registry.promote r.id).1 = some s) :
      Move c ⟨v, .patch r :: calls⟩
        ⟨((v.add [(Call.patch r).answered (.ok ())]).promote r.id).add
          [.published (some r.serial) (.applied r.instrument t)], calls⟩
  /-- The patch is in place for an instrument that is no longer applying, and is taken back. -/
  | revert (v : View) (calls : List Call) (r : Registration)
      (may : c.answers v (.patch r) (.ok ()))
      (refused : (v.registry.promote r.id).1 = none) :
      Move c ⟨v, .patch r :: calls⟩
        ⟨((v.add [(Call.patch r).answered (.ok ())]).promote r.id).add [(Call.restore r).asked],
          .restore r :: calls⟩
  /-- An install has taken its patch back. -/
  | settle (v : View) (calls : List Call) (r : Registration) (answer : Except TransformError Unit)
      (may : c.answers v (.restore r) answer) :
      Move c ⟨v, .restore r :: calls⟩ ⟨v.add [(Call.restore r).answered answer], calls⟩
  /-- An applying instrument is removed. -/
  | drop (v : View) (calls : List Call) (x : InstrumentId) (r : Registration)
      (cause : Option String) (t : Instant) (opens : c.starts.Opens calls)
      (detached : (v.registry.detach x).1 = some r) (applying : r.isLive = false) :
      Move c ⟨v, calls⟩
        ⟨(v.detach x).add [.published (some r.serial) (.removed r.instrument cause t)], calls⟩
  /-- A live instrument is taken out, and its patch taken back. -/
  | withdraw (v : View) (calls : List Call) (x : InstrumentId) (r : Registration)
      (opens : c.starts.Opens calls) (detached : (v.registry.detach x).1 = some r)
      (live : r.isLive = true) :
      Move c ⟨v, calls⟩ ⟨(v.detach x).add [(Call.withdraw r).asked], .withdraw r :: calls⟩
  /-- The removal of a live instrument is over. -/
  | part (v : View) (calls : List Call) (r : Registration) (answer : Except TransformError Unit)
      (cause : Option String) (t : Instant) (may : c.answers v (.withdraw r) answer) :
      Move c ⟨v, .withdraw r :: calls⟩
        ⟨v.add [(Call.withdraw r).answered answer,
          .published (some r.serial) (.removed r.instrument (r.causeAfter cause answer) t)], calls⟩
  /-- Everything is dropped. -/
  | clear (v : View) (calls : List Call) (may : c.starts v calls .clear) :
      Move c ⟨v, calls⟩
        ⟨{ v with registry := v.registry.clear.2, retries := v.retries.clear }, calls⟩

/-- Finitely many changes. -/
abbrev Moves (c : Conduct) : Position → Position → Prop := Relation.ReflTransGen (Move c)

/-- What every move preserves holds after moves if it held before. -/
theorem Moves.preserve {c : Conduct} {holds : Position → Prop}
    (preserved : ∀ {p q}, Move c p q → holds p → holds q) {p q : Position}
    (moves : Moves c p q) (h : holds p) :
  holds q
  := by
  induction moves with
  | refl => exact h
  | tail _ move ih => apply preserved move ih

end Instrumentation
