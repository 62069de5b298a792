import Instrumentation.Proofs.Reply
import Instrumentation.Proofs.Trace

/-!
# Removals during an install

An instrument may be removed while an attempt to install it waits for an answer. Then the attempt
finds nothing applying when it goes on, and takes its patch back. The removal wins: the instrument
is never live, its removal is published once, and every patch is reversed.

This needs that the instrument was still applying when it was removed. An instrument of which an
attempt waits can be live: another attempt of it, or an attempt of an earlier instrument of its
identity, may have made it so.
-/

namespace Instrumentation

namespace Entry

/-- The request of an entry that a call was made. -/
def request? : Entry → Option Request
  | asked _ request => some request
  | _ => none

/-- The event of an entry that one was published. -/
def event? : Entry → Option Event
  | published _ event => some event
  | _ => none

end Entry

namespace Call

/-- The call inserts a patch. -/
def isPatch : Call → Bool
  | patch _ => true
  | _ => false

/-- The call is made by an attempt to install a registration. -/
def Attempts (n : Nat) : Call → Prop
  | resolve r => r.serial = n
  | patch r => r.serial = n
  | _ => False

/-- The call is made by the attempt to install some registration. -/
def IsAttempt (call : Call) : Prop := call.Attempts call.registration.serial

end Call

/-- The requests are about the unit of an instrument, and its patch was requested so many times
more than it was reversed. It is reversed only after it was requested. -/
inductive Unreversed (i : Instrument) : Nat → List Request → Prop where
  /-- Nothing was requested. -/
  | nil : Unreversed i 0 []
  /-- The unit is asked for. -/
  | resolve {k : Nat} {requests : List Request} (h : Unreversed i k requests) :
      Unreversed i k (requests ++ [.resolve i.unitName])
  /-- A patch is inserted, which is to be reversed. -/
  | patch {k : Nat} {requests : List Request} (h : Unreversed i k requests) :
      Unreversed i (k + 1) (requests ++ [.patch i.unitName i.patchSpec])
  /-- A patch is reversed. -/
  | unpatch {k : Nat} {requests : List Request} (h : Unreversed i (k + 1) requests) :
      Unreversed i k (requests ++ [.unpatch i.unitName i.patchSpec])

/-- The instrument was attempted, with so many events. The calls of its attempts wait, and every
patch that was answered has been reversed. -/
structure Attempted (i : Instrument) (events : List Event) (trace : List Entry)
    (calls : List Call) : Prop where
  /-- The calls are made for the instrument. -/
  instrument : ∀ call ∈ calls, call.registration.instrument = i
  /-- No call is made by the removal of a live instrument. -/
  installs : ∀ r, .withdraw r ∉ calls
  /-- The patches that are not reversed are those not answered. -/
  unreversed : Unreversed i (calls.countP Call.isPatch) (trace.filterMap Entry.request?)
  /-- The events. -/
  events : trace.filterMap Entry.event? = events

namespace Attempted

variable {i : Instrument} {events : List Event} {trace : List Entry} {calls : List Call}
  {call : Call} {r : Registration} {n : Nat}

/-- An answer. -/
theorem answered (h : Attempted i events trace calls) (request : Request)
    (answer : request.Answer) :
  Attempted i events (trace ++ [.answered n request answer]) calls
  := by
  constructor
  · exact h.instrument
  · exact h.installs
  · simpa [List.filterMap_cons, Entry.request?] using h.unreversed
  · simpa [List.filterMap_cons, Entry.event?] using h.events

/-- An event. -/
theorem published (h : Attempted i events trace calls) (serial : Option Nat) (event : Event) :
  Attempted i (events ++ [event]) (trace ++ [.published serial event]) calls
  := by
  constructor
  · exact h.instrument
  · exact h.installs
  · simpa [List.filterMap_cons, Entry.request?] using h.unreversed
  · simp [Entry.event?, h.events]

/-- A call is over that inserts no patch. -/
theorem pop (h : Attempted i events trace (call :: calls)) (other : call.isPatch = false) :
  Attempted i events trace calls
  := by
  constructor
  · intro call mem
    apply h.instrument call (.tail _ mem)
  · intro r mem
    apply h.installs r (.tail _ mem)
  · simpa [List.countP_cons, other] using h.unreversed
  · exact h.events

/-- The unit is asked for. -/
theorem resolve (h : Attempted i events trace calls) (own : r.instrument = i) :
  Attempted i events (trace ++ [(Call.resolve r).asked]) (.resolve r :: calls)
  := by
  subst own
  constructor
  · exact List.forall_mem_cons.mpr ⟨rfl, h.instrument⟩
  · simpa using h.installs
  · simpa [List.countP_cons, List.filterMap_cons, Call.isPatch, Entry.request?]
      using h.unreversed.resolve
  · simpa [List.filterMap_cons, Entry.event?] using h.events

/-- A patch is inserted. -/
theorem patch (h : Attempted i events trace (.resolve r :: calls)) :
  Attempted i events (trace ++ [(Call.patch r).asked]) (.patch r :: calls)
  := by
  obtain rfl : r.instrument = i := h.instrument _ (.head _)
  constructor
  · exact List.forall_mem_cons.mpr ⟨rfl, (h.pop rfl).instrument⟩
  · simpa using (h.pop rfl).installs
  · simpa [List.countP_cons, List.filterMap_cons, Call.isPatch, Entry.request?]
      using (h.pop rfl).unreversed.patch
  · simpa [List.filterMap_cons, Entry.event?] using h.events

/-- A patch is reversed. -/
theorem restore (h : Attempted i events trace (.patch r :: calls)) :
  Attempted i events (trace ++ [(Call.restore r).asked]) (.restore r :: calls)
  := by
  obtain rfl : r.instrument = i := h.instrument _ (.head _)
  have unreversed := h.unreversed
  simp only [List.countP_cons, Call.isPatch, if_true] at unreversed
  constructor
  · intro call mem
    rcases List.mem_cons.mp mem with rfl | mem
    · rfl
    · apply h.instrument call (.tail _ mem)
  · simpa using h.installs
  · simpa [List.countP_cons, List.filterMap_cons, Call.isPatch, Entry.request?]
      using unreversed.unpatch
  · simpa [List.filterMap_cons, Entry.event?] using h.events

end Attempted

/-- The calls that wait for a registration. -/
def ownCalls (n : Nat) (calls : List Call) : List Call :=
  calls.filter fun call => call.registration.serial = n

section OwnCalls

variable {n : Nat} {calls : List Call}

/-- A call for the registration. -/
theorem ownCalls_cons_self (call : Call) (own : call.registration.serial = n) :
  ownCalls n (call :: calls) = call :: ownCalls n calls
  := List.filter_cons_of_pos (decide_eq_true own)

/-- A call for another registration. -/
theorem ownCalls_cons_other (call : Call) (other : call.registration.serial ≠ n) :
  ownCalls n (call :: calls) = ownCalls n calls
  := List.filter_cons_of_neg (by simpa using other)

/-- A call for another registration, and the next one for it. -/
theorem ownCalls_replace (call next : Call) (same : next.registration = call.registration)
    (other : call.registration.serial ≠ n) :
  ownCalls n (next :: calls) = ownCalls n (call :: calls)
  := by
  rw [ownCalls_cons_other call other, ownCalls_cons_other next (same ▸ other)]

end OwnCalls

/-- An applying instrument that is registered under a number. -/
theorem Place.Holds.instrument_eq {g : Registry} {n : Nat} {i : Instrument} (w : g.WellKept)
    (h : applying.Holds g n i) {x : InstrumentId} {r : Registration}
    (registered : g.get? x = some r) (own : r.serial = n) :
  r.instrument = i
  := by
  obtain ⟨s, found, rfl, rfl⟩ := h
  rw [w.eq_of_serial registered (w.get?_of_applying found) own]

/-- An identity that is detached is not applying. -/
theorem Place.Holds.not_applying_detach {g : Registry} {n : Nat} {i : Instrument}
    (w : g.WellKept) {x : InstrumentId} (id : x = i.id) :
  ¬applying.Holds (g.detach x).2 n i
  := by
  rintro ⟨s, found, -⟩
  rw [w.applying_detach, if_pos id.symm] at found
  cases found

/-- An identity that is promoted is not applying. -/
theorem Place.Holds.not_applying_promote {g : Registry} {n : Nat} {i : Instrument}
    {s : Registration} (w : g.WellKept) {x : InstrumentId} (promoted : (g.promote x).1 = some s)
    (id : x = i.id) :
  ¬applying.Holds (g.promote x).2 n i
  := by
  rintro ⟨s, found, -⟩
  rw [w.applying_promote promoted, if_pos id.symm] at found
  cases found

/-- An applying instrument is registered. -/
theorem Place.Holds.not_gone {g : Registry} {n : Nat} {i : Instrument} (w : g.WellKept)
    (h : applying.Holds g n i) :
  ¬gone.Holds g n i
  := by
  intro gone
  obtain ⟨s, found, serial, -⟩ := h
  apply gone _ s (w.get?_of_applying found) serial

namespace Position

variable {p q : Position} {n : Nat} {i : Instrument}

/-- The registration is applying, and no event was published about it, or it has left the
registry, and its removal was published once. -/
inductive Unapplied (p : Position) (n : Nat) (i : Instrument) : Prop where
  /-- It is applying. -/
  | applying (holds : Place.applying.Holds p.view.registry n i)
      (h : Attempted i [] (p.view.trace n) (ownCalls n p.calls))
  /-- It was removed. -/
  | removed (cause : Option String) (t : Instant)
      (holds : Place.gone.Holds p.view.registry n i)
      (h : Attempted i [.removed i cause t] (p.view.trace n) (ownCalls n p.calls))

/-- The call that was made last is answered. It attempts an instrument of the identity. -/
def Decides (c : Conduct) (p : Position) (i : Instrument) : Prop :=
  ∃ call rest answer, p.calls = call :: rest ∧ c.answers p.view call answer ∧ call.IsAttempt
    ∧ call.registration.id = i.id

namespace Unapplied

/-- A registration that stays in its place, while its attempts go on. -/
theorem keep (h : p.Unapplied n i)
    (holds : ∀ {place : Place}, place.Holds p.view.registry n i
      → place.Holds q.view.registry n i)
    (attempted : ∀ {events}, Attempted i events (p.view.trace n) (ownCalls n p.calls)
      → Attempted i events (q.view.trace n) (ownCalls n q.calls)) :
  q.Unapplied n i
  := by
  cases h with
  | applying there h => exact .applying (holds there) (attempted h)
  | removed cause t there h => exact .removed cause t (holds there) (attempted h)

/-- A registration that stays in its place, while something happens that is not about it. -/
theorem aside (h : p.Unapplied n i)
    (holds : ∀ {place : Place}, place.Holds p.view.registry n i
      → place.Holds q.view.registry n i)
    (entries : List Entry) (history : q.view.history = p.view.history ++ entries)
    (others : ∀ entry ∈ entries, entry.serial? ≠ some n)
    (calls : ownCalls n q.calls = ownCalls n p.calls) :
  q.Unapplied n i
  := by
  apply h.keep holds
  intro events attempted
  rw [View.trace_eq history others, calls]
  exact attempted

/-- A registration that stays in its place, while something happens to one that may be another. -/
theorem step (h : p.Unapplied n i) (r : Registration)
    (holds : ∀ {place : Place}, place.Holds p.view.registry n i
      → place.Holds q.view.registry n i)
    (entries : List Entry) (history : q.view.history = p.view.history ++ entries)
    (about : ∀ entry ∈ entries, entry.serial? = some r.serial)
    (others : r.serial ≠ n → ownCalls n q.calls = ownCalls n p.calls)
    (attempted : r.serial = n → ∀ {events},
      Attempted i events (p.view.trace n) (ownCalls n p.calls)
        → Attempted i events (p.view.trace n ++ entries) (ownCalls n q.calls)) :
  q.Unapplied n i
  := by
  by_cases own : r.serial = n
  · apply h.keep holds
    intro events before
    rw [View.trace_append history (own ▸ about)]
    exact attempted own before
  · apply h.aside holds entries history _ (others own)
    intro entry mem eq
    exact own (Option.some.inj ((about entry mem).symm.trans eq))

/-- Its attempts, with some events. -/
theorem attempted (h : p.Unapplied n i) :
  ∃ events, Attempted i events (p.view.trace n) (ownCalls n p.calls)
  := by
  cases h with
  | applying _ h => exact ⟨_, h⟩
  | removed _ _ _ h => exact ⟨_, h⟩

/-- Its calls are made for its instrument. -/
theorem instrument_eq (h : p.Unapplied n i) {call : Call} (waits : call ∈ p.calls)
    (own : call.registration.serial = n) :
  call.registration.instrument = i
  := by
  obtain ⟨events, attempted⟩ := h.attempted
  exact attempted.instrument call (List.mem_filter.mpr ⟨waits, decide_eq_true own⟩)

/-- No removal of it waits. -/
theorem installs (h : p.Unapplied n i) {r : Registration} (waits : .withdraw r ∈ p.calls) :
  r.serial ≠ n
  := by
  intro own
  obtain ⟨events, attempted⟩ := h.attempted
  exact attempted.installs r (List.mem_filter.mpr ⟨waits, decide_eq_true own⟩)

/-- If it is registered, it is applying. -/
theorem holds_applying (h : p.Unapplied n i) {x : InstrumentId} {r : Registration}
    (registered : p.view.registry.get? x = some r) (own : r.serial = n) :
  Place.applying.Holds p.view.registry n i
  := by
  cases h with
  | applying holds => exact holds
  | removed cause t holds => exact absurd own (holds x r registered)

/-- A registration that has left the registry, with entries about it. -/
theorem leave (v : View) (cause : Option String) (t : Instant)
    (holds : Place.gone.Holds q.view.registry n i)
    (entries : List Entry) (history : q.view.history = v.history ++ entries)
    (about : ∀ entry ∈ entries, entry.serial? = some n)
    (attempted : Attempted i [.removed i cause t] (v.trace n ++ entries)
      (ownCalls n q.calls)) :
  q.Unapplied n i
  := by
  apply removed cause t holds
  rw [View.trace_append history about]
  exact attempted

/-- An install that fails has left the registry then. Its removal is published if it was not
before. -/
theorem fails {v : View} {calls : List Call} {r : Registration}
    (h : Position.Unapplied ⟨v, calls⟩ r.serial r.instrument) (w : v.registry.WellKept)
    (spares : Place.gone.Holds v.registry r.serial r.instrument → v.registry.get? r.id = none)
    (err : InstrumentError) (t : Instant) :
  Place.gone.Holds (v.registry.detach r.id).2 r.serial r.instrument
    ∧ ∃ cause t', ∀ {trace calls'},
      (∀ {events}, Attempted r.instrument events (v.trace r.serial) (ownCalls r.serial calls)
        → Attempted r.instrument events trace calls')
      → Attempted r.instrument [.removed r.instrument cause t'] (trace ++ v.failure r err t)
          calls'
  := by
  cases h with
  | applying holds h =>
    obtain ⟨s, registered, serial⟩ := holds.registered w
    constructor
    · rw [← serial]
      exact Place.Holds.detached w registered
    · use some err.message, t
      intro trace calls' goesOn
      rw [View.failure_of_registered registered]
      exact (goesOn h).published _ _
  | removed cause t' holds h =>
    have free := spares holds
    constructor
    · intro y s found
      rw [w.get?_detach] at found
      split at found
      next => cases found
      next => exact holds y s found
    · use cause, t'
      intro trace calls' goesOn
      rw [View.failure_of_free free, List.append_nil]
      exact goesOn h

/-- It is not registered under an identity that is not its own. -/
theorem elsewhere (h : p.Unapplied n i) (w : p.view.registry.WellKept) {x : InstrumentId}
    (apart : ¬(Place.applying.Holds p.view.registry n i ∧ x = i.id)) :
  ∀ s, p.view.registry.get? x = some s → s.serial ≠ n
  := by
  intro s registered own
  have holds := h.holds_applying registered own
  apply apart
  use holds
  rw [← w.id_eq registered, ← holds.instrument_eq w registered own]
  rfl

/-- It stays in its place while another one is detached, with entries about that one. -/
theorem spared (h : p.Unapplied n i) (w : p.view.registry.WellKept)
    (old : n < p.view.registry.nextSerial) {x : InstrumentId} {r : Registration}
    (other : r.serial ≠ n) (free : ∀ s, p.view.registry.get? x = some s → s.serial ≠ n)
    (registry : q.view.registry = (p.view.registry.detach x).2)
    (entries : List Entry) (history : q.view.history = p.view.history ++ entries)
    (about : ∀ entry ∈ entries, entry.serial? = some r.serial)
    (calls : ownCalls n q.calls = ownCalls n p.calls) :
  q.Unapplied n i
  := by
  refine h.aside ?_ entries history ?_ calls
  · intro place holds
    rw [registry]
    apply holds.detach w old free
  · intro entry mem eq
    exact other (Option.some.inj ((about entry mem).symm.trans eq))

/-! ### What each move does to it -/

variable {v : View} {calls : List Call} {r : Registration}

/-- Another instrument is registered. -/
theorem register (h : Position.Unapplied ⟨v, calls⟩ n i) (w : v.registry.WellKept)
    (old : n < v.registry.nextSerial) {candidate : Candidate} {g : Registry}
    (fresh : v.registry.reserve candidate = (.fresh r, g)) :
  Position.Unapplied
    ⟨{ v with registry := g }.add [(Call.resolve r).asked], .resolve r :: calls⟩ n i
  := by
  have other : r.serial ≠ n := by
    rw [(Registry.reserve_fresh fresh).2.1]
    exact (Nat.ne_of_lt old).symm
  refine h.aside ?_ [(Call.resolve r).asked] rfl ?_ ?_
  · intro place holds
    apply holds.reserve w old fresh
  · simpa [Entry.serial?, Call.registration] using other
  · apply ownCalls_cons_other (.resolve r) other

/-- A deferred install is attempted again. -/
theorem attempt (h : Position.Unapplied ⟨v, calls⟩ n i) (w : v.registry.WellKept)
    {x : InstrumentId} (applying : v.registry.applying.get? x = some r) :
  Position.Unapplied ⟨v.add [(Call.resolve r).asked], .resolve r :: calls⟩ n i
  := by
  refine h.step r (fun holds => holds) [(Call.resolve r).asked] rfl ?_ ?_ ?_
  · simp [Entry.serial?, Call.registration]
  · intro other
    apply ownCalls_cons_other (.resolve r) other
  · intro own events attempted
    have registered := w.get?_of_applying applying
    rw [ownCalls_cons_self (.resolve r) own]
    apply attempted.resolve
    apply (h.holds_applying registered own).instrument_eq w registered own

/-- A unit is loaded, and is patched. -/
theorem found (h : Position.Unapplied ⟨v, .resolve r :: calls⟩ n i) :
  Position.Unapplied
    ⟨v.add [(Call.resolve r).answered true, (Call.patch r).asked], .patch r :: calls⟩ n i
  := by
  refine h.step r (fun holds => holds)
    [(Call.resolve r).answered true, (Call.patch r).asked] rfl ?_ ?_ ?_
  · simp [Entry.serial?, Call.registration]
  · intro other
    apply ownCalls_replace (.resolve r) (.patch r) rfl other
  · intro own events attempted
    rw [ownCalls_cons_self (.resolve r) own] at attempted
    rw [ownCalls_cons_self (.patch r) own]
    have answered := attempted.answered (n := r.serial) (Call.resolve r).request true
    have patched := answered.patch
    rw [List.append_assoc] at patched
    exact patched

/-- A unit is not loaded, and the install waits. -/
theorem defer (h : Position.Unapplied ⟨v, .resolve r :: calls⟩ n i) (queue : RetryQueue) :
  Position.Unapplied ⟨{ v with retries := queue }.add [(Call.resolve r).answered false], calls⟩ n i
  := by
  refine h.step r (fun holds => holds) [(Call.resolve r).answered false] rfl ?_ ?_ ?_
  · simp [Entry.serial?, Call.registration]
  · intro other
    exact (ownCalls_cons_other (.resolve r) other).symm
  · intro own events attempted
    rw [ownCalls_cons_self (.resolve r) own] at attempted
    exact (attempted.pop rfl).answered (Call.resolve r).request false

/-- A unit is not loaded, and the install is given up. It may have the identity of another one that
is applying. -/
theorem fail (h : Position.Unapplied ⟨v, .resolve r :: calls⟩ n i) (w : v.registry.WellKept)
    (old : n < v.registry.nextSerial)
    (spares : Place.gone.Holds v.registry n i → r.serial = n → v.registry.get? r.id = none)
    (err : InstrumentError) (t : Instant) :
  Position.Unapplied ⟨(v.add [(Call.resolve r).answered false]).abandon r err t, calls⟩ n i
    ∨ Place.applying.Holds v.registry n i ∧ r.id = i.id
  := by
  have about := v.serial?_of_mem_fail r err t
  by_cases own : r.serial = n
  · obtain rfl : r.instrument = i := h.instrument_eq (.head _) own
    subst own
    obtain ⟨gone, cause, t', attempted⟩ := h.fails w (fun holds => spares holds rfl) err t
    left
    refine leave v cause t' gone _ (by simp) about ?_
    rw [← List.append_assoc]
    apply attempted
    intro events h
    rw [ownCalls_cons_self (n := r.serial) (.resolve r) rfl] at h
    exact (h.pop rfl).answered (Call.resolve r).request false
  · by_cases claims : Place.applying.Holds v.registry n i ∧ r.id = i.id
    · exact .inr claims
    · left
      apply h.spared w old own (h.elsewhere w claims) rfl _ (by simp) about
      exact (ownCalls_cons_other (.resolve r) own).symm

/-- A unit could not be patched, and the patch is taken back. The install may have the identity of
another one that is applying. -/
theorem reject (h : Position.Unapplied ⟨v, .patch r :: calls⟩ n i) (w : v.registry.WellKept)
    (old : n < v.registry.nextSerial)
    (spares : Place.gone.Holds v.registry n i → r.serial = n → v.registry.get? r.id = none)
    (source : TransformError) (t : Instant) :
  Position.Unapplied ⟨((v.add [(Call.patch r).answered (.error source)]).abandon r
      (.patchFailed r.id source) t).add [(Call.restore r).asked], .restore r :: calls⟩ n i
    ∨ Place.applying.Holds v.registry n i ∧ r.id = i.id
  := by
  have about := v.serial?_of_mem_reject r source t
  by_cases own : r.serial = n
  · obtain rfl : r.instrument = i := h.instrument_eq (.head _) own
    subst own
    obtain ⟨gone, cause, t', attempted⟩ :=
      h.fails w (fun holds => spares holds rfl) (.patchFailed r.id source) t
    left
    refine leave v cause t' gone _ (by simp) about ?_
    rw [ownCalls_cons_self (n := r.serial) (.restore r) rfl, ← List.append_assoc,
      ← List.append_assoc]
    apply Attempted.restore
    apply attempted
    intro events h
    rw [ownCalls_cons_self (n := r.serial) (.patch r) rfl] at h
    apply h.answered (Call.patch r).request (.error source)
  · by_cases claims : Place.applying.Holds v.registry n i ∧ r.id = i.id
    · exact .inr claims
    · left
      apply h.spared w old own (h.elsewhere w claims) rfl _ (by simp) about
      apply ownCalls_replace (.patch r) (.restore r) rfl own

/-- A patch is in place, and an instrument becomes live. It may be this one. -/
theorem confirm (h : Position.Unapplied ⟨v, .patch r :: calls⟩ n i) (w : v.registry.WellKept)
    (old : n < v.registry.nextSerial)
    (spares : Place.gone.Holds v.registry n i → r.serial = n → v.registry.get? r.id = none)
    {s : Registration} (promoted : (v.registry.promote r.id).1 = some s) (t : Instant) :
  Position.Unapplied ⟨((v.add [(Call.patch r).answered (.ok ())]).promote r.id).add
      [.published (some r.serial) (.applied r.instrument t)], calls⟩ n i
    ∨ Place.applying.Holds v.registry n i ∧ r.id = i.id
  := by
  by_cases own : r.serial = n
  · obtain rfl : r.instrument = i := h.instrument_eq (.head _) own
    right
    cases h with
    | applying holds h => exact ⟨holds, rfl⟩
    | removed cause t' holds h =>
      have free := spares holds own
      obtain ⟨before, found, -⟩ := w.promote_some promoted
      cases (w.get?_of_applying found).symm.trans free
  · by_cases claims : Place.applying.Holds v.registry n i ∧ r.id = i.id
    · exact .inr claims
    · left
      refine h.aside ?_
        [(Call.patch r).answered (.ok ()), .published (some r.serial) (.applied r.instrument t)]
        (by simp) ?_ ?_
      · intro place holds
        apply holds.promote w old promoted (h.elsewhere w claims)
      · simpa [Entry.serial?, Call.registration] using own
      · exact (ownCalls_cons_other (.patch r) own).symm

/-- A patch is in place for an instrument that is no longer applying, and is taken back. -/
theorem revert (h : Position.Unapplied ⟨v, .patch r :: calls⟩ n i) (w : v.registry.WellKept)
    (refused : (v.registry.promote r.id).1 = none) :
  Position.Unapplied ⟨((v.add [(Call.patch r).answered (.ok ())]).promote r.id).add
      [(Call.restore r).asked], .restore r :: calls⟩ n i
  := by
  have same {place : Place} (holds : place.Holds v.registry n i) :
      place.Holds (v.registry.promote r.id).2 n i := by
    rw [(w.promote_none refused).2]
    exact holds
  refine h.step r same
    [(Call.patch r).answered (.ok ()), (Call.restore r).asked] (by simp) ?_ ?_ ?_
  · simp [Entry.serial?, Call.registration]
  · intro other
    apply ownCalls_replace (.patch r) (.restore r) rfl other
  · intro own events attempted
    rw [ownCalls_cons_self (.patch r) own] at attempted
    rw [ownCalls_cons_self (.restore r) own]
    have answered := attempted.answered (n := r.serial) (Call.patch r).request (.ok ())
    have restored := answered.restore
    rw [List.append_assoc] at restored
    exact restored

/-- An install has taken its patch back. -/
theorem settle (h : Position.Unapplied ⟨v, .restore r :: calls⟩ n i)
    (answer : Except TransformError Unit) :
  Position.Unapplied ⟨v.add [(Call.restore r).answered answer], calls⟩ n i
  := by
  refine h.step r (fun holds => holds) [(Call.restore r).answered answer] rfl ?_ ?_ ?_
  · simp [Entry.serial?, Call.registration]
  · intro other
    exact (ownCalls_cons_other (.restore r) other).symm
  · intro own events attempted
    rw [ownCalls_cons_self (.restore r) own] at attempted
    exact (attempted.pop rfl).answered (Call.restore r).request answer

/-- An applying instrument is removed. It may be this one. -/
theorem drop (h : Position.Unapplied ⟨v, calls⟩ n i) (w : v.registry.WellKept)
    (old : n < v.registry.nextSerial) {x : InstrumentId}
    (found : v.registry.applying.get? x = some r) (cause : Option String) (t : Instant) :
  Position.Unapplied
    ⟨(v.detach x).add [.published (some r.serial) (.removed r.instrument cause t)], calls⟩ n i
  := by
  have registered := w.get?_of_applying found
  by_cases own : r.serial = n
  · obtain rfl := (h.holds_applying registered own).instrument_eq w registered own
    subst own
    cases h with
    | applying holds h =>
      refine leave v cause t (Place.Holds.detached w registered)
        [.published (some r.serial) (.removed r.instrument cause t)] rfl ?_ ?_
      · simp [Entry.serial?]
      · apply h.published _ _
    | removed cause' t' holds => exact absurd rfl (holds x r registered)
  · refine h.spared w old own (Place.Holds.other registered (Ne.symm own)) rfl
      [.published (some r.serial) (.removed r.instrument cause t)] rfl ?_ rfl
    simp [Entry.serial?]

/-- A live instrument is taken out, and its patch taken back. It is another one. -/
theorem withdraw (h : Position.Unapplied ⟨v, calls⟩ n i) (w : v.registry.WellKept)
    (old : n < v.registry.nextSerial) {x : InstrumentId}
    (found : v.registry.live.get? x = some r) :
  Position.Unapplied
    ⟨(v.detach x).add [(Call.withdraw r.remove).asked], .withdraw r.remove :: calls⟩ n i
  := by
  have registered := Registry.get?_of_live found
  have other : r.serial ≠ n := by
    rintro rfl
    cases (h.holds_applying registered rfl).eq_live w found
  apply h.spared w old other (Place.Holds.other registered other.symm) rfl
    [(Call.withdraw r.remove).asked] rfl
  · simp [Entry.serial?, Call.registration, Registration.remove]
  · apply ownCalls_cons_other (.withdraw r.remove) other

/-- The removal of a live instrument is over. It is another one. -/
theorem part (h : Position.Unapplied ⟨v, .withdraw r :: calls⟩ n i)
    (answer : Except TransformError Unit) (cause : Option String) (t : Instant) :
  Position.Unapplied ⟨v.add [(Call.withdraw r).answered answer,
    .published (some r.serial) (.removed r.instrument cause t)], calls⟩ n i
  := by
  have other := h.installs (.head _)
  refine h.aside (fun holds => holds) [(Call.withdraw r).answered answer,
    .published (some r.serial) (.removed r.instrument cause t)] rfl ?_ ?_
  · simpa [Entry.serial?, Call.registration] using other
  · exact (ownCalls_cons_other (.withdraw r) other).symm

end Unapplied

end Position

namespace Move

variable {c : Conduct} {p q : Position} {n : Nat} {i : Instrument}

/-- A registration that was never live stays so, unless an attempt of its identity is answered
while it is applying. -/
theorem unapplied (move : Move c p q) (keeps : ∀ v calls, ¬c.starts v calls .clear)
    (coherent : p.Coherent) (old : n < p.view.registry.nextSerial) (h : p.Unapplied n i)
    (spares : Place.gone.Holds p.view.registry n i
      → ∀ {call answer}, c.answers p.view call answer → call.Attempts n
        → p.view.registry.get? call.registration.id = none) :
  q.Unapplied n i
    ∨ Place.applying.Holds p.view.registry n i ∧ ¬Place.applying.Holds q.view.registry n i
      ∧ p.Decides c i
  := by
  have w := coherent.wellKept
  cases move with
  | touch v calls x f alike =>
    left
    refine h.aside ?_ [] (by simp) (by simp) rfl
    intro place holds
    exact holds.modify w old x alike
  | refuse | complain =>
    exact .inl (h.aside (fun holds => holds) _ rfl (by simp [Entry.serial?]) rfl)
  | takeDue | forget => exact .inl (h.aside (fun holds => holds) [] (by simp) (by simp) rfl)
  | register v calls j candidate r g opens valid fresh => exact .inl (h.register w old fresh)
  | attempt v calls x r opens applying => exact .inl (h.attempt w applying)
  | found v calls r may => exact .inl h.found
  | defer v calls r now dueAt attempts may patient scheduled => exact .inl (h.defer _)
  | fail v calls r now err t may givesUp =>
    refine (h.fail w old (fun gone => spares gone may) err t).imp_right ?_
    rintro ⟨holds, id⟩
    exact ⟨holds, Place.Holds.not_applying_detach w id, _, _, _, rfl, may, rfl, id⟩
  | reject v calls r source t may =>
    refine (h.reject w old (fun gone => spares gone may) source t).imp_right ?_
    rintro ⟨holds, id⟩
    exact ⟨holds, Place.Holds.not_applying_detach w id, _, _, _, rfl, may, rfl, id⟩
  | confirm v calls r s t may promoted =>
    refine (h.confirm w old (fun gone => spares gone may) promoted t).imp_right ?_
    rintro ⟨holds, id⟩
    exact ⟨holds, Place.Holds.not_applying_promote w promoted id, _, _, _, rfl, may, rfl, id⟩
  | revert v calls r may refused => exact .inl (h.revert w refused)
  | settle v calls r answer may => exact .inl (h.settle answer)
  | drop v calls x r cause t opens detached applying =>
    obtain ⟨s, found, rfl⟩ := w.detach_applying detached applying
    exact .inl (h.drop w old found cause t)
  | withdraw v calls x r opens detached live =>
    obtain ⟨s, found, rfl⟩ := w.detach_live detached live
    exact .inl (h.withdraw w old found)
  | part v calls r answer cause t may => exact .inl (h.part answer _ t)
  | clear v calls may => exact absurd may (keeps v calls)

/-- A move makes no registration, or one for which a unit is asked for. -/
theorem registers (move : Move c p q) :
  q.view.registry.nextSerial = p.view.registry.nextSerial
    ∨ ∃ r, r.serial = p.view.registry.nextSerial ∧ q.calls = .resolve r :: p.calls
      ∧ q.view.history = p.view.history ++ [(Call.resolve r).asked]
      ∧ q.view.registry.nextSerial = r.serial + 1
  := by
  cases move with
  | register v calls i candidate r g opens valid fresh =>
    obtain ⟨-, made, counted⟩ := Registry.reserve_fresh fresh
    have serial : r.serial = v.registry.nextSerial := by
      rw [made]
      rfl
    right
    use r, serial, rfl, rfl
    rw [serial, counted]
    rfl
  | touch => exact .inl (Registry.nextSerial_modify ..)
  | fail | reject | drop | withdraw => exact .inl (Registry.nextSerial_detach ..)
  | confirm | revert => exact .inl (Registry.nextSerial_promote ..)
  | refuse | complain | takeDue | forget | attempt | found | defer | settle | part | clear =>
    exact .inl rfl

end Move

namespace Position

variable {p q : Position}

/-- An applying instrument was never live, and no event was published about it. -/
def Unannounced (p : Position) : Prop :=
  ∀ {n i}, Place.applying.Holds p.view.registry n i → p.Unapplied n i

/-- An attempt was begun while its instrument was registered. What then waited for another
instrument of the identity waited for one that had left the registry. -/
def Ordered (p : Position) : Prop :=
  p.calls.Pairwise fun upper lower =>
    upper.IsAttempt → upper.registration.id = lower.registration.id
      → upper.registration.serial ≠ lower.registration.serial
      → Place.gone.Holds p.view.registry lower.registration.serial lower.registration.instrument

/-- An identity that is registered under another number. -/
theorem Coherent.gone_of_same_id (coherent : p.Coherent) {x : InstrumentId} {r : Registration}
    (registered : p.view.registry.get? x = some r) {call : Call} (waits : call ∈ p.calls)
    (same : r.id = call.registration.id) (ne : r.serial ≠ call.registration.serial) :
  Place.gone.Holds p.view.registry call.registration.serial call.registration.instrument
  := by
  intro y s found serial
  have w := coherent.wellKept
  have instrument := (coherent.knows waits).instrument_eq found serial
  have id : s.id = r.id := (congrArg Instrument.id instrument).trans same.symm
  rw [w.id_eq found, w.id_eq registered] at id
  rw [id, registered] at found
  obtain rfl := Option.some.inj found
  apply ne serial

/-- No call waits for a number that was not given out. -/
theorem Coherent.ownCalls_eq_nil (coherent : p.Coherent) {n : Nat}
    (new : p.view.registry.nextSerial ≤ n) :
  ownCalls n p.calls = []
  := by
  apply List.filter_eq_nil_iff.mpr
  intro call waits eq
  have old := (coherent.knows waits).serial_lt
  rw [of_decide_eq_true eq] at old
  omega

/-- The order of the calls that wait does not change. -/
theorem Ordered.later (h : p.Ordered) (coherent : p.Coherent)
    (later : q.view.registry.Succeeds p.view.registry) :
  p.calls.Pairwise fun upper lower =>
    upper.IsAttempt → upper.registration.id = lower.registration.id
      → upper.registration.serial ≠ lower.registration.serial
      → Place.gone.Holds q.view.registry lower.registration.serial lower.registration.instrument
  := by
  apply h.imp_of_mem
  intro upper lower _ waits gone attempt id ne
  exact (gone attempt id ne).stay_gone (coherent.knows waits).serial_lt later

end Position

namespace Move

variable {c : Conduct} {p q : Position}

/-- A move keeps the calls that wait in their order. -/
theorem ordered (move : Move c p q) (coherent : p.Coherent) (h : p.Ordered) :
  q.Ordered
  := by
  have after := move.coherent coherent
  have kept := h.later coherent (move.succeeds coherent.wellKept).2
  cases move with
  | touch | refuse | complain | takeDue | forget | drop | clear => exact kept
  | register v calls i candidate r g opens valid fresh =>
    have new : g.get? r.id = some r := by simp [Registry.get?_reserve fresh]
    apply List.pairwise_cons.mpr ⟨_, kept⟩
    intro lower waits attempt id ne
    apply after.gone_of_same_id new (.tail _ waits) id ne
  | attempt v calls x r opens applying =>
    apply List.pairwise_cons.mpr ⟨_, kept⟩
    intro lower waits attempt id ne
    have registered := after.wellKept.get?_of_applying applying
    apply after.gone_of_same_id registered (.tail _ waits) id ne
  | found v calls r may =>
    obtain ⟨head, rest⟩ := List.pairwise_cons.mp kept
    exact List.pairwise_cons.mpr ⟨fun lower waits attempt => head lower waits attempt, rest⟩
  | defer | fail | confirm | settle | part => exact (List.pairwise_cons.mp kept).2
  | reject | revert =>
    have rest := (List.pairwise_cons.mp kept).2
    exact List.pairwise_cons.mpr ⟨fun lower waits attempt => attempt.elim, rest⟩
  | withdraw => exact List.pairwise_cons.mpr ⟨fun lower waits attempt => attempt.elim, kept⟩

/-- An instrument that is registered was never live. -/
theorem unannounced (move : Move c p q) (keeps : ∀ v calls, ¬c.starts v calls .clear)
    (coherent : p.Coherent) (h : p.Unannounced) :
  q.Unannounced
  := by
  intro n i holds
  have after := move.coherent coherent
  obtain ⟨s, found, rfl, rfl⟩ := holds
  have holds : Place.applying.Holds q.view.registry s.serial s.instrument := ⟨s, found, rfl, rfl⟩
  have registered := after.wellKept.get?_of_applying found
  rcases (move.succeeds coherent.wellKept).2.applied found with new | ⟨r, was, serial, instrument⟩
  · have given := after.wellKept.serial_lt registered
    rcases move.registers with none | ⟨r, next, calls, history, count⟩
    · omega
    · have serial : r.serial = s.serial := by omega
      have waits : .resolve r ∈ q.calls := by
        rw [calls]
        exact .head _
      have instrument : s.instrument = r.instrument :=
        (after.knows waits).instrument_eq registered serial.symm
      have none : Attempted s.instrument [] [] [] := ⟨by simp, by simp, .nil, rfl⟩
      apply Position.Unapplied.applying holds
      rw [View.trace_append history (by simpa [Entry.serial?, Call.registration] using serial),
        coherent.trace_eq_nil new, calls, ownCalls_cons_self (.resolve r) serial,
        coherent.ownCalls_eq_nil new]
      apply none.resolve instrument.symm
  · have before : Place.applying.Holds p.view.registry s.serial s.instrument :=
      ⟨r, was, serial, instrument⟩
    have old : s.serial < p.view.registry.nextSerial := by
      rw [← serial]
      apply coherent.wellKept.serial_lt (coherent.wellKept.get?_of_applying was)
    have there := before.not_gone coherent.wellKept
    rcases move.unapplied keeps coherent old (h before) (fun gone => absurd gone there) with
      unapplied | ⟨-, not, -⟩
    · exact unapplied
    · exact absurd holds not

end Move

/-! ### Runs -/

namespace Conduct

/-- No attempt of a registration is answered. -/
def leaving (n : Nat) : Conduct :=
  reentrant.answering fun _ call _ => ¬call.Attempts n

/-- Attempts of a registration are answered only while nobody has its identity. -/
def sparing (n : Nat) : Conduct :=
  reentrant.answering fun v call _ =>
    call.Attempts n → v.registry.get? call.registration.id = none

end Conduct

namespace Position

/-- The registration has left the registry without having been live. Its removal was published once,
and when none of its calls waits every patch that was requested for it has been reversed. -/
structure Discarded (p : Position) (n : Nat) (i : Instrument) : Prop where
  /-- It has left the registry. -/
  gone : Place.gone.Holds p.view.registry n i
  /-- Its removal is the only event about it. -/
  removed : ∃ cause t, (p.view.trace n).filterMap Entry.event? = [.removed i cause t]
  /-- Every patch is reversed. -/
  reversed : (∀ call ∈ p.calls, call.registration.serial ≠ n)
    → Unreversed i 0 ((p.view.trace n).filterMap Entry.request?)

/-- A registration that was removed before it was live. -/
theorem Unapplied.discarded {p : Position} {n : Nat} {i : Instrument} (h : p.Unapplied n i)
    (w : p.view.registry.WellKept) (gone : Place.gone.Holds p.view.registry n i) :
  p.Discarded n i
  := by
  cases h with
  | applying holds => exact absurd gone (holds.not_gone w)
  | removed cause t holds h =>
    constructor
    · exact gone
    · exact ⟨cause, t, h.events⟩
    · intro quiet
      have none : ownCalls n p.calls = [] := by
        apply List.filter_eq_nil_iff.mpr
        simpa using quiet
      have unreversed := h.unreversed
      rw [none] at unreversed
      exact unreversed

/-- An attempt waits for a registration that was never live. -/
structure Awaits (p : Position) (n : Nat) (i : Instrument) : Prop where
  /-- The position is coherent. -/
  coherent : p.Coherent
  /-- The calls are in order. -/
  ordered : p.Ordered
  /-- The number was given out. -/
  old : n < p.view.registry.nextSerial
  /-- The registration was never live. -/
  unapplied : p.Unapplied n i
  /-- An attempt waits. -/
  waits : ∃ call ∈ p.calls, call.Attempts n

/-- The registration has left the registry without having been live. -/
structure Removed (p : Position) (n : Nat) (i : Instrument) : Prop where
  /-- The position is coherent. -/
  coherent : p.Coherent
  /-- The number was given out. -/
  old : n < p.view.registry.nextSerial
  /-- The registration was never live. -/
  unapplied : p.Unapplied n i
  /-- It has left the registry. -/
  gone : Place.gone.Holds p.view.registry n i

end Position

namespace Call

variable {n : Nat} {call : Call}

/-- An attempt to install a registration is made for it. -/
theorem Attempts.serial (h : call.Attempts n) :
  call.registration.serial = n
  := by
  cases call with
  | resolve r => exact h
  | patch r => exact h
  | restore r => cases h
  | withdraw r => cases h

end Call

namespace Move

variable {p q : Position} {n : Nat} {i : Instrument}

/-- While no attempt of it is answered, a registration of which one waits does not become live. An
attempt for another instrument of its identity waits below, if there is one. -/
theorem awaits (move : Move (Conduct.leaving n) p q) (h : p.Awaits n i) :
  q.Awaits n i
  := by
  have w := h.coherent.wellKept
  obtain ⟨-, later⟩ := move.succeeds w
  obtain ⟨own, waits, attempts⟩ := h.waits
  constructor
  · apply move.coherent h.coherent
  · apply move.ordered h.coherent h.ordered
  · apply Nat.lt_of_lt_of_le h.old later.nextSerial_le
  · rcases move.unapplied (fun _ _ keeps => keeps rfl) h.coherent h.old h.unapplied
      (fun _ _ _ may attempts => absurd attempts may.2) with unapplied | ⟨holds, -, decides⟩
    · exact unapplied
    · obtain ⟨call, rest, answer, eq, may, attempt, id⟩ := decides
      have ordered := h.ordered
      have instrument := h.unapplied.instrument_eq waits attempts.serial
      rw [Position.Ordered, eq, List.pairwise_cons] at ordered
      rw [eq] at waits
      rcases List.mem_cons.mp waits with rfl | below
      · exact absurd attempts may.2
      · have ne : call.registration.serial ≠ own.registration.serial := by
          intro same
          rw [attempts.serial] at same
          apply may.2 (same ▸ attempt)
        have same : call.registration.id = own.registration.id :=
          id.trans (congrArg Instrument.id instrument.symm)
        have gone := ordered.1 own below attempt same ne
        rw [attempts.serial, instrument] at gone
        exact absurd gone (holds.not_gone w)
  · rcases move.silent_or_answer with ⟨-, suffix, -⟩ | ⟨call, rest, answer, eq, may, suffix, -⟩
    · exact ⟨own, suffix.subset waits, attempts⟩
    · rw [eq] at waits
      rcases List.mem_cons.mp waits with rfl | below
      · exact absurd attempts may.2
      · exact ⟨own, suffix.subset below, attempts⟩

/-- While its attempts are answered in nobody's hands, a registration that was removed stays as
it is. -/
theorem removed (move : Move (Conduct.sparing n) p q) (h : p.Removed n i) :
  q.Removed n i
  := by
  have w := h.coherent.wellKept
  obtain ⟨-, later⟩ := move.succeeds w
  constructor
  · apply move.coherent h.coherent
  · apply Nat.lt_of_lt_of_le h.old later.nextSerial_le
  · rcases move.unapplied (fun _ _ keeps => keeps rfl) h.coherent h.old h.unapplied
      (fun _ _ _ may => may.2) with unapplied | ⟨holds, -⟩
    · exact unapplied
    · exact absurd h.gone (holds.not_gone w)
  · apply h.gone.stay_gone h.old later

end Move

namespace Position

variable {p : Position} {n : Nat} {i : Instrument}

/-- A registration that was never live is not live. -/
theorem Unapplied.not_live (h : p.Unapplied n i) (w : p.view.registry.WellKept) :
  ¬Place.live.Holds p.view.registry n i
  := by
  rintro ⟨r, found, own, -⟩
  have registered := Registry.get?_of_live found
  subst own
  cases (h.holds_applying registered rfl).eq_live w found

end Position

namespace Conduct

variable {settings : Settings} {clock : Instant} {s s' : Session} {n : Nat} {i : Instrument}

/-- The calls that wait in a session are in order. -/
theorem Run.ordered (run : reentrant.Run (.idle (.new settings clock)) s) :
  s.position.Ordered
  := by
  apply run.coherent_invariant Move.ordered
  intro retries
  exact List.Pairwise.nil

/-- An applying instrument was never live. -/
theorem Run.unannounced (run : reentrant.Run (.idle (.new settings clock)) s) :
  s.position.Unannounced
  := by
  apply run.coherent_invariant
  · intro p q move
    apply move.unannounced fun _ _ keeps => keeps rfl
  · rintro retries n i ⟨r, found, -⟩
    cases found

/-- An instrument that is applying was not live before. -/
theorem Run.not_live (run : reentrant.Run (.idle (.new settings clock)) s)
    (later : reentrant.Run s s') (holds : Place.applying.Holds s'.engine.registry n i) :
  ¬Place.live.Holds s.engine.registry n i
  := by
  rintro ⟨r, found, own, -⟩
  have w := run.coherent.wellKept
  have registered : s.engine.registry.get? i.id = some r := Registry.get?_of_live found
  have step {p q : Position} (move : Move reentrant p q)
      (h : p.Coherent ∧ n < p.view.registry.nextSerial
        ∧ ¬Place.applying.Holds p.view.registry n i) :
      q.Coherent ∧ n < q.view.registry.nextSerial
        ∧ ¬Place.applying.Holds q.view.registry n i := by
    obtain ⟨coherent, old, not⟩ := h
    obtain ⟨-, later⟩ := move.succeeds coherent.wellKept
    refine ⟨move.coherent coherent, Nat.lt_of_lt_of_le old later.nextSerial_le, ?_⟩
    rintro ⟨s, after, serial, instrument⟩
    rcases later.applied after with new | ⟨q, before, same, same'⟩
    · omega
    · exact not ⟨q, before, same.trans serial, same'.trans instrument⟩
  have old : n < s.engine.registry.nextSerial := by
    rw [← own]
    apply w.serial_lt registered
  have not : ¬Place.applying.Holds s.engine.registry n i := by
    intro applying
    subst own
    cases applying.eq_live w found
  have moves := (later.moves run.keeps).1
  exact (moves.preserve step ⟨run.coherent, old, not⟩).2.2 holds

end Conduct

/-- Suppose that a registration is removed while an attempt waits for it, and that until its
attempts are answered nobody has its identity. Then the removal wins, so that the instrument is
never live, its removal is published once, and every patch requested for it is reversed, if and
only if it was applying when it was removed. -/
theorem removal_wins_iff_applying (settings : Settings) (clock : Instant) {s₁ s₂ : Session}
    {x : InstrumentId} {r : Registration}
    (run : Conduct.reentrant.Run (.idle (.new settings clock)) s₁)
    (registered : s₁.engine.registry.get? x = some r)
    (waits : ∃ call ∈ s₁.calls, call.Attempts r.serial)
    (meanwhile : (Conduct.leaving r.serial).Run s₁ s₂)
    (gone : Place.gone.Holds s₂.engine.registry r.serial r.instrument) :
  ((∀ s, (Conduct.reentrant.Run (.idle (.new settings clock)) s ∧ Conduct.reentrant.Run s s₁
            ∨ (Conduct.leaving r.serial).Run s₁ s ∨ (Conduct.sparing r.serial).Run s₂ s)
        → ¬Place.live.Holds s.engine.registry r.serial r.instrument)
      ∧ ∀ s, (Conduct.sparing r.serial).Run s₂ s → s.position.Discarded r.serial r.instrument)
    ↔ s₁.engine.registry.getApplying? x = some r
  := by
  have w := run.coherent.wellKept
  constructor
  · rintro ⟨never, -⟩
    have not := never s₁ (.inl ⟨run, .refl⟩)
    rcases Registry.get?_eq_some_iff.mp registered with live | ⟨-, applying⟩
    · obtain rfl := w.live_id live
      exact absurd ⟨r, live, rfl, rfl⟩ not
    · exact applying
  · intro applying
    have holds : Place.applying.Holds s₁.engine.registry r.serial r.instrument := by
      obtain rfl := w.applying_id applying
      exact ⟨r, applying, rfl, rfl⟩
    have awaits : s₁.position.Awaits r.serial r.instrument :=
      ⟨run.coherent, run.ordered, w.serial_lt registered, run.unannounced holds, waits⟩
    have keeps : (Conduct.leaving r.serial).starts.Keeps s₁.waiting := run.keeps
    have during {s} (later : (Conduct.leaving r.serial).Run s₁ s) :
        s.position.Awaits r.serial r.instrument :=
      (later.moves keeps).1.preserve Move.awaits awaits
    have atEnd := during meanwhile
    have keeps' : (Conduct.sparing r.serial).starts.Keeps s₂.waiting := (meanwhile.moves keeps).2
    have after {s} (later : (Conduct.sparing r.serial).Run s₂ s) :
        s.position.Removed r.serial r.instrument :=
      (later.moves keeps').1.preserve Move.removed
        ⟨atEnd.coherent, atEnd.old, atEnd.unapplied, gone⟩
    constructor
    · rintro s (⟨before, later⟩ | later | later)
      · apply before.not_live later holds
      · exact (during later).unapplied.not_live (during later).coherent.wellKept
      · exact (after later).unapplied.not_live (after later).coherent.wellKept
    · intro s later
      exact (after later).unapplied.discarded (after later).coherent.wellKept (after later).gone

/-- An instrument is removed while its patch is inserted, and the patch is reversed. -/
theorem removal_wins_iff_applying_install :
  ∃ s₁ r s₂ s, Conduct.reentrant.Run (.idle (.new .default default)) s₁
    ∧ s₁.engine.registry.getApplying? "a" = some r
    ∧ (Conduct.leaving r.serial).Run s₁ s₂
    ∧ Place.gone.Holds s₂.engine.registry r.serial r.instrument
    ∧ (Conduct.sparing r.serial).Run s₂ s ∧ s.waiting = []
    ∧ s.position.Discarded r.serial r.instrument
  := by
  have asks : Conduct.reentrant.AllowsAll (.idle (.new .default default))
      [.start (.install (.breakpointIn "U")), .reply true] :=
    ⟨nofun, trivial, trivial⟩
  have removes : (Conduct.leaving 0).AllowsAll
      ((Session.idle (.new .default default)).play
        [.start (.install (.breakpointIn "U")), .reply true])
      [.start (.removeById "a" none)] :=
    ⟨nofun, trivial⟩
  have ends : (Conduct.sparing 0).AllowsAll
      (((Session.idle (.new .default default)).play
        [.start (.install (.breakpointIn "U")), .reply true]).play
        [.start (.removeById "a" none)])
      [.reply true, .reply true] :=
    ⟨⟨trivial, fun _ => rfl⟩, ⟨trivial, fun _ => rfl⟩, trivial⟩
  have gone : Place.gone.Holds
      (((Session.idle (.new .default default)).play
        [.start (.install (.breakpointIn "U")), .reply true]).play
        [.start (.removeById "a" none)]).engine.registry 0 (.breakpointIn "U") := by
    intro x s found
    have none : none = some s := found
    cases none
  have wins := removal_wins_iff_applying .default default (x := "a") asks.run rfl
    ⟨_, .head _, rfl⟩ removes.run gone
  exact ⟨_, _, _, _, asks.run, rfl, removes.run, gone, ends.run, rfl, (wins.mpr rfl).2 _ ends.run⟩

/-- An instrument is removed while its unit is asked for, and another one of its identity is
installed. The attempt that was scheduled for the first one makes the second one live while its
own patch is inserted. -/
def removeWhileRetried : List Action :=
  [.start (.install (.breakpointIn "U")), .start (.removeById "a" none), .reply false,
    .start (.install (.breakpointIn "V")), .reply true, .start (.tick .latest),
    .reply true, .reply true]

/-- A removal during an attempt does not win if another attempt made the instrument live, even if
nothing else starts and nothing is registered afterwards. -/
theorem not_discarded_retried :
  ¬∀ s₁ x r, Conduct.reentrant.Run (.idle (.new .default default)) s₁
    → s₁.engine.registry.get? x = some r → (∃ call ∈ s₁.calls, call.Attempts r.serial)
    → ∀ s₂, (Conduct.leaving r.serial).Run s₁ s₂
    → Place.gone.Holds s₂.engine.registry r.serial r.instrument
    → ∀ s, Conduct.finishing.Run s₂ s
    → s.engine.registry.nextSerial = s₂.engine.registry.nextSerial
    → s.position.Discarded r.serial r.instrument
  := by
  intro all
  have retries : Conduct.reentrant.AllowsAll (.idle (.new .default default)) removeWhileRetried :=
    ⟨nofun, nofun, trivial, nofun, trivial, nofun, trivial, trivial, trivial⟩
  have removes : (Conduct.leaving 1).AllowsAll
      ((Session.idle (.new .default default)).play removeWhileRetried)
      [.start (.removeById "a" none)] :=
    ⟨nofun, trivial⟩
  have ends : Conduct.finishing.AllowsAll
      (((Session.idle (.new .default default)).play removeWhileRetried).play
        [.start (.removeById "a" none)])
      [.reply true, .reply true, .reply true] :=
    ⟨trivial, trivial, trivial, trivial⟩
  have gone : Place.gone.Holds
      (((Session.idle (.new .default default)).play removeWhileRetried).play
        [.start (.removeById "a" none)]).engine.registry 1 (.breakpointIn "V") := by
    intro x s found
    have none : none = some s := found
    cases none
  obtain ⟨-, ⟨cause, t, removed⟩, -⟩ := all _ "a" _ retries.run rfl ⟨_, .head _, rfl⟩ _ removes.run
    gone _ ends.run rfl
  cases removed

end Instrumentation
