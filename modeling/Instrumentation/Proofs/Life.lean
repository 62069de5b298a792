import Instrumentation.Proofs.Trace

/-!
# The life of a registration

When one operation runs after another, the calls and the events that are about one registration
follow a fixed pattern. Its unit is asked for until it is loaded, or until the install is given
up or its instrument removed. Then the unit is patched: a failure is published and the patch taken
back, and a success makes the instrument live, until it is removed and its patch taken back.

The pattern says where the registration is. While a call about it waits, the trace is that of a
life under way, and the call is the only one that waits.
-/

namespace Instrumentation

/-! ### Patterns -/

section Patterns

variable (n : Nat) (i : Instrument)

/-- The unit is asked for a number of times, and is not loaded. -/
def deferrals (k : Nat) : List Entry :=
  (List.replicate k
    [.asked n (.resolve i.unitName), .answered n (.resolve i.unitName) false]).flatten

/-- The unit is asked for once more. -/
theorem deferrals_succ (k : Nat) :
  deferrals n i (k + 1)
    = deferrals n i k ++
      [.asked n (.resolve i.unitName), .answered n (.resolve i.unitName) false]
  := by
  simp [deferrals, List.replicate_succ']

/-- The unit is asked for, and is not loaded. -/
theorem deferrals_answered (r : Registration) (k : Nat) :
  deferrals r.serial r.instrument k ++ [(Call.resolve r).asked]
    ++ [(Call.resolve r).answered false] = deferrals r.serial r.instrument (k + 1)
  := by
  rw [deferrals_succ, List.append_assoc]
  rfl

/-- The unit is not loaded a number of times, then it is, and a patch is inserted. -/
def patching (k : Nat) : List Entry :=
  deferrals n i k ++ [.asked n (.resolve i.unitName), .answered n (.resolve i.unitName) true,
    .asked n (.patch i.unitName i.patchSpec)]

/-- The unit could not be patched, and the failure was published. -/
def refusal (k : Nat) (source : TransformError) (t : Instant) : List Entry :=
  patching n i k ++ [.answered n (.patch i.unitName i.patchSpec) (.error source),
    .published (some n) (.removed i (some (InstrumentError.patchFailed i.id source).message) t)]

/-- The unit was patched, and that was published. -/
def application (k : Nat) (t : Instant) : List Entry :=
  patching n i k ++ [.answered n (.patch i.unitName i.patchSpec) (.ok ()),
    .published (some n) (.applied i t)]

/-- The traces of a registration of which no call waits, and where they leave it. -/
inductive Conforms : Place → List Entry → Prop where
  /-- The unit was not loaded yet. -/
  | waiting (k : Nat) (tried : 1 ≤ k) : Conforms .applying (deferrals n i k)
  /-- The unit was not loaded, and then the instrument was removed. -/
  | dropped (k : Nat) (tried : 1 ≤ k) (cause : Option String) (t : Instant) :
      Conforms .gone (deferrals n i k ++ [.published (some n) (.removed i cause t)])
  /-- The unit could not be patched. -/
  | rejected (k : Nat) (source : TransformError) (t : Instant)
      (answer : Except TransformError Unit) :
      Conforms .gone (refusal n i k source t ++ [.asked n (.unpatch i.unitName i.patchSpec),
        .answered n (.unpatch i.unitName i.patchSpec) answer])
  /-- The unit was patched. -/
  | applied (k : Nat) (t : Instant) : Conforms .live (application n i k t)
  /-- The unit was patched, and then the instrument was removed. -/
  | withdrawn (k : Nat) (t : Instant) (answer : Except TransformError Unit)
      (cause : Option String) (t' : Instant) :
      Conforms .gone (application n i k t ++ [.asked n (.unpatch i.unitName i.patchSpec),
        .answered n (.unpatch i.unitName i.patchSpec) answer,
        .published (some n) (.removed i cause t')])

variable {n : Nat} {i : Instrument} {trace : List Entry}

/-- The unit of an applying instrument was not loaded. -/
theorem Conforms.deferred (h : Conforms n i .applying trace) :
  ∃ k, 1 ≤ k ∧ trace = deferrals n i k
  := by
  cases h with
  | waiting k tried => exact ⟨k, tried, rfl⟩

/-- The unit of a live instrument was patched. -/
theorem Conforms.patched (h : Conforms n i .live trace) :
  ∃ k t, trace = application n i k t
  := by
  cases h with
  | applied k t => exact ⟨k, t, rfl⟩

end Patterns

/-- Where the registration of a call is while the call waits. -/
def Call.place : Call → Place
  | resolve _ => .applying
  | patch _ => .applying
  | restore _ => .gone
  | withdraw _ => .gone

/-- The traces of a registration of which a call waits. -/
inductive Call.Underway : Call → List Entry → Prop where
  /-- The unit is asked for. -/
  | resolve (r : Registration) (k : Nat) :
      Underway (.resolve r) (deferrals r.serial r.instrument k ++ [(Call.resolve r).asked])
  /-- A patch is inserted. -/
  | patch (r : Registration) (k : Nat) : Underway (.patch r) (patching r.serial r.instrument k)
  /-- The patch is taken back that could not be inserted. -/
  | restore (r : Registration) (k : Nat) (source : TransformError) (t : Instant) :
      Underway (.restore r) (refusal r.serial r.instrument k source t ++ [(Call.restore r).asked])
  /-- The patch of a live instrument is taken back. -/
  | withdraw (r : Registration) (k : Nat) (t : Instant) :
      Underway (.withdraw r) (application r.serial r.instrument k t ++ [(Call.withdraw r).asked])

namespace Call.Underway

variable {r : Registration} {trace : List Entry}

/-- The trace while a unit is asked for. -/
theorem of_resolve (h : (Call.resolve r).Underway trace) :
  ∃ k, trace = deferrals r.serial r.instrument k ++ [(Call.resolve r).asked]
  := by
  cases h with
  | resolve _ k => exact ⟨k, rfl⟩

/-- The trace while a patch is inserted. -/
theorem of_patch (h : (Call.patch r).Underway trace) :
  ∃ k, trace = patching r.serial r.instrument k
  := by
  cases h with
  | patch _ k => exact ⟨k, rfl⟩

/-- The trace while a patch is taken back that could not be inserted. -/
theorem of_restore (h : (Call.restore r).Underway trace) :
  ∃ k source t, trace = refusal r.serial r.instrument k source t ++ [(Call.restore r).asked]
  := by
  cases h with
  | restore _ k source t => exact ⟨k, source, t, rfl⟩

/-- The trace while the patch of a live instrument is taken back. -/
theorem of_withdraw (h : (Call.withdraw r).Underway trace) :
  ∃ k t, trace = application r.serial r.instrument k t ++ [(Call.withdraw r).asked]
  := by
  cases h with
  | withdraw _ k t => exact ⟨k, t, rfl⟩

end Call.Underway

namespace Position

/-- No call about the registration waits, and it is where its trace says. -/
structure Rests (p : Position) (n : Nat) (i : Instrument) (place : Place) : Prop where
  /-- No call about it waits. -/
  quiet : ∀ call ∈ p.calls, call.registration.serial ≠ n
  /-- It has a trace. -/
  conforms : Conforms n i place (p.view.trace n)
  /-- It is where its trace says. -/
  holds : place.Holds p.view.registry n i

/-- The call waits by itself, and its registration is where its trace says. -/
structure Busy (p : Position) (call : Call) : Prop where
  /-- It waits by itself. -/
  alone : p.calls = [call]
  /-- Its registration has a trace. -/
  underway : call.Underway (p.view.trace call.registration.serial)
  /-- Its registration is where its trace says. -/
  holds : call.place.Holds p.view.registry call.registration.serial call.registration.instrument

/-- The registration leads the life of an instrument. -/
inductive Lives (p : Position) : Nat → Instrument → Prop where
  /-- No call about it waits. -/
  | rests {n : Nat} {i : Instrument} (place : Place) (h : p.Rests n i place) : Lives p n i
  /-- A call about it waits. -/
  | busy (call : Call) (h : p.Busy call) :
      Lives p call.registration.serial call.registration.instrument

end Position

/-! ### What moves preserve -/

/-- The entry is about an instrument that was never registered, or about a command. -/
inductive Entry.Unregistered : Entry → Prop where
  /-- The condition of the instrument cannot be read. -/
  | refused (i : Instrument) (err : InstrumentError) (t : Instant)
      (invalid : Candidate.ofInstrument i = .error err) :
      Unregistered (.published none (.removed i (some err.message) t))
  /-- A command is refused, or has failed in part. -/
  | complained (raw : Json) (cause : String) (t : Instant) :
      Unregistered (.published none (.commandFailed raw cause t))

/-- An entry about no registration has no number. -/
theorem Entry.Unregistered.serial? {entry : Entry} (h : entry.Unregistered) :
  entry.serial? = none
  := by
  cases h with
  | refused => rfl
  | complained => rfl

namespace Position

variable {p q : Position} {n : Nat} {i : Instrument} {r : Registration}

/-- Every registration leads the life of an instrument, and nothing else happens but that
instruments and commands are refused. -/
structure Orderly (p : Position) : Prop where
  /-- Every registration leads a life. -/
  lives : ∀ n < p.view.registry.nextSerial, ∃ i, p.Lives n i
  /-- What is about no registration is a refusal. -/
  unregistered : ∀ entry ∈ p.view.history, entry.serial? = none → entry.Unregistered

/-- Nothing happens to any registration. -/
structure Stays (p q : Position) : Prop where
  /-- The calls wait on. -/
  calls : q.calls = p.calls
  /-- The entries are about no registration. -/
  adds : ∃ entries, q.view.history = p.view.history ++ entries
    ∧ ∀ entry ∈ entries, entry.Unregistered
  /-- No registration is made. -/
  nextSerial : q.view.registry.nextSerial = p.view.registry.nextSerial
  /-- Every registration stays in its place. -/
  holds : ∀ {n i} {place : Place}, n < p.view.registry.nextSerial → place.Holds p.view.registry n i
    → place.Holds q.view.registry n i

/-- Something happens to one registration. -/
structure Turns (p q : Position) (r : Registration) : Prop where
  /-- The calls before are about it. -/
  before : ∀ call ∈ p.calls, call.registration.serial = r.serial
  /-- The calls after are about it. -/
  after : ∀ call ∈ q.calls, call.registration.serial = r.serial
  /-- The entries are about it. -/
  adds : ∃ entries, q.view.history = p.view.history ++ entries
    ∧ ∀ entry ∈ entries, entry.serial? = some r.serial
  /-- No other registration is made. -/
  news : ∀ n < q.view.registry.nextSerial, n < p.view.registry.nextSerial ∨ n = r.serial
  /-- Every other registration stays in its place. -/
  holds : ∀ {n i} {place : Place}, n < p.view.registry.nextSerial → n ≠ r.serial
    → place.Holds p.view.registry n i → place.Holds q.view.registry n i
  /-- It has led the life of its instrument, if it was there. -/
  same : ∀ {i}, r.serial < p.view.registry.nextSerial → p.Lives r.serial i → r.instrument = i
  /-- It leads the life of its instrument. -/
  lives : q.Lives r.serial r.instrument

/-- A registration leads its life on when nothing happens. -/
theorem Stays.keep (h : p.Stays q) (old : n < p.view.registry.nextSerial) (lives : p.Lives n i) :
  q.Lives n i
  := by
  obtain ⟨entries, history, unregistered⟩ := h.adds
  have trace (m : Nat) : q.view.trace m = p.view.trace m := by
    apply View.trace_eq history
    intro entry mem
    rw [(unregistered entry mem).serial?]
    nofun
  cases lives with
  | rests place rests =>
    apply Lives.rests place
    constructor
    · rw [h.calls]
      exact rests.quiet
    · rw [trace]
      exact rests.conforms
    · apply h.holds old rests.holds
  | busy call busy =>
    apply Lives.busy call
    constructor
    · rw [h.calls]
      exact busy.alone
    · rw [trace]
      exact busy.underway
    · apply h.holds old busy.holds

/-- A registration leads its life on when something happens to one registration. -/
theorem Turns.keep (h : p.Turns q r) (old : n < p.view.registry.nextSerial) (lives : p.Lives n i) :
  q.Lives n i
  := by
  by_cases own : n = r.serial
  · subst own
    rw [← h.same old lives]
    exact h.lives
  · cases lives with
    | rests place rests =>
      obtain ⟨entries, history, about⟩ := h.adds
      apply Lives.rests place
      constructor
      · intro call mem eq
        apply own (eq.symm.trans (h.after call mem))
      · rw [View.trace_eq history]
        · exact rests.conforms
        · intro entry mem eq
          exact own (Option.some.inj (eq.symm.trans (about entry mem)))
      · apply h.holds old own rests.holds
    | busy call busy =>
      apply absurd (h.before call _) own
      rw [busy.alone]
      exact .head _

/-- An orderly position stays so when nothing happens to any registration. -/
theorem Stays.orderly (h : p.Stays q) (orderly : p.Orderly) :
  q.Orderly
  := by
  constructor
  · intro n lt
    rw [h.nextSerial] at lt
    obtain ⟨i, lives⟩ := orderly.lives n lt
    exact ⟨i, h.keep lt lives⟩
  · intro entry mem none
    obtain ⟨entries, history, unregistered⟩ := h.adds
    rw [history, List.mem_append] at mem
    rcases mem with mem | mem
    · apply orderly.unregistered entry mem none
    · apply unregistered entry mem

/-- An orderly position stays so when something happens to one registration. -/
theorem Turns.orderly (h : p.Turns q r) (orderly : p.Orderly) :
  q.Orderly
  := by
  constructor
  · intro n lt
    rcases h.news n lt with old | rfl
    · obtain ⟨i, lives⟩ := orderly.lives n old
      exact ⟨i, h.keep old lives⟩
    · exact ⟨_, h.lives⟩
  · intro entry mem none
    obtain ⟨entries, history, about⟩ := h.adds
    rw [history, List.mem_append] at mem
    rcases mem with mem | mem
    · apply orderly.unregistered entry mem none
    · rw [about entry mem] at none
      cases none

/-- In an orderly position a call waits by itself. -/
theorem Orderly.busy {v : View} {call : Call} {calls : List Call}
    (orderly : Position.Orderly ⟨v, call :: calls⟩)
    (coherent : Position.Coherent ⟨v, call :: calls⟩) :
  calls = [] ∧ Position.Busy ⟨v, [call]⟩ call
  := by
  obtain ⟨i, lives⟩ := orderly.lives _ coherent.knows_head.serial_lt
  generalize serial : call.registration.serial = n at lives
  cases lives with
  | rests place rests => exact absurd serial (rests.quiet call (.head _))
  | busy other busy =>
    obtain ⟨rfl, rfl⟩ := List.cons.inj busy.alone
    exact ⟨rfl, busy⟩

/-- While a unit is asked for. -/
theorem Orderly.resolving {v : View} {calls : List Call}
    (orderly : Position.Orderly ⟨v, .resolve r :: calls⟩)
    (coherent : Position.Coherent ⟨v, .resolve r :: calls⟩) :
  calls = [] ∧ Place.applying.Holds v.registry r.serial r.instrument
    ∧ ∃ k, v.trace r.serial = deferrals r.serial r.instrument k ++ [(Call.resolve r).asked]
  := by
  obtain ⟨none, busy⟩ := orderly.busy coherent
  exact ⟨none, busy.holds, busy.underway.of_resolve⟩

/-- While a patch is inserted. -/
theorem Orderly.patching {v : View} {calls : List Call}
    (orderly : Position.Orderly ⟨v, .patch r :: calls⟩)
    (coherent : Position.Coherent ⟨v, .patch r :: calls⟩) :
  calls = [] ∧ Place.applying.Holds v.registry r.serial r.instrument
    ∧ ∃ k, v.trace r.serial = patching r.serial r.instrument k
  := by
  obtain ⟨none, busy⟩ := orderly.busy coherent
  exact ⟨none, busy.holds, busy.underway.of_patch⟩

/-- While a patch is taken back that could not be inserted. -/
theorem Orderly.restoring {v : View} {calls : List Call}
    (orderly : Position.Orderly ⟨v, .restore r :: calls⟩)
    (coherent : Position.Coherent ⟨v, .restore r :: calls⟩) :
  calls = [] ∧ Place.gone.Holds v.registry r.serial r.instrument
    ∧ ∃ k source t, v.trace r.serial
      = refusal r.serial r.instrument k source t ++ [(Call.restore r).asked]
  := by
  obtain ⟨none, busy⟩ := orderly.busy coherent
  exact ⟨none, busy.holds, busy.underway.of_restore⟩

/-- While the patch of a live instrument is taken back. -/
theorem Orderly.withdrawing {v : View} {calls : List Call}
    (orderly : Position.Orderly ⟨v, .withdraw r :: calls⟩)
    (coherent : Position.Coherent ⟨v, .withdraw r :: calls⟩) :
  calls = [] ∧ Place.gone.Holds v.registry r.serial r.instrument
    ∧ ∃ k t, v.trace r.serial
      = application r.serial r.instrument k t ++ [(Call.withdraw r).asked]
  := by
  obtain ⟨none, busy⟩ := orderly.busy coherent
  exact ⟨none, busy.holds, busy.underway.of_withdraw⟩

/-- A registration that is registered leads the life of its instrument. -/
theorem Lives.instrument_of (lives : p.Lives r.serial i) (coherent : p.Coherent) {x : InstrumentId}
    (registered : p.view.registry.get? x = some r) :
  r.instrument = i
  := by
  have w := coherent.wellKept
  generalize serial : r.serial = n at lives
  cases lives with
  | rests place rests =>
    have holds := rests.holds
    cases place with
    | applying =>
      obtain ⟨s, found, rfl, rfl⟩ := holds
      rw [w.eq_of_serial registered (w.get?_of_applying found) serial]
    | live =>
      obtain ⟨s, found, rfl, rfl⟩ := holds
      rw [w.eq_of_serial registered (Registry.get?_of_live found) serial]
    | gone => exact absurd serial (holds x r registered)
  | busy call busy =>
    have waits : call ∈ p.calls := by
      rw [busy.alone]
      exact .head _
    exact (coherent.knows waits).instrument_eq registered serial

/-- A turn with the answer to a call. -/
theorem Turns.of_answer {v : View} {call : Call} (made : call.registration = r)
    (entries : List Entry) (history : q.view.history = v.history ++ entries)
    (about : ∀ entry ∈ entries, entry.serial? = some r.serial)
    (after : ∀ next ∈ q.calls, next.registration = r)
    (spares : q.view.registry.Spares v.registry r.serial)
    (lives : q.view.trace r.serial = v.trace r.serial ++ entries
      → q.Lives r.serial r.instrument) :
  Position.Turns ⟨v, [call]⟩ q r
  := by
  subst made
  constructor
  · simp
  · intro next mem
    rw [after next mem]
  · exact ⟨entries, history, about⟩
  · intro n lt
    rw [spares.nextSerial] at lt
    exact .inl lt
  · exact spares.holds
  · intro i old lives
    generalize serial : call.registration.serial = n at lives
    cases lives with
    | rests place rests => exact absurd serial (rests.quiet call (.head _))
    | busy other busy =>
      obtain ⟨rfl, -⟩ := List.cons.inj busy.alone
      rfl
  · apply lives (View.trace_append history about)

/-- A turn of a registration that is registered, where no call waits. -/
theorem Turns.of_registered {v : View} (coherent : Position.Coherent ⟨v, []⟩) {x : InstrumentId}
    (registered : v.registry.get? x = some r)
    (entries : List Entry) (history : q.view.history = v.history ++ entries)
    (about : ∀ entry ∈ entries, entry.serial? = some r.serial)
    (after : ∀ call ∈ q.calls, call.registration.serial = r.serial)
    (spares : q.view.registry.Spares v.registry r.serial)
    (lives : q.view.trace r.serial = v.trace r.serial ++ entries
      → q.Lives r.serial r.instrument) :
  Position.Turns ⟨v, []⟩ q r
  := by
  constructor
  · simp
  · exact after
  · exact ⟨entries, history, about⟩
  · intro n lt
    rw [spares.nextSerial] at lt
    exact .inl lt
  · exact spares.holds
  · intro i old lives
    apply lives.instrument_of coherent registered
  · apply lives (View.trace_append history about)

/-- A turn of a registration that is new, where no call waits. -/
theorem Turns.of_fresh {v : View} (coherent : Position.Coherent ⟨v, []⟩)
    (fresh : r.serial = v.registry.nextSerial)
    (entries : List Entry) (history : q.view.history = v.history ++ entries)
    (about : ∀ entry ∈ entries, entry.serial? = some r.serial)
    (after : ∀ call ∈ q.calls, call.registration.serial = r.serial)
    (nextSerial : q.view.registry.nextSerial = v.registry.nextSerial + 1)
    (holds : ∀ {n i} {place : Place}, n < v.registry.nextSerial
      → place.Holds v.registry n i → place.Holds q.view.registry n i)
    (lives : q.view.trace r.serial = entries → q.Lives r.serial r.instrument) :
  Position.Turns ⟨v, []⟩ q r
  := by
  constructor
  · simp
  · exact after
  · exact ⟨entries, history, about⟩
  · intro n lt
    rw [nextSerial] at lt
    rw [fresh]
    apply Nat.lt_succ_iff_lt_or_eq.mp lt
  · intro n i place old ne
    apply holds old
  · intro i old
    exact absurd old (fresh ▸ Nat.lt_irrefl _)
  · apply lives
    have new : v.trace r.serial = [] := coherent.trace_eq_nil (Nat.le_of_eq fresh.symm)
    rw [View.trace_append history about, new, List.nil_append]

/-- Where no call waits, a registration that is registered is where its trace says. -/
theorem Orderly.rests {v : View} (orderly : Position.Orderly ⟨v, []⟩)
    (coherent : Position.Coherent ⟨v, []⟩) {x : InstrumentId}
    (registered : v.registry.get? x = some r) :
  ∃ place, Position.Rests ⟨v, []⟩ r.serial r.instrument place
  := by
  obtain ⟨i, lives⟩ := orderly.lives _ (coherent.wellKept.serial_lt registered)
  obtain rfl := lives.instrument_of coherent registered
  generalize r.serial = n, r.instrument = i at lives
  cases lives with
  | rests place rests => exact ⟨place, rests⟩
  | busy call busy => cases busy.alone

/-- Where no call waits, the unit of an applying instrument was not loaded. -/
theorem Orderly.deferred {v : View} (orderly : Position.Orderly ⟨v, []⟩)
    (coherent : Position.Coherent ⟨v, []⟩) {x : InstrumentId}
    (found : v.registry.applying.get? x = some r) :
  ∃ k, 1 ≤ k ∧ v.trace r.serial = deferrals r.serial r.instrument k
  := by
  have w := coherent.wellKept
  obtain ⟨place, -, conforms, holds⟩ := orderly.rests coherent (w.get?_of_applying found)
  obtain rfl := holds.eq_applying w found
  exact conforms.deferred

/-- Where no call waits, the unit of a live instrument was patched. -/
theorem Orderly.patched {v : View} (orderly : Position.Orderly ⟨v, []⟩)
    (coherent : Position.Coherent ⟨v, []⟩) {x : InstrumentId}
    (found : v.registry.live.get? x = some r) :
  ∃ k t, v.trace r.serial = application r.serial r.instrument k t
  := by
  have w := coherent.wellKept
  obtain ⟨place, -, conforms, holds⟩ :=
    orderly.rests coherent (Registry.get?_of_live found)
  obtain rfl := holds.eq_live w found
  exact conforms.patched

/-- Where no call waits, a registration that is where its trace says leads its life. -/
theorem Lives.of_conforms {v : View} (place : Place) (conforms : Conforms n i place (v.trace n))
    (holds : place.Holds v.registry n i) :
  Position.Lives ⟨v, []⟩ n i
  := .rests place ⟨by simp, conforms, holds⟩

/-- A registration with a call that waits by itself, and that is where its trace says, leads its
life. -/
theorem Lives.of_underway {v : View} (call : Call)
    (underway : call.Underway (v.trace call.registration.serial))
    (holds : call.place.Holds v.registry call.registration.serial call.registration.instrument) :
  Position.Lives ⟨v, [call]⟩ call.registration.serial call.registration.instrument
  := .busy call ⟨rfl, underway, holds⟩

end Position

/-! ### What each move is about -/

namespace Position

variable {v : View} {calls : List Call} {r : Registration} {t : Instant}

/-- A hit is counted. -/
theorem Stays.touch (w : v.registry.WellKept) (calls : List Call) (x : InstrumentId)
    {f : Registration → Registration} (alike : ∀ r, (f r).Alike r) :
  Position.Stays ⟨v, calls⟩ ⟨{ v with registry := v.registry.modify x f }, calls⟩
  := by
  constructor
  · rfl
  · exact ⟨[], by simp, by simp⟩
  · apply Registry.nextSerial_modify ..
  · intro n i place old holds
    apply holds.modify w old x alike

/-- An instrument or a command is refused. -/
theorem Stays.refuse (v : View) (calls : List Call) {entry : Entry} (h : entry.Unregistered) :
  Position.Stays ⟨v, calls⟩ ⟨v.add [entry], calls⟩
  := by
  constructor
  · rfl
  · exact ⟨[entry], rfl, by simpa using h⟩
  · rfl
  · intro n i place old holds
    exact holds

/-- Deferred installs are taken up or forgotten. -/
theorem Stays.retry (v : View) (calls : List Call) (queue : RetryQueue) :
  Position.Stays ⟨v, calls⟩ ⟨{ v with retries := queue }, calls⟩
  := by
  constructor
  · rfl
  · exact ⟨[], by simp, by simp⟩
  · rfl
  · intro n i place old holds
    exact holds

/-- An instrument is registered. -/
theorem Turns.register (coherent : Position.Coherent ⟨v, []⟩) {candidate : Candidate}
    {g : Registry} (fresh : v.registry.reserve candidate = (.fresh r, g)) :
  Position.Turns ⟨v, []⟩ ⟨{ v with registry := g }.add [(Call.resolve r).asked], [.resolve r]⟩ r
  := by
  obtain ⟨-, made, counted⟩ := Registry.reserve_fresh fresh
  apply Turns.of_fresh coherent _ [(Call.resolve r).asked] rfl
  · simp [Entry.serial?, Call.registration]
  · simp [Call.registration]
  · simp [counted]
  · intro n i place old holds
    apply holds.reserve coherent.wellKept old fresh
  · intro after
    apply Lives.of_underway (.resolve r)
    · rw [Call.registration, after]
      exact .resolve r 0
    · exact ⟨r, (Registry.applying_reserve fresh r.id).trans (if_pos rfl), rfl, rfl⟩
  · rw [made]
    rfl

/-- A deferred install is attempted again. -/
theorem Turns.attempt (orderly : Position.Orderly ⟨v, []⟩) (coherent : Position.Coherent ⟨v, []⟩)
    {x : InstrumentId} (applying : v.registry.applying.get? x = some r) :
  Position.Turns ⟨v, []⟩ ⟨v.add [(Call.resolve r).asked], [.resolve r]⟩ r
  := by
  have w := coherent.wellKept
  obtain ⟨k, -, trace⟩ := orderly.deferred coherent applying
  apply Turns.of_registered coherent (w.get?_of_applying applying) [(Call.resolve r).asked] rfl
  · simp [Entry.serial?, Call.registration]
  · simp [Call.registration]
  · exact .refl _ _
  · intro after
    apply Lives.of_underway (.resolve r)
    · rw [Call.registration, after, trace]
      exact .resolve r k
    · obtain rfl := w.applying_id applying
      exact ⟨r, applying, rfl, rfl⟩

/-- A unit is loaded, and is patched. -/
theorem Turns.found (orderly : Position.Orderly ⟨v, .resolve r :: calls⟩)
    (coherent : Position.Coherent ⟨v, .resolve r :: calls⟩) :
  Position.Turns ⟨v, .resolve r :: calls⟩
    ⟨v.add [(Call.resolve r).answered true, (Call.patch r).asked], .patch r :: calls⟩ r
  := by
  obtain ⟨rfl, applying, k, trace⟩ := orderly.resolving coherent
  apply Turns.of_answer (r := r) rfl [(Call.resolve r).answered true, (Call.patch r).asked] rfl
  · simp [Entry.serial?, Call.registration]
  · simp [Call.registration]
  · exact .refl _ _
  · intro after
    apply Lives.of_underway (.patch r)
    · rw [Call.registration, after, trace, List.append_assoc]
      exact .patch r k
    · exact applying

/-- A unit is not loaded, and the install waits. -/
theorem Turns.defer (orderly : Position.Orderly ⟨v, .resolve r :: calls⟩)
    (coherent : Position.Coherent ⟨v, .resolve r :: calls⟩) (queue : RetryQueue) :
  Position.Turns ⟨v, .resolve r :: calls⟩
    ⟨{ v with retries := queue }.add [(Call.resolve r).answered false], calls⟩ r
  := by
  obtain ⟨rfl, applying, k, trace⟩ := orderly.resolving coherent
  apply Turns.of_answer (r := r) rfl [(Call.resolve r).answered false] rfl
  · simp [Entry.serial?, Call.registration]
  · simp
  · exact .refl _ _
  · intro after
    refine Lives.of_conforms .applying ?_ applying
    rw [after, trace, deferrals_answered]
    exact .waiting (k + 1) (Nat.le_add_left 1 k)

/-- A unit is not loaded, and the install is given up. -/
theorem Turns.fail (orderly : Position.Orderly ⟨v, .resolve r :: calls⟩)
    (coherent : Position.Coherent ⟨v, .resolve r :: calls⟩) (err : InstrumentError) (t : Instant) :
  Position.Turns ⟨v, .resolve r :: calls⟩
    ⟨(v.add [(Call.resolve r).answered false]).abandon r err t, calls⟩ r
  := by
  have w := coherent.wellKept
  obtain ⟨rfl, applying, k, trace⟩ := orderly.resolving coherent
  obtain ⟨s, registered, serial⟩ := applying.registered w
  apply Turns.of_answer (r := r) rfl
    [(Call.resolve r).answered false,
      .published (some r.serial) (.removed r.instrument (some err.message) t)]
  · simp [View.failure_of_registered registered]
  · simp [Entry.serial?, Call.registration]
  · simp
  · exact .detach w registered serial
  · intro after
    apply Lives.of_conforms .gone
    · rw [after, trace, List.append_cons, deferrals_answered]
      exact .dropped (k + 1) (Nat.le_add_left 1 k) (some err.message) t
    · rw [← serial]
      apply Place.Holds.detached w registered

/-- A unit could not be patched, and the patch is taken back. -/
theorem Turns.reject (orderly : Position.Orderly ⟨v, .patch r :: calls⟩)
    (coherent : Position.Coherent ⟨v, .patch r :: calls⟩) (source : TransformError) (t : Instant) :
  Position.Turns ⟨v, .patch r :: calls⟩
    ⟨((v.add [(Call.patch r).answered (.error source)]).abandon r (.patchFailed r.id source) t).add
      [(Call.restore r).asked], .restore r :: calls⟩ r
  := by
  have w := coherent.wellKept
  obtain ⟨rfl, applying, k, trace⟩ := orderly.patching coherent
  obtain ⟨s, registered, serial⟩ := applying.registered w
  apply Turns.of_answer (r := r) rfl
    [(Call.patch r).answered (.error source),
      .published (some r.serial)
        (.removed r.instrument (some (InstrumentError.patchFailed r.id source).message) t),
      (Call.restore r).asked]
  · simp [View.failure_of_registered registered]
  · simp [Entry.serial?, Call.registration]
  · simp [Call.registration]
  · exact .detach w registered serial
  · intro after
    apply Lives.of_underway (.restore r)
    · have restore := Call.Underway.restore r k source t
      rw [refusal, List.append_assoc] at restore
      rw [Call.registration, after, trace]
      exact restore
    · rw [Call.registration, ← serial]
      apply Place.Holds.detached w registered

/-- A patch is in place, and the instrument becomes live. -/
theorem Turns.confirm (orderly : Position.Orderly ⟨v, .patch r :: calls⟩)
    (coherent : Position.Coherent ⟨v, .patch r :: calls⟩) {s : Registration}
    (promoted : (v.registry.promote r.id).1 = some s) (t : Instant) :
  Position.Turns ⟨v, .patch r :: calls⟩
    ⟨((v.add [(Call.patch r).answered (.ok ())]).promote r.id).add
      [.published (some r.serial) (.applied r.instrument t)], calls⟩ r
  := by
  have w := coherent.wellKept
  obtain ⟨rfl, ⟨before, found, serial, instrument⟩, k, trace⟩ := orderly.patching coherent
  obtain ⟨_, found', rfl, -⟩ := w.promote_some promoted
  obtain rfl := Option.some.inj (found.symm.trans found')
  apply Turns.of_answer (r := r) rfl
    [(Call.patch r).answered (.ok ()), .published (some r.serial) (.applied r.instrument t)]
  · simp
  · simp [Entry.serial?, Call.registration]
  · simp
  · exact .promote w promoted (w.get?_of_applying found) serial
  · intro after
    apply Lives.of_conforms .live
    · rw [after, trace]
      exact .applied k t
    · exact ⟨_, (w.live_promote promoted r.id).trans (if_pos rfl), serial, instrument⟩

/-- A patch that is in place is never taken back, since its instrument is applying. -/
theorem Orderly.promotes (orderly : Position.Orderly ⟨v, .patch r :: calls⟩)
    (coherent : Position.Coherent ⟨v, .patch r :: calls⟩) :
  (v.registry.promote r.id).1 ≠ none
  := by
  intro refused
  obtain ⟨-, ⟨s, found, -⟩, -⟩ := orderly.patching coherent
  cases found.symm.trans (coherent.wellKept.promote_none refused).1

/-- An install has taken its patch back. -/
theorem Turns.settle (orderly : Position.Orderly ⟨v, .restore r :: calls⟩)
    (coherent : Position.Coherent ⟨v, .restore r :: calls⟩)
    (answer : Except TransformError Unit) :
  Position.Turns ⟨v, .restore r :: calls⟩ ⟨v.add [(Call.restore r).answered answer], calls⟩ r
  := by
  obtain ⟨rfl, gone, k, source, t, trace⟩ := orderly.restoring coherent
  apply Turns.of_answer (r := r) rfl [(Call.restore r).answered answer] rfl
  · simp [Entry.serial?, Call.registration]
  · simp
  · exact .refl _ _
  · intro after
    refine Lives.of_conforms .gone ?_ gone
    rw [after, trace, List.append_assoc]
    exact .rejected k source t answer

/-- An applying instrument is removed. -/
theorem Turns.drop (orderly : Position.Orderly ⟨v, []⟩) (coherent : Position.Coherent ⟨v, []⟩)
    {x : InstrumentId} (found : v.registry.applying.get? x = some r) (cause : Option String)
    (t : Instant) :
  Position.Turns ⟨v, []⟩
    ⟨(v.detach x).add [.published (some r.serial) (.removed r.instrument cause t)], []⟩ r
  := by
  have w := coherent.wellKept
  have registered := w.get?_of_applying found
  obtain ⟨k, tried, trace⟩ := orderly.deferred coherent found
  apply Turns.of_registered coherent registered
    [.published (some r.serial) (.removed r.instrument cause t)] rfl
  · simp [Entry.serial?]
  · simp
  · exact .detach w registered rfl
  · intro after
    apply Lives.of_conforms .gone
    · rw [after, trace]
      exact .dropped k tried cause t
    · apply Place.Holds.detached w registered

/-- A live instrument is taken out, and its patch taken back. -/
theorem Turns.withdraw (orderly : Position.Orderly ⟨v, []⟩) (coherent : Position.Coherent ⟨v, []⟩)
    {x : InstrumentId} (found : v.registry.live.get? x = some r) :
  Position.Turns ⟨v, []⟩
    ⟨(v.detach x).add [(Call.withdraw r.remove).asked], [.withdraw r.remove]⟩ r
  := by
  have w := coherent.wellKept
  have registered := Registry.get?_of_live found
  obtain ⟨k, t, trace⟩ := orderly.patched coherent found
  apply Turns.of_registered coherent registered [(Call.withdraw r.remove).asked] rfl
  · simp [Entry.serial?, Call.registration, Registration.remove]
  · simp [Call.registration, Registration.remove]
  · exact .detach w registered rfl
  · intro after
    apply Lives.of_underway (.withdraw r.remove)
    · change (Call.withdraw r.remove).Underway (View.trace _ r.serial)
      rw [after, trace]
      exact .withdraw r.remove k t
    · apply Place.Holds.detached w registered

/-- The removal of a live instrument is over. -/
theorem Turns.part (orderly : Position.Orderly ⟨v, .withdraw r :: calls⟩)
    (coherent : Position.Coherent ⟨v, .withdraw r :: calls⟩)
    (answer : Except TransformError Unit) (cause : Option String) (t : Instant) :
  Position.Turns ⟨v, .withdraw r :: calls⟩
    ⟨v.add [(Call.withdraw r).answered answer,
      .published (some r.serial) (.removed r.instrument cause t)], calls⟩ r
  := by
  obtain ⟨rfl, gone, k, t', trace⟩ := orderly.withdrawing coherent
  apply Turns.of_answer (r := r) rfl
    [(Call.withdraw r).answered answer,
      .published (some r.serial) (.removed r.instrument cause t)] rfl
  · simp [Entry.serial?, Call.registration]
  · simp
  · exact .refl _ _
  · intro after
    refine Lives.of_conforms .gone ?_ gone
    rw [after, trace, List.append_assoc]
    exact .withdrawn k t' answer cause t

end Position

namespace Move

variable {p q : Position}

/-- While one operation runs after another, a move is about one registration or about none. -/
theorem turns (move : Move Conduct.sequential p q) (coherent : p.Coherent) (orderly : p.Orderly) :
  p.Stays q ∨ ∃ r, p.Turns q r
  := by
  cases move with
  | touch v calls x f alike => exact .inl (.touch coherent.wellKept calls x alike)
  | refuse v calls i err t free invalid => exact .inl (.refuse v calls (.refused i err t invalid))
  | complain v calls raw cause t => exact .inl (.refuse v calls (.complained raw cause t))
  | takeDue v calls now => exact .inl (.retry v calls _)
  | forget v calls x gone => exact .inl (.retry v calls _)
  | register v calls i candidate r g opens valid fresh =>
    obtain ⟨_, _, rfl, -⟩ := opens
    exact .inr ⟨r, .register coherent fresh⟩
  | attempt v calls x r opens applying =>
    obtain ⟨_, _, rfl, -⟩ := opens
    exact .inr ⟨r, .attempt orderly coherent applying⟩
  | found v calls r may => exact .inr ⟨r, .found orderly coherent⟩
  | defer v calls r now dueAt attempts may patient scheduled =>
    exact .inr ⟨r, .defer orderly coherent _⟩
  | fail v calls r now err t may givesUp => exact .inr ⟨r, .fail orderly coherent err t⟩
  | reject v calls r source t may => exact .inr ⟨r, .reject orderly coherent source t⟩
  | confirm v calls r s t may promoted => exact .inr ⟨r, .confirm orderly coherent promoted t⟩
  | revert v calls r may refused => exact absurd refused (orderly.promotes coherent)
  | settle v calls r answer may => exact .inr ⟨r, .settle orderly coherent answer⟩
  | drop v calls x r cause t opens detached applying =>
    obtain ⟨_, _, rfl, -⟩ := opens
    obtain ⟨s, found, rfl⟩ := coherent.wellKept.detach_applying detached applying
    exact .inr ⟨s, .drop orderly coherent found cause t⟩
  | withdraw v calls x r opens detached live =>
    obtain ⟨_, _, rfl, -⟩ := opens
    obtain ⟨s, found, rfl⟩ := coherent.wellKept.detach_live detached live
    exact .inr ⟨s, .withdraw orderly coherent found⟩
  | part v calls r answer cause t may => exact .inr ⟨r, .part orderly coherent answer _ t⟩
  | clear v calls may => exact absurd rfl may.2

/-- While one operation runs after another, a move keeps the lives orderly. -/
theorem orderly (move : Move Conduct.sequential p q) (coherent : p.Coherent) (h : p.Orderly) :
  q.Orderly
  := by
  rcases move.turns coherent h with stays | ⟨r, turns⟩
  · apply stays.orderly h
  · apply turns.orderly h

/-- While one operation runs after another, a registration leads its life on. -/
theorem lives (move : Move Conduct.sequential p q) (coherent : p.Coherent) (orderly : p.Orderly)
    {n : Nat} {i : Instrument} (old : n < p.view.registry.nextSerial) (h : p.Lives n i) :
  q.Lives n i
  := by
  rcases move.turns coherent orderly with stays | ⟨r, turns⟩
  · apply stays.keep old h
  · apply turns.keep old h

end Move

namespace Conduct

variable {settings : Settings} {clock : Instant} {s s' : Session}

/-- While one operation runs after another, the lives are orderly. -/
theorem Run.orderly (run : sequential.Run (.idle (.new settings clock)) s) :
  s.position.Orderly
  := by
  apply run.coherent_invariant Move.orderly
  intro retries
  constructor
  · intro n lt
    cases lt
  · simp

/-- While one operation runs after another, a registration leads the life of one instrument. -/
theorem Run.lives (run : sequential.Run (.idle (.new settings clock)) s)
    (later : sequential.Run s s') {n : Nat} {i : Instrument} (lives : s.position.Lives n i)
    (old : n < s.position.view.registry.nextSerial) :
  s'.position.Lives n i
  := by
  have step {p q : Position} (move : Move sequential p q)
      (h : p.Coherent ∧ p.Orderly ∧ n < p.view.registry.nextSerial ∧ p.Lives n i) :
      q.Coherent ∧ q.Orderly ∧ n < q.view.registry.nextSerial ∧ q.Lives n i := by
    obtain ⟨coherent, orderly, old, lives⟩ := h
    have more := (move.succeeds coherent.wellKept).2.nextSerial_le
    exact ⟨move.coherent coherent, move.orderly coherent orderly, Nat.lt_of_lt_of_le old more,
      move.lives coherent orderly old lives⟩
  have moves := (later.moves run.keeps).1
  exact (moves.preserve step ⟨run.coherent, run.orderly, old, lives⟩).2.2.2

end Conduct

/-- Where no call waits, every registration is where its trace says. -/
theorem Position.Lives.conforms {p : Position} {n : Nat} {i : Instrument} (lives : p.Lives n i)
    (ended : p.calls = []) :
  ∃ place, Conforms n i place (p.view.trace n) ∧ place.Holds p.view.registry n i
  := by
  cases lives with
  | rests place rests => exact ⟨place, rests.conforms, rests.holds⟩
  | busy call busy =>
    rw [busy.alone] at ended
    cases ended

/-! ### Installs -/

/-- What becomes of an install of `i` on an engine `e`, which goes on with an answer and an engine.
The view `v` comes later. -/
inductive Installs (e : Engine) (i : Instrument) (v : View)
    (goesOn : Except InstrumentError Instrument → Engine → Prop) : Prop where
  /-- The identity is registered, and nothing happens. -/
  | coalesced (r : Registration) (found : e.registry.get? i.id = some r) (e' : Engine)
      (same : e'.view = e.view) (rest : goesOn (.ok r.instrument) e')
  /-- The condition cannot be read, and a removal is published. -/
  | refused (err : InstrumentError) (t : Instant) (free : e.registry.get? i.id = none)
      (invalid : Candidate.ofInstrument i = .error err) (e' : Engine)
      (said : e'.view = e.view.add [.published none (.removed i (some err.message) t)])
      (rest : goesOn (.error err) e')
  /-- The instrument is registered. Its trace conforms, and it is where its trace says. -/
  | registered (candidate : Candidate) (free : e.registry.get? i.id = none)
      (valid : Candidate.ofInstrument i = .ok candidate) (place : Place)
      (conforms : Conforms e.registry.nextSerial i place (v.trace e.registry.nextSerial))
      (holds : place.Holds v.registry e.registry.nextSerial i)

namespace Session

variable {op : Operation} {waiting : List Pending} {finished : List ((op : Operation) × op.Result)}
  {f : Except InstrumentError Instrument → Routine op.Result} {e : Engine} {i : Instrument}

/-- A look at the engine. -/
theorem proceed_gets {α β : Type} (g : Engine → α) (k : α → Routine β) (f : β → Routine op.Result) :
  proceed op waiting finished (Routine.gets g >>= k >>= f) e
    = proceed op waiting finished (k (g e) >>= f) e
  := rfl

/-- A change of the engine with a result. -/
theorem proceed_update {α β : Type} (g : Engine → α × Engine) (k : α → Routine β)
    (f : β → Routine op.Result) :
  proceed op waiting finished (Routine.update g >>= k >>= f) e
    = proceed op waiting finished (k (g e).1 >>= f) (g e).2
  := rfl

/-- An install of an identity that is registered. -/
theorem proceed_install_coalesced {r : Registration} (found : e.registry.get? i.id = some r) :
  proceed op waiting finished (Lifecycle.install i >>= f) e
    = proceed op waiting finished (f (.ok r.instrument))
        (e.log .debug "instrument already registered, coalescing" [])
  := by
  rw [Lifecycle.install, proceed_gets, found]
  rfl

/-- An install whose condition cannot be read. -/
theorem proceed_install_refused {err : InstrumentError} (free : e.registry.get? i.id = none)
    (invalid : Candidate.ofInstrument i = .error err) :
  proceed op waiting finished (Lifecycle.install i >>= f) e
    = proceed op waiting finished (f (.error err))
        ((e.log .warn "rejecting instrument" [("error", err.message)]).publish none
          (.removed i (some err.message) e.clock))
  := by
  rw [Lifecycle.install, proceed_gets, free]
  dsimp only
  rw [invalid]
  rfl

/-- An install that registers its instrument asks for its unit. -/
theorem calls_install_registered {candidate : Candidate} (free : e.registry.get? i.id = none)
    (valid : Candidate.ofInstrument i = .ok candidate) :
  (proceed op waiting finished (Lifecycle.install i >>= f) e).calls
    = .resolve (.ofCandidate e.registry.nextSerial candidate) :: waiting.map Pending.call
  := by
  obtain rfl := Candidate.instrument_of valid
  have reserved : e.registry.reserve candidate
      = (.fresh (.ofCandidate e.registry.nextSerial candidate),
          (e.registry.reserve candidate).2) := by
    simp [Registry.reserve, free]
  rw [Lifecycle.install, proceed_gets, free]
  dsimp only
  rw [valid, proceed_update, reserved]
  rfl

/-- What becomes of an install. Later, where no call waits, the registration that was made for it
is where its trace says. -/
theorem proceed_installs {settings : Settings} {clock : Instant} {s : Session}
    (run : Conduct.sequential.Run (.idle (.new settings clock))
      (proceed op waiting finished (Lifecycle.install i >>= f) e))
    (later : Conduct.sequential.Run (proceed op waiting finished (Lifecycle.install i >>= f) e) s)
    (ended : s.waiting = []) :
  Installs e i s.engine.view fun answer e' =>
    proceed op waiting finished (Lifecycle.install i >>= f) e
      = proceed op waiting finished (f answer) e'
  := by
  cases registered : e.registry.get? i.id with
  | some r =>
    apply Installs.coalesced r registered _ _ (proceed_install_coalesced registered)
    simp
  | none =>
    cases valid : Candidate.ofInstrument i with
    | error err =>
      apply Installs.refused err e.clock registered valid _ _
        (proceed_install_refused registered valid)
      simp
    | ok candidate =>
      have calls : (proceed op waiting finished (Lifecycle.install i >>= f) e).calls
          = .resolve (.ofCandidate e.registry.nextSerial candidate) :: waiting.map Pending.call :=
        calls_install_registered registered valid
      generalize proceed op waiting finished (Lifecycle.install i >>= f) e = s₁ at *
      have position : s₁.position = ⟨s₁.engine.view, _⟩ :=
        congrArg (Position.mk s₁.engine.view) calls
      have orderly := run.orderly
      have coherent := run.coherent
      rw [position] at orderly coherent
      obtain ⟨none, busy⟩ := orderly.busy coherent
      rw [none] at position
      have lives := Position.Lives.busy _ busy
      have old := coherent.knows_head.serial_lt
      rw [← position] at lives
      have idle : s.position.calls = [] := congrArg (List.map Pending.call) ended
      obtain ⟨place, conforms, holds⟩ := (run.lives later lives old).conforms idle
      obtain rfl := Candidate.instrument_of valid
      exact .registered candidate registered valid place conforms holds

end Session

/-- When one operation runs after another, whatever the calls are answered, and no operation is in
progress, the calls and the events of every registration conform to the life of an instrument, and
it is in the store its trace says; the rest of the history are refusals. An install that was made
on the way was coalesced, or refused, or its own registration conforms. -/
theorem registrations_conform (settings : Settings) (clock : Instant) (s : Session)
    (run : Conduct.sequential.Run (.idle (.new settings clock)) s) (ended : s.waiting = []) :
  (∀ n < s.engine.registry.nextSerial, ∃ i place,
      Conforms n i place (s.engine.view.trace n) ∧ place.Holds s.engine.registry n i)
    ∧ (∀ entry ∈ s.engine.history,
        entry.Unregistered ∨ ∃ n < s.engine.registry.nextSerial, entry ∈ s.engine.view.trace n)
    ∧ ∀ op waiting finished i (f : _ → Routine (Operation.Result op)) e,
      Conduct.sequential.Run (.idle (.new settings clock))
          (.proceed op waiting finished (Lifecycle.install i >>= f) e)
        → Conduct.sequential.Run (.proceed op waiting finished (Lifecycle.install i >>= f) e) s
        → Installs e i s.engine.view fun answer e' =>
            Session.proceed op waiting finished (Lifecycle.install i >>= f) e
              = Session.proceed op waiting finished (f answer) e'
  := by
  have idle : s.position.calls = [] := congrArg (List.map Pending.call) ended
  constructor
  · intro n lt
    obtain ⟨i, lives⟩ := run.orderly.lives n lt
    exact ⟨i, lives.conforms idle⟩
  constructor
  · intro entry mem
    cases about : entry.serial? with
    | none => exact .inl (run.orderly.unregistered entry mem about)
    | some n =>
      right
      use n, run.coherent.serial_lt mem about
      simpa [View.trace, mem] using about
  · intro op waiting finished i f e before after
    apply Session.proceed_installs before after ended

/-- An install whose patch succeeds has the trace of a live instrument, and is live. -/
theorem registrations_conform_install :
  ∃ s, Conduct.sequential.Run (.idle (.new .default default)) s ∧ s.waiting = []
    ∧ Conforms 0 (.breakpointIn "U") .live (s.engine.view.trace 0)
    ∧ Place.live.Holds s.engine.registry 0 (.breakpointIn "U")
  := by
  let i := Instrument.breakpointIn "U"
  have starts : Conduct.sequential.AllowsAll (.idle (.new .default default))
      [.start (.install i)] :=
    ⟨⟨rfl, nofun⟩, trivial⟩
  have ends : Conduct.sequential.AllowsAll
      ((Session.idle (.new .default default)).play [.start (.install i)])
      [.reply true, .reply true] :=
    ⟨trivial, trivial, trivial⟩
  -- the session is known by what is computed of it once
  obtain ⟨s, later, ended, notApplying, registered⟩ : ∃ s, Conduct.sequential.Run
        ((Session.idle (.new .default default)).play [.start (.install i)]) s
      ∧ s.waiting.isEmpty = true ∧ (s.engine.registry.applying.get? i.id).isNone = true
      ∧ (s.engine.registry.get? i.id).map Registration.serial = some 0 :=
    ⟨_, ends.run, by decide +kernel, by decide +kernel, by decide +kernel⟩
  have run := starts.run.trans later
  have none : s.waiting = [] := List.isEmpty_iff.mp ended
  obtain ⟨-, -, installs⟩ := registrations_conform .default default s run none
  have becomes := installs (.install i) [] [] i pure (.new .default default)
  rw [bind_pure] at becomes
  refine ⟨s, run, none, ?_⟩
  cases becomes starts.run later with
  | coalesced r found => cases found
  | refused err t free invalid => cases invalid
  | registered candidate free valid place conforms holds =>
    cases place with
    | applying =>
      obtain ⟨r, found, -⟩ := holds
      cases (Option.isNone_iff_eq_none.mp notApplying).symm.trans found
    | live => exact ⟨conforms, holds⟩
    | gone =>
      obtain ⟨r, found, serial⟩ := Option.map_eq_some_iff.mp registered
      exact absurd serial (holds i.id r found)

end Instrumentation
