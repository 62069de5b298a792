import Instrumentation.Proofs.Simulation

/-!
# Coherence

Serial numbers are given out in order, and a registration that has left the registry does not come
back: what is registered after a move was registered before it, or is new. Every call that waits
is made for a registration that has been given its number, and agrees with the entry of that
number as long as there is one. The entries of the history are about such registrations, too.
-/

namespace Instrumentation

namespace Registry

variable {g g' : Registry} {x : InstrumentId} {r s : Registration}

/-- Every entry of the later registry is new, or comes from an entry of the earlier one under the
same identity. An instrument does not go back to applying. -/
structure Succeeds (g' g : Registry) : Prop where
  /-- Numbers are given out in order. -/
  nextSerial_le : g.nextSerial ≤ g'.nextSerial
  /-- An entry whose number is not new has its instrument from before. -/
  stems : ∀ {x r}, g'.get? x = some r
    → g.nextSerial ≤ r.serial
      ∨ ∃ s, g.get? x = some s ∧ s.serial = r.serial ∧ s.instrument = r.instrument
  /-- An applying entry whose number is not new was applying before. -/
  applied : ∀ {x r}, g'.applying.get? x = some r
    → g.nextSerial ≤ r.serial
      ∨ ∃ s, g.applying.get? x = some s ∧ s.serial = r.serial ∧ s.instrument = r.instrument

namespace Succeeds

/-- A registry that has not changed. -/
protected theorem refl (g : Registry) :
  g.Succeeds g
  := ⟨Nat.le_refl _, fun {_ r} h => .inr ⟨r, h, rfl, rfl⟩, fun {_ r} h => .inr ⟨r, h, rfl, rfl⟩⟩

/-- One registry after another. -/
protected theorem trans {g'' : Registry} (h : g''.Succeeds g') (h' : g'.Succeeds g) :
  g''.Succeeds g
  := by
  constructor
  · apply Nat.le_trans h'.nextSerial_le h.nextSerial_le
  · intro x r found
    rcases h.stems found with new | ⟨s, before, serial, instrument⟩
    · exact .inl (Nat.le_trans h'.nextSerial_le new)
    · rcases h'.stems before with new | ⟨q, first, serial', instrument'⟩
      · exact .inl (serial ▸ new)
      · exact .inr ⟨q, first, serial'.trans serial, instrument'.trans instrument⟩
  · intro x r found
    rcases h.applied found with new | ⟨s, before, serial, instrument⟩
    · exact .inl (Nat.le_trans h'.nextSerial_le new)
    · rcases h'.applied before with new | ⟨q, first, serial', instrument'⟩
      · exact .inl (serial ▸ new)
      · exact .inr ⟨q, first, serial'.trans serial, instrument'.trans instrument⟩

/-- The registry after a detachment. -/
protected theorem detach (w : g.WellKept) (x : InstrumentId) :
  (g.detach x).2.Succeeds g
  := by
  constructor
  · apply Nat.le_of_eq
    symm
    apply nextSerial_detach
  · intro y r h
    rw [w.get?_detach] at h
    split at h
    next => cases h
    next => exact .inr ⟨r, h, rfl, rfl⟩
  · intro y r h
    rw [w.applying_detach] at h
    split at h
    next => cases h
    next => exact .inr ⟨r, h, rfl, rfl⟩

/-- The registry after a promotion. -/
protected theorem promote (w : g.WellKept) (x : InstrumentId) :
  (g.promote x).2.Succeeds g
  := by
  cases promoted : (g.promote x).1 with
  | none =>
    rw [(w.promote_none promoted).2]
    apply Succeeds.refl
  | some s =>
    obtain ⟨q, applying, rfl, -⟩ := w.promote_some promoted
    constructor
    · apply Nat.le_of_eq
      symm
      apply nextSerial_promote
    · intro y r h
      rw [w.get?_promote promoted] at h
      split at h
      next eq =>
        obtain rfl := Option.some.inj h
        exact .inr ⟨q, eq ▸ w.get?_of_applying applying, rfl, rfl⟩
      next => exact .inr ⟨r, h, rfl, rfl⟩
    · intro y r h
      rw [w.applying_promote promoted] at h
      split at h
      next => cases h
      next => exact .inr ⟨r, h, rfl, rfl⟩

/-- The registry after a change of an entry. -/
protected theorem modify (w : g.WellKept) (x : InstrumentId) {f : Registration → Registration}
    (alike : ∀ r, (f r).Alike r) :
  (g.modify x f).Succeeds g
  := by
  constructor
  · apply Nat.le_of_eq
    symm
    apply nextSerial_modify
  · intro y r h
    rw [w.get?_modify] at h
    split at h
    next eq =>
      obtain ⟨q, hq, rfl⟩ := Option.map_eq_some_iff.mp h
      exact .inr ⟨q, eq ▸ hq, (alike q).serial.symm, (alike q).instrument.symm⟩
    next => exact .inr ⟨r, h, rfl, rfl⟩
  · intro y r h
    rw [w.applying_modify] at h
    split at h
    next eq =>
      obtain ⟨q, hq, rfl⟩ := Option.map_eq_some_iff.mp h
      exact .inr ⟨q, eq ▸ hq, (alike q).serial.symm, (alike q).instrument.symm⟩
    next => exact .inr ⟨r, h, rfl, rfl⟩

/-- The registry after a fresh registration. -/
protected theorem reserve {c : Candidate} (fresh : g.reserve c = (.fresh r, g')) :
  g'.Succeeds g
  := by
  obtain ⟨-, hr, hg⟩ := reserve_fresh fresh
  have new : g.nextSerial ≤ r.serial := by
    rw [hr]
    apply Nat.le_refl _
  constructor
  · rw [hg]
    apply Nat.le_succ _
  · intro y s h
    rw [get?_reserve fresh] at h
    split at h
    next =>
      obtain rfl := Option.some.inj h
      exact .inl new
    next => exact .inr ⟨s, h, rfl, rfl⟩
  · intro y s h
    rw [applying_reserve fresh] at h
    split at h
    next =>
      obtain rfl := Option.some.inj h
      exact .inl new
    next => exact .inr ⟨s, h, rfl, rfl⟩

/-- The registry after everything is dropped. -/
protected theorem clear (g : Registry) :
  g.clear.2.Succeeds g
  := ⟨Nat.le_refl _, fun h => by simp [clear, get?] at h, fun h => by simp [clear] at h⟩

end Succeeds

/-- The registration was given its number, and the entry of that number, if there is one, has its
instrument. -/
structure Knows (g : Registry) (r : Registration) : Prop where
  /-- The number was given out. -/
  serial_lt : r.serial < g.nextSerial
  /-- The entry of that number has the instrument. -/
  instrument_eq : ∀ {x s}, g.get? x = some s → s.serial = r.serial → s.instrument = r.instrument

/-- A registered instrument is known. -/
theorem WellKept.knows (w : g.WellKept) (h : g.get? x = some r) :
  g.Knows r
  := by
  constructor
  · apply w.serial_lt h
  · intro y s hs eq
    rw [w.eq_of_serial hs h eq]

/-- A detached instrument was known. -/
theorem WellKept.knows_detached (w : g.WellKept) (h : (g.detach x).1 = some r) :
  g.Knows r
  := by
  rw [detach_fst] at h
  obtain ⟨s, registered, rfl⟩ := Option.map_eq_some_iff.mp h
  have knows := w.knows registered
  exact ⟨knows.serial_lt, knows.instrument_eq⟩

/-- What is known stays known. -/
theorem Knows.succeed (h : g.Knows r) (later : g'.Succeeds g) :
  g'.Knows r
  := by
  constructor
  · apply Nat.lt_of_lt_of_le h.serial_lt later.nextSerial_le
  · intro x s hs eq
    rcases later.stems hs with new | ⟨q, hq, serial, instrument⟩
    · have := h.serial_lt
      omega
    · rw [← instrument]
      apply h.instrument_eq hq
      rw [serial, eq]

end Registry

/-- The instrument of a candidate is the one it was made of. -/
theorem Candidate.instrument_of {i : Instrument} {candidate : Candidate}
    (valid : ofInstrument i = .ok candidate) :
  candidate.instrument = i
  := by
  rw [ofInstrument] at valid
  split at valid
  · obtain rfl := Except.ok.inj valid
    rfl
  · split at valid
    · obtain rfl := Except.ok.inj valid
      rfl
    · cases valid

/-- The registry is well kept, and what waits and what happened is about registrations that are
known. -/
structure Position.Coherent (p : Position) : Prop where
  /-- The registry is well kept. -/
  wellKept : p.view.registry.WellKept
  /-- Calls are made for known registrations. -/
  knows : ∀ {call}, call ∈ p.calls → p.view.registry.Knows call.registration
  /-- Entries are about registrations that were given their number. -/
  serial_lt : ∀ {entry n}, entry ∈ p.view.history → entry.serial? = some n
    → n < p.view.registry.nextSerial

namespace Position.Coherent

variable {p q : Position}

/-- A call answered in a coherent position is made for a known registration. -/
theorem knows_head {v : View} {call : Call} {calls : List Call}
    (h : Position.Coherent ⟨v, call :: calls⟩) :
  v.registry.Knows call.registration
  := h.knows (.head _)

/-- A position stays coherent if the calls that are new, and the entries that are new, are about
registrations that are known. -/
theorem extend (h : p.Coherent) (w : q.view.registry.WellKept)
    (later : q.view.registry.Succeeds p.view.registry) (entries : List Entry)
    (history : q.view.history = p.view.history ++ entries)
    (calls : ∀ call ∈ q.calls, call ∈ p.calls ∨ q.view.registry.Knows call.registration)
    (serials : ∀ entry ∈ entries, ∀ n, entry.serial? = some n
      → n < q.view.registry.nextSerial) :
  q.Coherent
  := by
  constructor
  · exact w
  · intro call mem
    rcases calls call mem with old | new
    · apply (h.knows old).succeed later
    · exact new
  · intro entry n mem about
    rw [history, List.mem_append] at mem
    rcases mem with old | new
    · apply Nat.lt_of_lt_of_le (h.serial_lt old about) later.nextSerial_le
    · apply serials entry new n about

end Position.Coherent

namespace Move

variable {c : Conduct} {p q : Position}

/-- A move keeps the registry well kept, and what is registered after it was registered before it
or is new. -/
theorem succeeds (move : Move c p q) (w : p.view.registry.WellKept) :
  q.view.registry.WellKept ∧ q.view.registry.Succeeds p.view.registry
  := by
  cases move with
  | touch v calls x f alike => exact ⟨w.modify x alike, .modify w x alike⟩
  | refuse => exact ⟨w, .refl _⟩
  | complain => exact ⟨w, .refl _⟩
  | takeDue => exact ⟨w, .refl _⟩
  | forget => exact ⟨w, .refl _⟩
  | register v calls i candidate r g opens valid fresh => exact ⟨w.reserve fresh, .reserve fresh⟩
  | attempt => exact ⟨w, .refl _⟩
  | found => exact ⟨w, .refl _⟩
  | defer => exact ⟨w, .refl _⟩
  | fail v calls r => exact ⟨w.detach r.id, .detach w r.id⟩
  | reject v calls r => exact ⟨w.detach r.id, .detach w r.id⟩
  | confirm v calls r => exact ⟨w.promote r.id, .promote w r.id⟩
  | revert v calls r => exact ⟨w.promote r.id, .promote w r.id⟩
  | settle => exact ⟨w, .refl _⟩
  | drop v calls x => exact ⟨w.detach x, .detach w x⟩
  | withdraw v calls x => exact ⟨w.detach x, .detach w x⟩
  | part => exact ⟨w, .refl _⟩
  | clear v => exact ⟨.clear v.registry, .clear v.registry⟩

/-- A move leads from a coherent position to a coherent one. -/
theorem coherent (move : Move c p q) (h : p.Coherent) :
  q.Coherent
  := by
  obtain ⟨w, later⟩ := move.succeeds h.wellKept
  have same {calls : List Call} {g : Registry} :
      ∀ call ∈ calls, call ∈ calls ∨ g.Knows call.registration := fun _ mem => .inl mem
  have answered {head : Call} {calls : List Call} {g : Registry} :
      ∀ call ∈ calls, call ∈ head :: calls ∨ g.Knows call.registration :=
    fun _ mem => .inl (.tail _ mem)
  have made {head : Call} {calls : List Call} {g : Registry} (knows : g.Knows head.registration) :
      ∀ call ∈ head :: calls, call ∈ calls ∨ g.Knows call.registration :=
    List.forall_mem_cons.mpr ⟨.inr knows, same⟩
  have followed {head next : Call} {calls : List Call} {g : Registry}
      (knows : g.Knows next.registration) :
      ∀ call ∈ next :: calls, call ∈ head :: calls ∨ g.Knows call.registration :=
    List.forall_mem_cons.mpr ⟨.inr knows, answered⟩
  cases move with
  | touch => apply h.extend w later [] (by simp) same (by simp)
  | refuse => apply h.extend w later _ rfl same (by simp [Entry.serial?])
  | complain => apply h.extend w later _ rfl same (by simp [Entry.serial?])
  | takeDue => apply h.extend w later [] (by simp) same (by simp)
  | forget => apply h.extend w later [] (by simp) same (by simp)
  | register v calls i candidate r g opens valid fresh =>
    have new : g.get? r.id = some r := by simp [Registry.get?_reserve fresh]
    have knows : g.Knows r := Registry.WellKept.knows w new
    apply h.extend w later _ rfl (made knows)
    simpa [Entry.serial?, Call.registration] using knows.serial_lt
  | attempt v calls x r opens applying =>
    have knows : v.registry.Knows r := w.knows (w.get?_of_applying applying)
    apply h.extend w later _ rfl (made knows)
    simpa [Entry.serial?, Call.registration] using knows.serial_lt
  | found v calls r may =>
    have knows : v.registry.Knows r := h.knows_head
    apply h.extend w later _ rfl (followed knows)
    simpa [Entry.serial?, Call.registration] using knows.serial_lt
  | defer v calls r now dueAt attempts may patient scheduled =>
    have knows : v.registry.Knows r := h.knows_head
    apply h.extend w later _ rfl answered
    simpa [Entry.serial?, Call.registration] using knows.serial_lt
  | fail v calls r now err t may givesUp =>
    have knows := h.knows_head.succeed later
    apply h.extend w later ([(Call.resolve r).answered false] ++ v.failure r err t) _ answered
    · intro entry mem n about
      have own := v.serial?_of_mem_fail r err t entry mem
      obtain rfl := Option.some.inj (own.symm.trans about)
      exact knows.serial_lt
    · simp
  | reject v calls r source t may =>
    have knows := h.knows_head.succeed later
    apply h.extend w later
      ([(Call.patch r).answered (.error source)] ++ v.failure r (.patchFailed r.id source) t
        ++ [(Call.restore r).asked]) _ (followed knows)
    · intro entry mem n about
      have own := v.serial?_of_mem_reject r source t entry mem
      obtain rfl := Option.some.inj (own.symm.trans about)
      exact knows.serial_lt
    · simp
  | confirm v calls r s t may promoted =>
    have knows := h.knows_head.succeed later
    apply h.extend w later
      [(Call.patch r).answered (.ok ()), .published (some r.serial) (.applied r.instrument t)] _
      answered
    · simpa [Entry.serial?, Call.registration] using knows.serial_lt
    · simp
  | revert v calls r may refused =>
    have knows := h.knows_head.succeed later
    apply h.extend w later [(Call.patch r).answered (.ok ()), (Call.restore r).asked] _
      (followed knows)
    · simpa [Entry.serial?, Call.registration] using knows.serial_lt
    · simp
  | settle v calls r answer may =>
    have knows : v.registry.Knows r := h.knows_head
    apply h.extend w later _ rfl answered
    simpa [Entry.serial?, Call.registration] using knows.serial_lt
  | drop v calls x r cause t opens detached applying =>
    have knows := (h.wellKept.knows_detached detached).succeed later
    apply h.extend w later _ rfl same
    simpa [Entry.serial?] using knows.serial_lt
  | withdraw v calls x r opens detached live =>
    have knows := (h.wellKept.knows_detached detached).succeed later
    apply h.extend w later _ rfl (made knows)
    simpa [Entry.serial?, Call.registration] using knows.serial_lt
  | part v calls r answer cause t may =>
    have knows : v.registry.Knows r := h.knows_head
    apply h.extend w later _ rfl answered
    simpa [Entry.serial?, Call.registration] using knows.serial_lt
  | clear => apply h.extend w later [] (by simp) same (by simp)

end Move

/-- An engine without instruments is coherent. -/
theorem Position.Coherent.new (retries : RetryQueue) :
  Position.Coherent ⟨{ registry := .empty, retries, history := [] }, []⟩
  := ⟨.empty, by simp, by simp⟩

/-- Every session that begins on an engine without instruments is coherent throughout. -/
theorem Conduct.Run.coherent {c : Conduct} {settings : Settings} {clock : Instant} {s : Session}
    (run : c.Run (.idle (.new settings clock)) s) :
  s.position.Coherent
  := Run.invariant .new Move.coherent run

/-- What holds of an engine without instruments and is preserved by every move from a coherent
position holds throughout every session. -/
theorem Conduct.Run.coherent_invariant {c : Conduct} {holds : Position → Prop}
    {settings : Settings} {clock : Instant} {s : Session}
    (run : c.Run (.idle (.new settings clock)) s)
    (preserved : ∀ {p q}, Move c p q → p.Coherent → holds p → holds q)
    (new : ∀ retries, holds ⟨{ registry := .empty, retries, history := [] }, []⟩) :
  holds s.position
  := by
  have both {p q : Position} (move : Move c p q) (h : p.Coherent ∧ holds p) :
      q.Coherent ∧ holds q :=
    ⟨move.coherent h.1, preserved move h.1 h.2⟩
  exact (Run.invariant (fun retries => ⟨.new retries, new retries⟩) both run).2

end Instrumentation
