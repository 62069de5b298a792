import Instrumentation.Proofs.Coherence

/-!
# Traces

What happens to one registration is the trace of its number in the history. The registration is
applying, live or gone, and stays where it is when something happens to another one.
-/

namespace Instrumentation

/-- The calls, the answers and the events about a registration, the oldest first. -/
def View.trace (v : View) (n : Nat) : List Entry :=
  v.history.filter fun entry => entry.serial? = some n

/-- Where a registration is. -/
inductive Place where
  /-- In the applying store. -/
  | applying
  /-- In the live store. -/
  | live
  /-- In neither store. -/
  | gone

/-- The registry has the registration `n` of an instrument in its place, under the identity of the
instrument. -/
def Place.Holds (g : Registry) (n : Nat) (i : Instrument) : Place → Prop
  | applying => ∃ r, g.applying.get? i.id = some r ∧ r.serial = n ∧ r.instrument = i
  | live => ∃ r, g.live.get? i.id = some r ∧ r.serial = n ∧ r.instrument = i
  | gone => ∀ x r, g.get? x = some r → r.serial ≠ n

namespace View

variable {v w : View} {n : Nat} {entries : List Entry}

/-- A trace goes on with the entries about its registration. -/
theorem trace_append (history : w.history = v.history ++ entries)
    (about : ∀ entry ∈ entries, entry.serial? = some n) :
  w.trace n = v.trace n ++ entries
  := by
  rw [trace, trace, history, List.filter_append]
  congr 1
  apply List.filter_eq_self.mpr
  simpa using about

/-- A trace does not change with entries that are not about its registration. -/
theorem trace_eq (history : w.history = v.history ++ entries)
    (others : ∀ entry ∈ entries, entry.serial? ≠ some n) :
  w.trace n = v.trace n
  := by
  have none : entries.filter (fun entry => entry.serial? = some n) = [] := by
    apply List.filter_eq_nil_iff.mpr
    simpa using others
  rw [trace, trace, history, List.filter_append, none, List.append_nil]

end View

/-- A number that was not given out has no trace. -/
theorem Position.Coherent.trace_eq_nil {p : Position} (coherent : p.Coherent) {n : Nat}
    (new : p.view.registry.nextSerial ≤ n) :
  p.view.trace n = []
  := by
  apply List.filter_eq_nil_iff.mpr
  intro entry mem eq
  have old := coherent.serial_lt mem (of_decide_eq_true eq)
  omega

namespace Place.Holds

variable {g g' : Registry} {n : Nat} {i : Instrument} {place : Place}

/-- An applying registration is in no other place. -/
theorem eq_applying {x : InstrumentId} {r : Registration} (h : place.Holds g r.serial i)
    (w : g.WellKept) (found : g.applying.get? x = some r) :
  place = applying
  := by
  have registered := w.get?_of_applying found
  cases place with
  | applying => rfl
  | live =>
    obtain ⟨s, live, serial, -⟩ := h
    obtain rfl := w.serial_inj (Registry.get?_of_live live) registered serial
    rw [w.live_eq_none found] at live
    cases live
  | gone => exact absurd rfl (h x r registered)

/-- A live registration is in no other place. -/
theorem eq_live {x : InstrumentId} {r : Registration} (h : place.Holds g r.serial i)
    (w : g.WellKept) (found : g.live.get? x = some r) :
  place = live
  := by
  have registered := Registry.get?_of_live found
  cases place with
  | applying =>
    obtain ⟨s, applying, serial, -⟩ := h
    obtain rfl := w.serial_inj (w.get?_of_applying applying) registered serial
    rw [w.apart found] at applying
    cases applying
  | live => rfl
  | gone => exact absurd rfl (h x r registered)

/-- An applying registration is registered. -/
theorem registered {r : Registration} (h : applying.Holds g r.serial r.instrument)
    (w : g.WellKept) :
  ∃ s, g.get? r.id = some s ∧ s.serial = r.serial
  := by
  obtain ⟨s, found, serial, -⟩ := h
  exact ⟨s, w.get?_of_applying found, serial⟩

/-- A registration that is detached has left the registry. -/
theorem detached (w : g.WellKept) {x : InstrumentId} {r : Registration}
    (registered : g.get? x = some r) :
  gone.Holds (g.detach x).2 r.serial i
  := by
  intro y s found serial
  rw [w.get?_detach] at found
  split at found
  next => cases found
  next ne => apply ne (w.serial_inj found registered serial)

/-- A registration that has left the registry does not come back. -/
theorem stay_gone (h : gone.Holds g n i) (old : n < g.nextSerial) (later : g'.Succeeds g) :
  gone.Holds g' n i
  := by
  intro x s found serial
  rcases later.stems found with new | ⟨r, was, same, -⟩
  · omega
  · apply h x r was (same.trans serial)

/-- An identity that one registration has is no other's. -/
theorem other {x : InstrumentId} {r : Registration} (registered : g.get? x = some r)
    (ne : n ≠ r.serial) :
  ∀ s, g.get? x = some s → s.serial ≠ n
  := by
  intro s found eq
  rw [registered] at found
  obtain rfl := Option.some.inj found
  apply ne eq.symm

/-- A registration stays in its place when something happens under an identity it does not have. -/
theorem elsewhere (h : place.Holds g n i) (w : g.WellKept) (old : n < g.nextSerial)
    (later : g'.Succeeds g) {x : InstrumentId} (other : ∀ r, g.get? x = some r → r.serial ≠ n)
    (applying : ∀ y, y ≠ x → g'.applying.get? y = g.applying.get? y)
    (live : ∀ y, y ≠ x → g'.live.get? y = g.live.get? y) :
  place.Holds g' n i
  := by
  cases place with
  | applying =>
    obtain ⟨r, found, about⟩ := h
    have ne : i.id ≠ x := by
      rintro rfl
      apply other r (w.get?_of_applying found) about.1
    exact ⟨r, (applying _ ne).trans found, about⟩
  | live =>
    obtain ⟨r, found, about⟩ := h
    have ne : i.id ≠ x := by
      rintro rfl
      apply other r (Registry.get?_of_live found) about.1
    exact ⟨r, (live _ ne).trans found, about⟩
  | gone => apply h.stay_gone old later

/-- A registration stays in its place when another one is detached. -/
theorem detach (h : place.Holds g n i) (w : g.WellKept) (old : n < g.nextSerial)
    {x : InstrumentId} (other : ∀ r, g.get? x = some r → r.serial ≠ n) :
  place.Holds (g.detach x).2 n i
  := by
  apply h.elsewhere w old (.detach w x) other
  · intro y ne
    rw [w.applying_detach, if_neg ne]
  · intro y ne
    rw [Registry.live_detach, if_neg ne]

/-- A registration stays in its place when another one is promoted. -/
theorem promote (h : place.Holds g n i) (w : g.WellKept) (old : n < g.nextSerial)
    {x : InstrumentId} {s : Registration} (promoted : (g.promote x).1 = some s)
    (other : ∀ r, g.get? x = some r → r.serial ≠ n) :
  place.Holds (g.promote x).2 n i
  := by
  apply h.elsewhere w old (.promote w x) other
  · intro y ne
    rw [w.applying_promote promoted, if_neg ne]
  · intro y ne
    rw [w.live_promote promoted, if_neg ne]

/-- A registration stays in its place when another one is made. -/
theorem reserve (h : place.Holds g n i) (w : g.WellKept) (old : n < g.nextSerial)
    {c : Candidate} {r : Registration} (fresh : g.reserve c = (.fresh r, g')) :
  place.Holds g' n i
  := by
  apply h.elsewhere w old (.reserve fresh) (x := r.id)
  · intro s found
    rw [(Registry.reserve_fresh fresh).1] at found
    cases found
  · intro y ne
    rw [Registry.applying_reserve fresh, if_neg ne]
  · intro y ne
    rw [Registry.live_reserve fresh]

/-- A registration stays in its place when a hit is counted. -/
theorem modify (h : place.Holds g n i) (w : g.WellKept) (old : n < g.nextSerial)
    (x : InstrumentId) {f : Registration → Registration} (alike : ∀ r, (f r).Alike r) :
  place.Holds (g.modify x f) n i
  := by
  have changed {o : Option Registration}
      (h : ∃ r, o = some r ∧ r.serial = n ∧ r.instrument = i) :
      ∃ r, o.map f = some r ∧ r.serial = n ∧ r.instrument = i := by
    obtain ⟨r, rfl, serial, instrument⟩ := h
    exact ⟨f r, rfl, (alike r).serial.trans serial, (alike r).instrument.trans instrument⟩
  cases place with
  | applying =>
    simp only [Holds, w.applying_modify]
    split
    next eq => apply changed (eq ▸ h)
    next => exact h
  | live =>
    simp only [Holds, Registry.live_modify]
    split
    next eq => apply changed (eq ▸ h)
    next => exact h
  | gone => apply h.stay_gone old (.modify w x alike)

end Place.Holds

namespace Registry

/-- No registration is made, and all but one stay in their places. -/
structure Spares (g' g : Registry) (n : Nat) : Prop where
  /-- No registration is made. -/
  nextSerial : g'.nextSerial = g.nextSerial
  /-- Every other registration stays in its place. -/
  holds : ∀ {m i} {place : Place}, m < g.nextSerial → m ≠ n → place.Holds g m i
    → place.Holds g' m i

namespace Spares

variable {g : Registry} {x : InstrumentId} {r s : Registration} {n : Nat}

/-- Nothing happens. -/
protected theorem refl (g : Registry) (n : Nat) :
  g.Spares g n
  := ⟨rfl, fun _ _ holds => holds⟩

/-- One registration is detached. -/
protected theorem detach (w : g.WellKept) (registered : g.get? x = some s) (own : s.serial = n) :
  (g.detach x).2.Spares g n
  := by
  constructor
  · apply nextSerial_detach
  · intro m i place old ne holds
    apply holds.detach w old
    apply Place.Holds.other registered
    rw [own]
    exact ne

/-- One registration is promoted. -/
protected theorem promote (w : g.WellKept) (promoted : (g.promote x).1 = some r)
    (registered : g.get? x = some s) (own : s.serial = n) :
  (g.promote x).2.Spares g n
  := by
  constructor
  · apply nextSerial_promote
  · intro m i place old ne holds
    apply holds.promote w old promoted
    apply Place.Holds.other registered
    rw [own]
    exact ne

end Spares

end Registry

end Instrumentation
