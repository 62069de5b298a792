import Instrumentation.Registry
import Mathlib.Tactic.Common

/-!
# The stores of a registry

What `reserve`, `promote`, `detach` and `modify` do is seen through the look-ups in the two
stores.

A registry is well kept when every entry stands under its own identity, in one store only, with
the flags of that store, and with a serial number that no other entry has. Every operation keeps
a registry so.
-/

namespace Instrumentation

/-- Two states of one registration agree but for the throttle and the last hit. -/
structure Registration.Alike (r s : Registration) : Prop where
  /-- They have one serial number. -/
  serial : r.serial = s.serial
  /-- They have one instrument. -/
  instrument : r.instrument = s.instrument
  /-- Both are live or neither is. -/
  isLive : r.isLive = s.isLive
  /-- Both were given up or neither was. -/
  isRemoved : r.isRemoved = s.isRemoved

namespace Registration.Alike

/-- A registration agrees with itself. -/
protected theorem refl (r : Registration) :
  r.Alike r
  := ⟨rfl, rfl, rfl, rfl⟩

/-- Two states of one registration have one identity. -/
protected theorem id {r s : Registration} (h : r.Alike s) :
  r.id = s.id
  := congrArg Instrument.id h.instrument

end Registration.Alike

namespace Registry

variable {g g' : Registry} {x y : InstrumentId} {r s : Registration}

/-! ### Look-ups -/

/-- An identity is registered by a live entry, or else by an applying one. -/
theorem get?_eq_some_iff :
  g.get? x = some r
    ↔ g.live.get? x = some r ∨ (g.live.get? x = none ∧ g.applying.get? x = some r)
  := by
  rw [get?]
  cases g.live.get? x with
  | none => simp
  | some s => simp

/-- An identity is unregistered when neither store has it. -/
theorem get?_eq_none_iff :
  g.get? x = none ↔ g.live.get? x = none ∧ g.applying.get? x = none
  := by
  rw [get?]
  cases g.live.get? x with
  | none => simp
  | some s => simp

/-- A live entry is a registered one. -/
theorem get?_of_live (h : g.live.get? x = some r) :
  g.get? x = some r
  := get?_eq_some_iff.mpr (.inl h)

/-- A fresh registration is that of the candidate, under an identity that was not registered,
and it is put among the applying. -/
theorem reserve_fresh {c : Candidate} (h : g.reserve c = (.fresh r, g')) :
  g.get? r.id = none ∧ r = .ofCandidate g.nextSerial c
    ∧ g' = { g with nextSerial := g.nextSerial + 1, applying := g.applying.insert r.id r }
  := by
  rw [reserve] at h
  split at h
  · simp at h
  · rename_i free
    simp only [Prod.mk.injEq, Reservation.fresh.injEq] at h
    obtain ⟨rfl, rfl⟩ := h
    exact ⟨free, rfl, rfl⟩

/-- A fresh registration is not live. -/
theorem live_reserve {c : Candidate} (h : g.reserve c = (.fresh r, g')) :
  g'.live = g.live
  := by
  rw [(reserve_fresh h).2.2]

/-- A fresh registration is applying. -/
theorem applying_reserve {c : Candidate} (h : g.reserve c = (.fresh r, g')) (y : InstrumentId) :
  g'.applying.get? y = if y = r.id then some r else g.applying.get? y
  := by
  rw [(reserve_fresh h).2.2, Dict.get?_insert]

/-- A fresh registration is seen at its identity and nowhere else. -/
theorem get?_reserve {c : Candidate} (h : g.reserve c = (.fresh r, g')) (y : InstrumentId) :
  g'.get? y = if y = r.id then some r else g.get? y
  := by
  rw [get?, live_reserve h, applying_reserve h]
  split
  next eq =>
    rw [eq, (get?_eq_none_iff.mp (reserve_fresh h).1).1]
    rfl
  next => rfl

/-- A reservation of a registered identity changes nothing. -/
theorem reserve_existing {c : Candidate} (h : g.reserve c = (.existing r, g')) :
  g' = g
  := by
  rw [reserve] at h
  split at h
  · simp only [Prod.mk.injEq] at h
    exact h.2.symm
  · simp at h

/-- What a detachment hands out is what was registered, given up. -/
theorem detach_fst (g : Registry) (x : InstrumentId) :
  (g.detach x).1 = (g.get? x).map Registration.remove
  := by
  rw [detach, get?]
  cases g.live.get? x with
  | some s => rfl
  | none =>
    cases g.applying.get? x with
    | some s => rfl
    | none => rfl

/-- A detachment without result changes nothing. -/
theorem detach_none (h : (g.detach x).1 = none) :
  (g.detach x).2 = g
  := by
  rw [detach] at h ⊢
  cases live : g.live.get? x with
  | some s => simp [live] at h
  | none =>
    cases applying : g.applying.get? x with
    | some s => simp [live, applying] at h
    | none => rfl

/-- A detachment counts no registration. -/
@[simp]
theorem nextSerial_detach (g : Registry) (x : InstrumentId) :
  (g.detach x).2.nextSerial = g.nextSerial
  := by
  rw [detach]
  cases g.live.get? x with
  | some s => rfl
  | none =>
    cases g.applying.get? x with
    | some s => rfl
    | none => rfl

/-- A detachment takes an identity out of the live store. -/
theorem live_detach (g : Registry) (x y : InstrumentId) :
  (g.detach x).2.live.get? y = if y = x then none else g.live.get? y
  := by
  rw [detach]
  cases h : g.live.get? x with
  | some s => simp [Dict.get?_erase]
  | none =>
    have same : (if y = x then none else g.live.get? y) = g.live.get? y := by
      split
      · simp_all
      · rfl
    rw [same]
    cases g.applying.get? x with
    | some s => rfl
    | none => rfl

/-- A promotion counts no registration. -/
@[simp]
theorem nextSerial_promote (g : Registry) (x : InstrumentId) :
  (g.promote x).2.nextSerial = g.nextSerial
  := by
  rw [promote]
  cases g.applying.get? x with
  | none => rfl
  | some s => cases h : s.isRemoved <;> simp [h]

/-- A change of an entry is seen in the live store, if the entry is there. -/
theorem live_modify (g : Registry) (x y : InstrumentId) (f : Registration → Registration) :
  (g.modify x f).live.get? y = if y = x then (g.live.get? x).map f else g.live.get? y
  := by
  rw [modify]
  cases live : g.live.get? x with
  | some s => simp [Dict.get?_modify, live]
  | none =>
    by_cases hy : y = x
    · simp [hy, live]
    · simp [hy]

/-- A change of an entry counts no registration. -/
@[simp]
theorem nextSerial_modify (g : Registry) (x : InstrumentId) (f : Registration → Registration) :
  (g.modify x f).nextSerial = g.nextSerial
  := by
  rw [modify]
  cases g.live.get? x <;> rfl

/-! ### Well kept registries -/

/-- Every entry stands under its own identity, in one store only, with the flags of that store,
and with a serial number of its own. -/
structure WellKept (g : Registry) : Prop where
  /-- A live entry stands under its identity. -/
  live_id : ∀ {x r}, g.live.get? x = some r → r.id = x
  /-- A live entry is marked live, and not as given up. -/
  live_flags : ∀ {x r}, g.live.get? x = some r → r.isLive = true ∧ r.isRemoved = false
  /-- An applying entry stands under its identity. -/
  applying_id : ∀ {x r}, g.applying.get? x = some r → r.id = x
  /-- An applying entry is marked neither live nor as given up. -/
  applying_flags : ∀ {x r}, g.applying.get? x = some r → r.isLive = false ∧ r.isRemoved = false
  /-- A live identity is not applying. -/
  apart : ∀ {x r}, g.live.get? x = some r → g.applying.get? x = none
  /-- Serial numbers have been given out. -/
  serial_lt : ∀ {x r}, g.get? x = some r → r.serial < g.nextSerial
  /-- A serial number is given out once. -/
  serial_inj : ∀ {x y r s}, g.get? x = some r → g.get? y = some s → r.serial = s.serial → x = y

namespace WellKept

/-- A registered entry stands under its identity. -/
theorem id_eq (w : g.WellKept) (h : g.get? x = some r) :
  r.id = x
  := by
  rcases get?_eq_some_iff.mp h with live | ⟨-, applying⟩
  · apply w.live_id live
  · apply w.applying_id applying

/-- An applying entry is a registered one. -/
theorem get?_of_applying (w : g.WellKept) (h : g.applying.get? x = some r) :
  g.get? x = some r
  := by
  apply get?_eq_some_iff.mpr
  right
  constructor
  · cases live : g.live.get? x with
    | none => rfl
    | some s => simp [w.apart live] at h
  · exact h

/-- An identity that is applying is not live. -/
theorem live_eq_none (w : g.WellKept) (h : g.applying.get? x = some r) :
  g.live.get? x = none
  := by
  cases live : g.live.get? x with
  | none => rfl
  | some s => simp [w.apart live] at h

/-- Two registrations of one serial number are the same entry. -/
theorem eq_of_serial (w : g.WellKept) (hr : g.get? x = some r) (hs : g.get? y = some s)
    (h : r.serial = s.serial) :
  r = s
  := by
  obtain rfl := w.serial_inj hr hs h
  exact Option.some.inj (hr.symm.trans hs)

/-- A detachment takes an identity out of the applying store. -/
theorem applying_detach (w : g.WellKept) (x y : InstrumentId) :
  (g.detach x).2.applying.get? y = if y = x then none else g.applying.get? y
  := by
  rw [detach]
  cases live : g.live.get? x with
  | some s =>
    by_cases hy : y = x
    · simp [hy, w.apart live]
    · simp [hy]
  | none =>
    cases applying : g.applying.get? x with
    | some s => simp [Dict.get?_erase]
    | none =>
      by_cases hy : y = x
      · simp [hy, applying]
      · simp [hy]

/-- A detachment leaves the other identities registered. -/
theorem get?_detach (w : g.WellKept) (x y : InstrumentId) :
  (g.detach x).2.get? y = if y = x then none else g.get? y
  := by
  rw [get?, live_detach, w.applying_detach]
  split <;> rfl

/-- A detached entry that is marked live was live. -/
theorem detach_live (w : g.WellKept) (h : (g.detach x).1 = some r) (live : r.isLive = true) :
  ∃ s, g.live.get? x = some s ∧ r = s.remove
  := by
  rw [detach_fst] at h
  obtain ⟨s, hs, rfl⟩ := Option.map_eq_some_iff.mp h
  use s
  rcases get?_eq_some_iff.mp hs with live' | ⟨-, applying⟩
  · exact ⟨live', rfl⟩
  · have := (w.applying_flags applying).1
    simp_all [Registration.remove]

/-- A detached entry that is not marked live was applying. -/
theorem detach_applying (w : g.WellKept) (h : (g.detach x).1 = some r)
    (live : r.isLive = false) :
  ∃ s, g.applying.get? x = some s ∧ r = s.remove
  := by
  rw [detach_fst] at h
  obtain ⟨s, hs, rfl⟩ := Option.map_eq_some_iff.mp h
  use s
  rcases get?_eq_some_iff.mp hs with live' | ⟨-, applying⟩
  · have := (w.live_flags live').1
    simp_all [Registration.remove]
  · exact ⟨applying, rfl⟩

/-- A promoted entry was applying. -/
theorem promote_some (w : g.WellKept) (h : (g.promote x).1 = some r) :
  ∃ s, g.applying.get? x = some s ∧ r = { s with isLive := true }
    ∧ (g.promote x).2
      = { g with applying := g.applying.erase x, live := g.live.insert x r }
  := by
  cases applying : g.applying.get? x with
  | none => simp [promote, applying] at h
  | some s =>
    have kept : ¬s.isRemoved = true := by simp [(w.applying_flags applying).2]
    have result : g.promote x
        = (some { s with isLive := true },
          { g with
            applying := g.applying.erase x
            live := g.live.insert s.id { s with isLive := true } }) := by
      rw [promote, applying]
      apply if_neg kept
    rw [result] at h ⊢
    obtain rfl := Option.some.inj h
    use s, rfl, rfl
    rw [w.applying_id applying]

/-- A promotion without result finds nothing applying, and changes nothing. -/
theorem promote_none (w : g.WellKept) (h : (g.promote x).1 = none) :
  g.applying.get? x = none ∧ (g.promote x).2 = g
  := by
  rw [promote] at h ⊢
  cases applying : g.applying.get? x with
  | none => simp
  | some s =>
    have kept := (w.applying_flags applying).2
    simp [applying, kept] at h

/-- A promotion puts its identity among the live ones. -/
theorem live_promote (w : g.WellKept) (h : (g.promote x).1 = some r) (y : InstrumentId) :
  (g.promote x).2.live.get? y = if y = x then some r else g.live.get? y
  := by
  obtain ⟨s, -, -, hg⟩ := w.promote_some h
  rw [hg, Dict.get?_insert]

/-- A promotion takes its identity out of the applying ones. -/
theorem applying_promote (w : g.WellKept) (h : (g.promote x).1 = some r) (y : InstrumentId) :
  (g.promote x).2.applying.get? y = if y = x then none else g.applying.get? y
  := by
  obtain ⟨s, -, -, hg⟩ := w.promote_some h
  rw [hg, Dict.get?_erase]

/-- A promotion leaves the other identities as they are. -/
theorem get?_promote (w : g.WellKept) (h : (g.promote x).1 = some r) (y : InstrumentId) :
  (g.promote x).2.get? y = if y = x then some r else g.get? y
  := by
  rw [get?, w.live_promote h, w.applying_promote h]
  split <;> rfl

/-- A change of an entry is seen in the applying store, if the entry is there. -/
theorem applying_modify (w : g.WellKept) (x y : InstrumentId)
    (f : Registration → Registration) :
  (g.modify x f).applying.get? y
    = if y = x then (g.applying.get? x).map f else g.applying.get? y
  := by
  unfold modify
  cases live : g.live.get? x with
  | some s =>
    by_cases hy : y = x
    · simp [hy, w.apart live]
    · simp [hy]
  | none => simp [Dict.get?_modify]

/-- A change of an entry is seen at its identity. -/
theorem get?_modify (w : g.WellKept) (x y : InstrumentId) (f : Registration → Registration) :
  (g.modify x f).get? y = if y = x then (g.get? x).map f else g.get? y
  := by
  unfold get?
  rw [live_modify, w.applying_modify]
  split
  · cases g.live.get? x <;> rfl
  · rfl

/-! ### What keeps a registry well kept -/

/-- The registry without instruments. -/
protected theorem empty :
  empty.WellKept
  := by
  constructor <;> simp [empty, get?]

/-- The registry after a detachment. -/
protected theorem detach (w : g.WellKept) (x : InstrumentId) :
  (g.detach x).2.WellKept
  := by
  have live {y r} (h : (g.detach x).2.live.get? y = some r) : g.live.get? y = some r := by
    rw [live_detach] at h
    split at h
    · cases h
    · exact h
  have applying {y r} (h : (g.detach x).2.applying.get? y = some r) :
      g.applying.get? y = some r := by
    rw [w.applying_detach] at h
    split at h
    · cases h
    · exact h
  have registered {y r} (h : (g.detach x).2.get? y = some r) : g.get? y = some r := by
    rw [w.get?_detach] at h
    split at h
    · cases h
    · exact h
  constructor
  · intro y r h
    apply w.live_id (live h)
  · intro y r h
    apply w.live_flags (live h)
  · intro y r h
    apply w.applying_id (applying h)
  · intro y r h
    apply w.applying_flags (applying h)
  · intro y r h
    rw [w.applying_detach, w.apart (live h)]
    split <;> rfl
  · intro y r h
    rw [nextSerial_detach]
    apply w.serial_lt (registered h)
  · intro y z r s hr hs
    apply w.serial_inj (registered hr) (registered hs)

/-- The registry after a promotion. -/
protected theorem promote (w : g.WellKept) (x : InstrumentId) :
  (g.promote x).2.WellKept
  := by
  cases promoted : (g.promote x).1 with
  | none =>
    rw [(w.promote_none promoted).2]
    exact w
  | some r =>
    obtain ⟨s, applying, rfl, -⟩ := w.promote_some promoted
    have registered := w.get?_of_applying applying
    have before {y r} (h : (g.promote x).2.get? y = some r) :
        ∃ q, g.get? y = some q ∧ q.serial = r.serial := by
      rw [w.get?_promote promoted] at h
      split at h
      next eq =>
        obtain rfl := Option.some.inj h
        exact ⟨s, eq ▸ registered, rfl⟩
      next => exact ⟨r, h, rfl⟩
    constructor
    · intro y r h
      rw [w.live_promote promoted] at h
      split at h
      next eq =>
        obtain rfl := Option.some.inj h
        rw [eq]
        apply w.applying_id applying
      next => apply w.live_id h
    · intro y r h
      rw [w.live_promote promoted] at h
      split at h
      next =>
        obtain rfl := Option.some.inj h
        exact ⟨rfl, (w.applying_flags applying).2⟩
      next => apply w.live_flags h
    · intro y r h
      rw [w.applying_promote promoted] at h
      split at h
      next => cases h
      next => apply w.applying_id h
    · intro y r h
      rw [w.applying_promote promoted] at h
      split at h
      next => cases h
      next => apply w.applying_flags h
    · intro y r h
      rw [w.live_promote promoted] at h
      rw [w.applying_promote promoted]
      by_cases hy : y = x
      · rw [if_pos hy]
      · rw [if_neg hy] at h ⊢
        apply w.apart h
    · intro y r h
      obtain ⟨q, hq, eq⟩ := before h
      rw [nextSerial_promote, ← eq]
      apply w.serial_lt hq
    · intro y z r s hr hs eq
      obtain ⟨p, hp, hpr⟩ := before hr
      obtain ⟨q, hq, hqs⟩ := before hs
      apply w.serial_inj hp hq
      rw [hpr, hqs, eq]

/-- The registry after a fresh registration. -/
protected theorem reserve (w : g.WellKept) {c : Candidate} (h : g.reserve c = (.fresh r, g')) :
  g'.WellKept
  := by
  obtain ⟨free, hr, hg⟩ := reserve_fresh h
  obtain ⟨freeLive, freeApplying⟩ := get?_eq_none_iff.mp free
  have serial : r.serial = g.nextSerial := by
    rw [hr]
    rfl
  have flags : r.isLive = false ∧ r.isRemoved = false := by
    rw [hr]
    exact ⟨rfl, rfl⟩
  have live (y) : g'.live.get? y = g.live.get? y := by rw [live_reserve h]
  have next : g'.nextSerial = g.nextSerial + 1 := by rw [hg]
  have new := h
  have applying {y q} (h : g'.applying.get? y = some q) :
      (y = r.id ∧ q = r) ∨ g.applying.get? y = some q := by
    rw [applying_reserve new] at h
    split at h
    next eq => exact .inl ⟨eq, (Option.some.inj h).symm⟩
    next => exact .inr h
  have registered {y q} (h : g'.get? y = some q) :
      (y = r.id ∧ q = r) ∨ g.get? y = some q := by
    rw [get?_reserve new] at h
    split at h
    next eq => exact .inl ⟨eq, (Option.some.inj h).symm⟩
    next => exact .inr h
  constructor
  · intro y q h
    apply w.live_id (live y ▸ h)
  · intro y q h
    apply w.live_flags (live y ▸ h)
  · intro y q h
    rcases applying h with ⟨rfl, rfl⟩ | old
    · rfl
    · apply w.applying_id old
  · intro y q h
    rcases applying h with ⟨-, rfl⟩ | old
    · exact flags
    · apply w.applying_flags old
  · intro y q h
    rw [live] at h
    have ne : y ≠ r.id := by
      rintro rfl
      simp [freeLive] at h
    rw [hg, Dict.get?_insert, if_neg ne]
    apply w.apart h
  · intro y q h
    rw [next]
    rcases registered h with ⟨-, rfl⟩ | old
    · omega
    · have := w.serial_lt old
      omega
  · intro y z q p hq hp eq
    rcases registered hq with ⟨rfl, rfl⟩ | oldq
    · rcases registered hp with ⟨rfl, -⟩ | oldp
      · rfl
      · have := w.serial_lt oldp
        omega
    · rcases registered hp with ⟨rfl, rfl⟩ | oldp
      · have := w.serial_lt oldq
        omega
      · apply w.serial_inj oldq oldp eq

/-- The registry after a change that leaves an entry its identity, its number and its flags. -/
protected theorem modify (w : g.WellKept) (x : InstrumentId) {f : Registration → Registration}
    (hf : ∀ r, (f r).Alike r) :
  (g.modify x f).WellKept
  := by
  have live {y r} (h : (g.modify x f).live.get? y = some r) :
      ∃ q, g.live.get? y = some q ∧ r.Alike q := by
    rw [live_modify] at h
    split at h
    next eq =>
      obtain ⟨q, hq, rfl⟩ := Option.map_eq_some_iff.mp h
      exact ⟨q, eq ▸ hq, hf q⟩
    next => exact ⟨r, h, .refl r⟩
  have applying {y r} (h : (g.modify x f).applying.get? y = some r) :
      ∃ q, g.applying.get? y = some q ∧ r.Alike q := by
    rw [w.applying_modify] at h
    split at h
    next eq =>
      obtain ⟨q, hq, rfl⟩ := Option.map_eq_some_iff.mp h
      exact ⟨q, eq ▸ hq, hf q⟩
    next => exact ⟨r, h, .refl r⟩
  have registered {y r} (h : (g.modify x f).get? y = some r) :
      ∃ q, g.get? y = some q ∧ r.Alike q := by
    rw [w.get?_modify] at h
    split at h
    next eq =>
      obtain ⟨q, hq, rfl⟩ := Option.map_eq_some_iff.mp h
      exact ⟨q, eq ▸ hq, hf q⟩
    next => exact ⟨r, h, .refl r⟩
  constructor
  · intro y r h
    obtain ⟨q, hq, alike⟩ := live h
    rw [alike.id]
    apply w.live_id hq
  · intro y r h
    obtain ⟨q, hq, alike⟩ := live h
    rw [alike.isLive, alike.isRemoved]
    apply w.live_flags hq
  · intro y r h
    obtain ⟨q, hq, alike⟩ := applying h
    rw [alike.id]
    apply w.applying_id hq
  · intro y r h
    obtain ⟨q, hq, alike⟩ := applying h
    rw [alike.isLive, alike.isRemoved]
    apply w.applying_flags hq
  · intro y r h
    obtain ⟨q, hq, -⟩ := live h
    have := w.apart hq
    rw [w.applying_modify]
    split
    next eq => simp [← eq, this]
    next => exact this
  · intro y r h
    obtain ⟨q, hq, alike⟩ := registered h
    rw [nextSerial_modify, alike.serial]
    apply w.serial_lt hq
  · intro y z r s hr hs eq
    obtain ⟨p, hp, alikep⟩ := registered hr
    obtain ⟨q, hq, alikeq⟩ := registered hs
    apply w.serial_inj hp hq
    rw [← alikep.serial, ← alikeq.serial, eq]

/-- The registry after everything is dropped. -/
protected theorem clear (g : Registry) :
  g.clear.2.WellKept
  := by
  constructor <;> simp [clear, get?]

end WellKept

end Registry

end Instrumentation
