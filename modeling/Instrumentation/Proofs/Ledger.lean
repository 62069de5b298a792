import Instrumentation.Proofs.Sound
import Mathlib.Data.List.Induction

/-!
# What becomes of a registration

A ledger accompanies a registry through reservations, promotions, detachments and clearings. It
keeps every registration as it was made, what the detachments handed out, and what the clearings
dropped.

No operation loses a registration or makes a second one of it: with what was handed out and
dropped, the two stores hold what was reserved, rearranged. Hence every registration is in exactly
one situation at any time, and once it has left the stores no operation finds it again.
-/

namespace Instrumentation

/-- The registration as it was made. -/
def Registration.origin (r : Registration) : Registration :=
  .ofCandidate r.serial { instrument := r.instrument, predicate := r.predicate }

namespace Registry

variable {g g' : Registry} {x : InstrumentId} {r s : Registration} {c : Candidate}

/-! ### What an operation rearranges -/

/-- A fresh registration is one more. -/
theorem registrations_reserve (h : g.reserve c = (.fresh r, g')) :
  g'.registrations.Perm (r :: g.registrations)
  := by
  obtain ⟨free, -, rfl⟩ := reserve_fresh h
  apply List.Perm.append_right g.live.values
    (Dict.values_insert_perm (get?_eq_none_iff.mp free).2 r)

/-- A promotion takes a registration from one store to the other. -/
theorem registrations_promote (w : g.WellKept) (x : InstrumentId) :
  ((g.promote x).2.registrations.map Registration.origin).Perm
    (g.registrations.map Registration.origin)
  := by
  cases promoted : (g.promote x).1 with
  | none => rw [(w.promote_none promoted).2]
  | some r =>
    obtain ⟨s, applying, rfl, after⟩ := w.promote_some promoted
    have taken : g.applying.values.Perm (s :: (g.applying.erase x).values) :=
      Dict.values_erase_perm applying
    have put := Dict.values_insert_perm (w.live_eq_none applying) { s with isLive := true }
    rw [after, registrations, registrations, List.map_append, List.map_append]
    apply ((put.map _).append_left _).trans
    apply List.perm_middle.trans
    apply ((taken.map Registration.origin).append_right _).symm

/-- A detachment takes out the registration that it hands out. -/
theorem registrations_detach (h : (g.detach x).1 = some r) :
  (g.registrations.map Registration.origin).Perm
    (r.origin :: (g.detach x).2.registrations.map Registration.origin)
  := by
  rw [detach] at h ⊢
  cases live : g.live.get? x with
  | some s =>
    simp only [live] at h ⊢
    obtain rfl := Option.some.inj h
    have taken := Dict.values_erase_perm live
    rw [registrations, registrations, List.map_append, List.map_append]
    apply ((taken.map Registration.origin).append_left _).trans
    apply List.perm_middle
  | none =>
    cases applying : g.applying.get? x with
    | none => simp [live, applying] at h
    | some s =>
      simp only [live, applying] at h ⊢
      obtain rfl := Option.some.inj h
      have taken := Dict.values_erase_perm applying
      rw [registrations, registrations, List.map_append, List.map_append]
      apply (taken.map Registration.origin).append_right

/-- What is registered is among the registrations. -/
theorem mem_registrations (h : g.get? x = some r) :
  r ∈ g.registrations
  := by
  apply List.mem_append.mpr
  rcases get?_eq_some_iff.mp h with live | ⟨-, applying⟩
  · right
    apply List.mem_map_of_mem (Dict.mem_of_get? live)
  · left
    apply List.mem_map_of_mem (Dict.mem_of_get? applying)

/-- A reservation is refused by the registration of its identity. -/
theorem get?_of_existing (h : (g.reserve c).1 = .existing r) :
  g.get? c.instrument.id = some r
  := by
  rw [reserve] at h
  split at h
  next found => rw [found, Reservation.existing.inj h]
  next => cases h

/-! ### The ledger -/

/-- An operation that may move registrations. -/
inductive Action where
  /-- A candidate is put among the applying. -/
  | reserve (c : Candidate)
  /-- An identity is moved to the live ones. -/
  | promote (x : InstrumentId)
  /-- An identity is taken out. -/
  | detach (x : InstrumentId)
  /-- Everything is dropped. -/
  | clear

/-- What may have become of a registration. -/
inductive Situation where
  /-- It is in the applying store. -/
  | applying
  /-- It is in the live store. -/
  | live
  /-- A detachment handed it out. -/
  | detached
  /-- A clearing dropped it. -/
  | dropped
deriving DecidableEq

/-- A registry with all that was registered, and all that left it. -/
structure Ledger where
  /-- The registry. -/
  registry : Registry
  /-- The registrations as they were made, the first one first. -/
  reserved : List Registration
  /-- What the detachments handed out, the last one first. -/
  detached : List Registration
  /-- What the clearings dropped, the last ones first. -/
  dropped : List Registration

/-- A registration that an operation hands out, other than one that is fresh. -/
inductive Gives (g : Registry) : Registration → Prop
  /-- It is looked up. -/
  | get {x : InstrumentId} {r : Registration} (h : g.get? x = some r) : g.Gives r
  /-- It is promoted. -/
  | promote {x : InstrumentId} {r : Registration} (h : (g.promote x).1 = some r) : g.Gives r
  /-- It is detached. -/
  | detach {x : InstrumentId} {r : Registration} (h : (g.detach x).1 = some r) : g.Gives r
  /-- It is found at a location. -/
  | find {query : Location} {r : Registration} (h : r ∈ g.findByLocation query) : g.Gives r
  /-- It refuses a reservation. -/
  | refuse {c : Candidate} {r : Registration} (h : (g.reserve c).1 = .existing r) : g.Gives r

/-- Whatever is handed out is a state of a registered entry. -/
theorem Gives.exists_get? (h : g.Gives r) (w : g.WellKept) :
  ∃ x s, g.get? x = some s ∧ s.serial = r.serial
  := by
  cases h with
  | get h => exact ⟨_, r, h, rfl⟩
  | promote h =>
    obtain ⟨s, applying, rfl, -⟩ := w.promote_some h
    exact ⟨_, s, w.get?_of_applying applying, rfl⟩
  | detach h =>
    rw [detach_fst] at h
    obtain ⟨s, found, rfl⟩ := Option.map_eq_some_iff.mp h
    exact ⟨_, s, found, rfl⟩
  | find h => exact ⟨_, r, (w.get?_of_found h).1, rfl⟩
  | refuse h =>
    exact ⟨_, r, get?_of_existing h, rfl⟩

namespace Ledger

variable {l : Ledger}

/-- The ledger of the registry without instruments. -/
def empty : Ledger := { registry := .empty, reserved := [], detached := [], dropped := [] }

/-- The registrations in a situation. -/
def held (l : Ledger) : Situation → List Registration
  | .applying => l.registry.applying.values
  | .live => l.registry.live.values
  | .detached => l.detached
  | .dropped => l.dropped

/-- The states of the registration of a number that are held in a situation. -/
def copies (l : Ledger) (situation : Situation) (n : Nat) : List Registration :=
  (l.held situation).filter fun s => s.serial == n

/-- The registrations in any situation. -/
def all (l : Ledger) : List Registration := l.registry.registrations ++ (l.detached ++ l.dropped)

/-- The ledger after an operation. -/
def step (l : Ledger) : Action → Ledger
  | .reserve c =>
    match l.registry.reserve c with
    | (.fresh r, g) => { l with registry := g, reserved := l.reserved ++ [r] }
    | (.existing _, g) => { l with registry := g }
  | .promote x => { l with registry := (l.registry.promote x).2 }
  | .detach x =>
    let (r?, g) := l.registry.detach x
    { l with registry := g, detached := r?.toList ++ l.detached }
  | .clear =>
    let (rs, g) := l.registry.clear
    { l with registry := g, dropped := rs ++ l.dropped }

/-- The ledger after a sequence of operations, from the one of the empty registry. -/
def run (actions : List Action) : Ledger := actions.foldl step empty

/-- The registration that was given a number is held in this situation, once, and in no other. -/
structure Situated (l : Ledger) (r : Registration) (situation : Situation) : Prop where
  /-- A single state of it is held here. -/
  here : ∃ s, s.origin = r ∧ l.copies situation r.serial = [s]
  /-- None is held elsewhere. -/
  alone : ∀ other, other ≠ situation → l.copies other r.serial = []

/-- The states of the registration of a number, situation by situation. -/
theorem filter_all (l : Ledger) (n : Nat) :
  (l.all.filter fun s => s.serial == n)
    = (l.copies .applying n ++ l.copies .live n) ++ (l.copies .detached n ++ l.copies .dropped n)
  := by
  rw [all, registrations, List.filter_append, List.filter_append, List.filter_append]
  rfl

/-- What is held in a situation is held. -/
theorem mem_all {situation : Situation} (mem : r ∈ l.held situation) :
  r ∈ l.all
  := by
  rw [all, registrations]
  cases situation with
  | applying => apply List.mem_append_left _ (List.mem_append_left _ mem)
  | live => apply List.mem_append_left _ (List.mem_append_right _ mem)
  | detached => apply List.mem_append_right _ (List.mem_append_left _ mem)
  | dropped => apply List.mem_append_right _ (List.mem_append_right _ mem)

/-- What a detachment handed out or a clearing dropped is held outside the stores. -/
theorem mem_left {situation : Situation} (left : situation = .detached ∨ situation = .dropped)
    (mem : r ∈ l.held situation) :
  r ∈ l.detached ++ l.dropped
  := by
  rcases left with rfl | rfl
  · apply List.mem_append_left _ mem
  · apply List.mem_append_right _ mem

/-! ### What stays out -/

/-- What has left the stores stays where it went, after an operation. -/
theorem held_step {situation : Situation} (left : situation = .detached ∨ situation = .dropped)
    (mem : r ∈ l.held situation) (action : Action) :
  r ∈ (l.step action).held situation
  := by
  induction action with
  | reserve c =>
    rw [step]
    rcases left with rfl | rfl <;> split <;> exact mem
  | promote x => rcases left with rfl | rfl <;> exact mem
  | detach x =>
    rcases left with rfl | rfl
    · apply List.mem_append_right _ mem
    · exact mem
  | clear =>
    rcases left with rfl | rfl
    · exact mem
    · apply List.mem_append_right _ mem

/-- What has left the stores stays where it went. -/
theorem held_run {situation : Situation} (left : situation = .detached ∨ situation = .dropped)
    {earlier : List Action} (mem : r ∈ (run earlier).held situation) (later : List Action) :
  r ∈ (run (earlier ++ later)).held situation
  := by
  induction later using List.reverseRecOn with
  | nil => rwa [List.append_nil]
  | append_singleton later action ih =>
    rw [← List.append_assoc, run, List.foldl_append]
    apply held_step left ih

/-! ### What every ledger conserves -/

/-- The registry is well kept, and what is held in any situation is what was reserved. -/
structure Conserved (l : Ledger) : Prop where
  /-- Every entry is where it belongs. -/
  kept : l.registry.WellKept
  /-- What is held is what was reserved. -/
  perm : (l.all.map Registration.origin).Perm l.reserved
  /-- The registrations are numbered. -/
  numbered : l.reserved.map Registration.serial = List.range l.registry.nextSerial
  /-- What left the stores is given up. -/
  givenUp : ∀ r ∈ l.detached ++ l.dropped, r.isRemoved = true

namespace Conserved

/-- The ledger of the empty registry. -/
protected theorem empty :
  empty.Conserved
  := by
  constructor
  · exact .empty
  · apply List.Perm.refl
  · rfl
  · simp [Ledger.empty]

/-- The ledger after a reservation. -/
theorem reserve (h : l.Conserved) (c : Candidate) :
  (l.step (.reserve c)).Conserved
  := by
  rw [step]
  split
  next r g fresh =>
    obtain ⟨-, made, after⟩ := reserve_fresh fresh
    have own : r.origin = r := by rw [made]; rfl
    have serial : r.serial = l.registry.nextSerial := by rw [made]; rfl
    constructor
    · apply h.kept.reserve fresh
    · have more := ((registrations_reserve fresh).append_right (l.detached ++ l.dropped)).map
        Registration.origin
      rw [List.cons_append, List.map_cons, own] at more
      apply more.trans
      apply (h.perm.cons r).trans
      apply (List.perm_append_singleton r l.reserved).symm
    · rw [List.map_append, h.numbered, after, List.range_succ, List.map_singleton, serial]
    · exact h.givenUp
  next r g existing =>
    obtain rfl := reserve_existing existing
    exact h

/-- The ledger after a promotion. -/
theorem promote (h : l.Conserved) (x : InstrumentId) :
  (l.step (.promote x)).Conserved
  := by
  constructor
  · apply h.kept.promote
  · apply List.Perm.trans _ h.perm
    simp only [step, all, List.map_append]
    apply (registrations_promote h.kept x).append_right
  · rw [step, nextSerial_promote, h.numbered]
  · exact h.givenUp

/-- The ledger after a detachment. -/
theorem detach (h : l.Conserved) (x : InstrumentId) :
  (l.step (.detach x)).Conserved
  := by
  constructor
  · apply h.kept.detach
  · cases detached : (l.registry.detach x).1 with
    | none =>
      simp only [step, detached, detach_none detached, Option.toList_none, List.nil_append]
      exact h.perm
    | some r =>
      have taken := (registrations_detach detached).append_right
        ((l.detached ++ l.dropped).map Registration.origin)
      apply List.Perm.trans _ h.perm
      simp only [step, all, detached, Option.toList_some, List.map_append, List.map_cons,
        List.cons_append, List.nil_append] at taken ⊢
      apply List.perm_middle.trans taken.symm
  · rw [step, nextSerial_detach, h.numbered]
  · intro r mem
    simp only [step, List.mem_append, Option.mem_toList] at mem
    rcases mem with (detached | before) | dropped
    · rw [detach_fst] at detached
      obtain ⟨s, -, rfl⟩ := Option.map_eq_some_iff.mp detached
      rfl
    · apply h.givenUp r (List.mem_append_left _ before)
    · apply h.givenUp r (List.mem_append_right _ dropped)

/-- The ledger after everything is dropped. -/
theorem clear (h : l.Conserved) :
  (l.step .clear).Conserved
  := by
  constructor
  · apply WellKept.clear
  · have same : l.registry.clear.1.map Registration.origin
        = l.registry.registrations.map Registration.origin := by
      rw [Registry.clear, List.map_map]
      rfl
    apply List.Perm.trans _ h.perm
    have none : l.registry.clear.2.registrations = [] := rfl
    simp only [step, all, none, List.nil_append, List.map_append, same]
    apply List.perm_append_comm_assoc
  · exact h.numbered
  · intro r mem
    simp only [step, List.mem_append] at mem
    rcases mem with detached | dropped | before
    · apply h.givenUp r (List.mem_append_left _ detached)
    · obtain ⟨s, -, rfl⟩ := List.mem_map.mp dropped
      rfl
    · apply h.givenUp r (List.mem_append_right _ before)

/-- The ledger after an operation. -/
protected theorem step (h : l.Conserved) (action : Action) :
  (l.step action).Conserved
  := by
  cases action with
  | reserve c => apply h.reserve
  | promote x => apply h.promote
  | detach x => apply h.detach
  | clear => apply h.clear

/-- The ledger after a sequence of operations. -/
protected theorem run (actions : List Action) :
  (run actions).Conserved
  := by
  induction actions using List.reverseRecOn with
  | nil => exact .empty
  | append_singleton actions action ih =>
    rw [Ledger.run, List.foldl_append]
    apply ih.step

/-! ### What a conserved ledger says -/

/-- A registration is the only one of its number. -/
theorem filter_serial {rs : List Registration} (nodup : (rs.map Registration.serial).Nodup)
    (mem : r ∈ rs) :
  rs.filter (fun s => s.serial == r.serial) = [r]
  := by
  induction rs with
  | nil => cases mem
  | cons s rest ih =>
    obtain ⟨new, nodup⟩ := List.nodup_cons.mp nodup
    rcases List.mem_cons.mp mem with rfl | mem
    · have none : rest.filter (fun s => s.serial == r.serial) = [] := by
        apply List.filter_eq_nil_iff.mpr
        intro s held same
        exact new (eq_of_beq same ▸ List.mem_map_of_mem held)
      rw [List.filter_cons, if_pos (beq_self_eq_true _), none]
    · have other : ¬(s.serial == r.serial) = true := fun same =>
        new (eq_of_beq same ▸ List.mem_map_of_mem mem)
      rw [List.filter_cons, if_neg other, ih nodup mem]

/-- What is held was reserved. -/
theorem mem_reserved (h : l.Conserved) (mem : r ∈ l.all) :
  r.origin ∈ l.reserved
  := h.perm.mem_iff.mp (List.mem_map_of_mem mem)

/-- No number is given out twice. -/
theorem nodup_reserved (h : l.Conserved) :
  (l.reserved.map Registration.serial).Nodup
  := by
  rw [h.numbered]
  apply List.nodup_range

/-- No number is held twice. -/
theorem nodup_all (h : l.Conserved) :
  (l.all.map Registration.serial).Nodup
  := by
  have states := (h.perm.map Registration.serial).nodup_iff.mpr h.nodup_reserved
  rwa [List.map_map] at states

/-- A registration that was reserved is in one situation. -/
theorem exists_situated (h : l.Conserved) (mem : r ∈ l.reserved) :
  ∃ situation, l.Situated r situation
  := by
  obtain ⟨s, held, made⟩ := List.mem_map.mp (h.perm.mem_iff.mpr mem)
  have serial : s.serial = r.serial := by rw [← made]; rfl
  have single : l.all.filter (fun t => t.serial == r.serial) = [s] := by
    rw [← serial]
    apply filter_serial h.nodup_all held
  have parts : (l.copies .applying r.serial ++ l.copies .live r.serial)
      ++ (l.copies .detached r.serial ++ l.copies .dropped r.serial) = [s] := by
    rw [← filter_all, single]
  simp only [List.append_eq_singleton_iff, List.append_eq_nil_iff] at parts
  rcases parts with
    ⟨⟨applying, live⟩, ⟨detached, dropped⟩ | ⟨detached, dropped⟩⟩
    | ⟨⟨applying, live⟩ | ⟨applying, live⟩, detached, dropped⟩
  · use .dropped, ⟨s, made, dropped⟩
    intro other ne
    cases other <;> trivial
  · use .detached, ⟨s, made, detached⟩
    intro other ne
    cases other <;> trivial
  · use .live, ⟨s, made, live⟩
    intro other ne
    cases other <;> trivial
  · use .applying, ⟨s, made, applying⟩
    intro other ne
    cases other <;> trivial

/-- What has left the stores is never handed out. -/
theorem not_gives (h : l.Conserved) (left : s ∈ l.detached ++ l.dropped)
    (gives : l.registry.Gives r) :
  r.serial ≠ s.serial
  := by
  obtain ⟨x, q, found, serial⟩ := gives.exists_get? h.kept
  have apart := h.nodup_all
  rw [all, List.map_append] at apart
  rw [← serial]
  apply (List.nodup_append.mp apart).2.2
  · apply List.mem_map_of_mem (mem_registrations found)
  · apply List.mem_map_of_mem left

end Conserved

/-- However registrations are reserved, promoted, detached and cleared: no identity is in both
stores, and every entry stands under its own with the flags of its store. Whatever was reserved is
in exactly one situation, in a single state, and nothing else is held anywhere. What has left the
stores is given up; it stays where it went whatever is done afterwards, and no operation hands it
out again. A refused reservation changes nothing, and answers with the entry of its identity. -/
theorem registrations_conserved (earlier later : List Action) :
  (∀ x, (run earlier).registry.applying.get? x = none ∨ (run earlier).registry.live.get? x = none)
    ∧ (∀ x r, (run earlier).registry.applying.get? x = some r →
      r.id = x ∧ r.isLive = false ∧ r.isRemoved = false)
    ∧ (∀ x r, (run earlier).registry.live.get? x = some r →
      r.id = x ∧ r.isLive = true ∧ r.isRemoved = false)
    ∧ ((run earlier).reserved.map Registration.serial).Nodup
    ∧ (∀ r ∈ (run earlier).reserved, ∃ situation, (run earlier).Situated r situation)
    ∧ (∀ situation, ∀ s ∈ (run earlier).held situation, s.origin ∈ (run earlier).reserved)
    ∧ (∀ situation, situation = .detached ∨ situation = .dropped →
      ∀ s ∈ (run earlier).held situation, s.isRemoved = true
        ∧ s ∈ (run (earlier ++ later)).held situation
        ∧ ∀ r, (run (earlier ++ later)).registry.Gives r → r.serial ≠ s.serial)
    ∧ (∀ c r, ((run earlier).registry.reserve c).1 = .existing r →
      (run earlier).step (.reserve c) = run earlier
        ∧ (run earlier).registry.get? c.instrument.id = some r)
  := by
  have now : (run earlier).Conserved := .run earlier
  have after : (run (earlier ++ later)).Conserved := .run (earlier ++ later)
  refine ⟨?_, ?_, ?_, now.nodup_reserved, ?_, ?_, ?_, ?_⟩
  · intro x
    cases live : (run earlier).registry.live.get? x with
    | none => right; rfl
    | some r =>
      left
      apply now.kept.apart live
  · intro x r applying
    exact ⟨now.kept.applying_id applying, now.kept.applying_flags applying⟩
  · intro x r live
    exact ⟨now.kept.live_id live, now.kept.live_flags live⟩
  · intro r mem
    apply now.exists_situated mem
  · intro situation s mem
    apply now.mem_reserved (mem_all mem)
  · intro situation left s mem
    have still := held_run left mem later
    refine ⟨now.givenUp s (mem_left left mem), still, ?_⟩
    intro r gives
    apply after.not_gives (mem_left left still) gives
  · intro c r refused
    constructor
    · have existing : (run earlier).registry.reserve c
          = (.existing r, ((run earlier).registry.reserve c).2) := Prod.ext refused rfl
      rw [step, existing, reserve_existing existing]
    · apply get?_of_existing refused

end Ledger

end Registry

end Instrumentation
