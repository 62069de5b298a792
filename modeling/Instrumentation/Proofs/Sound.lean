import Instrumentation.Proofs.Coherence
import Instrumentation.Proofs.Retry

/-!
# Sound engines

An engine is sound when its registry is well kept, so that what is listed by a search is what a
look-up finds. Whatever an operation writes leaves a sound engine, whose registry succeeds the one
before.
-/

namespace Instrumentation

namespace Registry

variable {g g' : Registry} {x : InstrumentId} {r : Registration} {n : Nat}

namespace WellKept

/-- An identity whose expiry has passed is registered with such an expiry. -/
theorem get?_of_expired (w : g.WellKept) {now : Instant}
    (mem : x ∈ g.expired now) :
  ∃ r, g.get? x = some r ∧ r.instrument.isExpiredAt now = true
  := by
  simp only [expired, List.mem_append, List.mem_map, List.mem_filter] at mem
  rcases mem with ⟨⟨y, r⟩, ⟨entry, passed⟩, rfl⟩ | ⟨⟨y, r⟩, ⟨entry, passed⟩, rfl⟩
  · exact ⟨r, w.get?_of_applying (Dict.get?_of_mem entry), passed⟩
  · exact ⟨r, get?_of_live (Dict.get?_of_mem entry), passed⟩

/-- What is registered is listed as expired if its expiry has passed. -/
theorem mem_expired_iff (w : g.WellKept) (registered : g.get? x = some r)
    (now : Instant) :
  x ∈ g.expired now ↔ r.instrument.isExpiredAt now = true
  := by
  constructor
  · intro mem
    obtain ⟨s, found, passed⟩ := w.get?_of_expired mem
    obtain rfl := Option.some.inj (registered.symm.trans found)
    exact passed
  · intro passed
    simp only [expired, List.mem_append, List.mem_map, List.mem_filter]
    rcases get?_eq_some_iff.mp registered with live | ⟨-, applying⟩
    · exact .inr ⟨(x, r), ⟨Dict.mem_of_get? live, passed⟩, rfl⟩
    · exact .inl ⟨(x, r), ⟨Dict.mem_of_get? applying, passed⟩, rfl⟩

/-- An instrument that is found at a location is registered there. -/
theorem get?_of_found (w : g.WellKept) {query : Location}
    (mem : r ∈ g.findByLocation query) :
  g.get? r.id = some r ∧ r.instrument.location.answers query = true
  := by
  simp only [findByLocation, answering, List.mem_map, List.mem_append, List.mem_filter] at mem
  rcases mem with ⟨⟨y, r⟩, ⟨entry, answers⟩ | ⟨⟨entry, answers⟩, -⟩, rfl⟩
  · have found := Dict.get?_of_mem entry
    rw [w.applying_id found]
    exact ⟨w.get?_of_applying found, answers⟩
  · have found := Dict.get?_of_mem entry
    rw [w.live_id found]
    exact ⟨get?_of_live found, answers⟩

/-- What is registered is found at a location if its own location answers. -/
theorem mem_findByLocation_iff (w : g.WellKept)
    (registered : g.get? r.id = some r) (query : Location) :
  r.id ∈ (g.findByLocation query).map Registration.id
    ↔ r.instrument.location.answers query = true
  := by
  constructor
  · intro mem
    obtain ⟨s, found, same⟩ := List.mem_map.mp mem
    obtain ⟨there, answers⟩ := w.get?_of_found found
    rw [same, registered] at there
    obtain rfl := Option.some.inj there
    exact answers
  · intro answers
    apply List.mem_map_of_mem
    simp only [findByLocation, answering, List.mem_map, List.mem_append, List.mem_filter]
    rcases get?_eq_some_iff.mp registered with live | ⟨-, applying⟩
    · refine ⟨(r.id, r), .inr ⟨⟨Dict.mem_of_get? live, answers⟩, ?_⟩, rfl⟩
      -- a live identity is not applying, whatever the location
      rw [Option.isNone_iff_eq_none, List.lookup_eq_none_iff]
      rintro ⟨y, s⟩ entry
      have apart := w.apart live
      rw [bne_iff_ne]
      rintro rfl
      rw [Dict.get?_of_mem (List.mem_filter.mp entry).1] at apart
      cases apart
    · exact ⟨(r.id, r), .inl ⟨Dict.mem_of_get? applying, answers⟩, rfl⟩

/-- What is found at a location is what is registered and answers. -/
theorem mem_found_iff (w : g.WellKept) {query : Location} :
  r ∈ g.findByLocation query
    ↔ g.get? r.id = some r ∧ r.instrument.location.answers query = true
  := by
  constructor
  · exact w.get?_of_found
  · rintro ⟨registered, answers⟩
    obtain ⟨s, found, same⟩ :=
      List.mem_map.mp ((w.mem_findByLocation_iff registered query).mpr answers)
    have there := (w.get?_of_found found).1
    rw [same, registered] at there
    obtain rfl := Option.some.inj there
    exact found

/-- What is listed as registered is what is found under its identity. -/
theorem mem_registrations_iff (w : g.WellKept) :
  r ∈ g.registrations ↔ g.get? r.id = some r
  := by
  simp only [registrations, Dict.values, List.mem_append, List.mem_map]
  constructor
  · rintro (⟨⟨x, r⟩, entry, rfl⟩ | ⟨⟨x, r⟩, entry, rfl⟩)
    · have found := Dict.get?_of_mem entry
      rw [w.applying_id found]
      exact w.get?_of_applying found
    · have found := Dict.get?_of_mem entry
      rw [w.live_id found]
      exact get?_of_live found
  · intro found
    rcases get?_eq_some_iff.mp found with live | ⟨-, applying⟩
    · exact .inr ⟨(r.id, r), Dict.mem_of_get? live, rfl⟩
    · exact .inl ⟨(r.id, r), Dict.mem_of_get? applying, rfl⟩

/-- Each identity is listed once. -/
theorem nodup_registrations (w : g.WellKept) :
  (g.registrations.map Registration.id).Nodup
  := by
  have keys {d : Dict Registration} (own : ∀ entry ∈ d.entries, entry.2.id = entry.1) :
      d.values.map Registration.id = d.keys := by
    rw [Dict.values, Dict.keys, List.map_map]
    exact List.map_congr_left own
  have applying := keys fun entry mem => w.applying_id (Dict.get?_of_mem mem)
  have live := keys fun entry mem => w.live_id (Dict.get?_of_mem mem)
  rw [registrations, List.map_append, applying, live, List.nodup_append]
  use g.applying.ascending.imp String.ne_of_lt, g.live.ascending.imp String.ne_of_lt
  rintro x mem _ mem' rfl
  obtain ⟨⟨_, r⟩, entry, rfl⟩ := List.mem_map.mp mem
  obtain ⟨⟨_, s⟩, entry', rfl⟩ := List.mem_map.mp mem'
  have apart := w.apart (Dict.get?_of_mem entry')
  rw [Dict.get?_of_mem entry] at apart
  cases apart

end WellKept

/-- The identity is registered under a number. -/
def Has (g : Registry) (x : InstrumentId) (n : Nat) : Prop :=
  ∃ r, g.get? x = some r ∧ r.serial = n

namespace Has

/-- A detachment of another identity. -/
protected theorem detach (h : g.Has x n) (w : g.WellKept) {y : InstrumentId} (other : x ≠ y) :
  (g.detach y).2.Has x n
  := by
  obtain ⟨r, found, serial⟩ := h
  exact ⟨r, by rw [w.get?_detach, if_neg other, found], serial⟩

/-- A promotion. -/
protected theorem promote (h : g.Has x n) (w : g.WellKept) (y : InstrumentId) :
  (g.promote y).2.Has x n
  := by
  obtain ⟨r, found, serial⟩ := h
  cases promoted : (g.promote y).1 with
  | none =>
    rw [(w.promote_none promoted).2]
    exact ⟨r, found, serial⟩
  | some s =>
    obtain ⟨q, applying, rfl, -⟩ := w.promote_some promoted
    by_cases own : x = y
    · subst own
      obtain rfl := Option.some.inj (found.symm.trans (w.get?_of_applying applying))
      exact ⟨{ r with isLive := true }, by rw [w.get?_promote promoted, if_pos rfl], serial⟩
    · exact ⟨r, by rw [w.get?_promote promoted, if_neg own, found], serial⟩

/-- A change of an entry. -/
protected theorem modify (h : g.Has x n) (w : g.WellKept) {y : InstrumentId}
    {f : Registration → Registration} (alike : ∀ r, (f r).Alike r) :
  (g.modify y f).Has x n
  := by
  obtain ⟨r, found, serial⟩ := h
  by_cases own : x = y
  · subst own
    exact ⟨f r, by simp [w.get?_modify, found], (alike r).serial.trans serial⟩
  · exact ⟨r, by rw [w.get?_modify, if_neg own, found], serial⟩

/-- A fresh registration of another identity. -/
protected theorem reserve (h : g.Has x n) {c : Candidate} (fresh : g.reserve c = (.fresh r, g')) :
  g'.Has x n
  := by
  obtain ⟨s, found, serial⟩ := h
  have other : x ≠ r.id := by
    rintro rfl
    rw [(reserve_fresh fresh).1] at found
    cases found
  exact ⟨s, by rw [get?_reserve fresh, if_neg other, found], serial⟩

/-- A number that was given out stays with the identity that had it. -/
protected theorem before (h : g'.Has x n) (later : g'.Succeeds g) (old : n < g.nextSerial) :
  g.Has x n
  := by
  obtain ⟨r, found, rfl⟩ := h
  rcases later.stems found with new | ⟨s, before, serial, -⟩
  · omega
  · exact ⟨s, before, serial⟩

end Has

end Registry

/-- The engines have the same registered instruments, deferred installs and frames. -/
structure Engine.Alike (e' e : Engine) : Prop where
  /-- The registered instruments are the same. -/
  registry : e'.registry = e.registry
  /-- The deferred installs are the same. -/
  retries : e'.retries = e.retries
  /-- The frames are the same. -/
  frames : e'.frames = e.frames

namespace Engine.Alike

/-- A record in the log. -/
theorem log (e : Engine) (level : Level) (message : String) (fields : List (String × String)) :
  (e.log level message fields).Alike e
  := ⟨rfl, rfl, rfl⟩

/-- An entry in the journal. -/
theorem note (e : Engine) (entry : Entry) :
  (e.note entry).Alike e
  := ⟨rfl, rfl, rfl⟩

/-- An event. -/
theorem publish (e : Engine) (serial : Option Nat) (event : Event) :
  (e.publish serial event).Alike e
  := by
  rw [Engine.publish]
  cases (e.note (.published serial event)).emitter with
  | none => exact ⟨rfl, rfl, rfl⟩
  | some m => exact ⟨rfl, rfl, rfl⟩

/-- One change after another. -/
protected theorem trans {e e' e'' : Engine} (h : e''.Alike e') (h' : e'.Alike e) :
  e''.Alike e
  := ⟨h.registry.trans h'.registry, h.retries.trans h'.retries, h.frames.trans h'.frames⟩

end Engine.Alike

/-- The registry is well kept. -/
structure Engine.Sound (e : Engine) : Prop where
  /-- The registry is well kept. -/
  wellKept : e.registry.WellKept

/-- An engine without instruments is sound. -/
theorem Engine.Sound.new (settings : Settings) (clock : Instant) :
  (Engine.new settings clock).Sound
  := ⟨.empty⟩

/-- The engine is sound, and its registry succeeds the one before. -/
structure Engine.Succeeds (e' e : Engine) : Prop where
  /-- The engine is sound. -/
  sound : e'.Sound
  /-- The registry succeeds the one before. -/
  registry : e'.registry.Succeeds e.registry

namespace Engine.Succeeds

variable {e e' e'' : Engine}

/-- An engine that has not changed. -/
protected theorem refl (h : e.Sound) :
  e.Succeeds e
  := ⟨h, .refl _⟩

/-- One change after another. -/
protected theorem trans (h : e''.Succeeds e') (h' : e'.Succeeds e) :
  e''.Succeeds e
  := ⟨h.sound, h.registry.trans h'.registry⟩

end Engine.Succeeds

namespace Engine.Sound

variable {e e' : Engine}

/-- The registry has not changed. -/
protected theorem keep (h : e.Sound) (registry : e'.registry = e.registry) :
  e'.Succeeds e
  := by
  constructor
  · constructor
    rw [registry]
    exact h.wellKept
  · rw [registry]
    apply Registry.Succeeds.refl

/-- Nothing happens that is seen. -/
protected theorem alike (h : e.Sound) (same : e'.Alike e) :
  e'.Succeeds e
  := h.keep same.registry

/-- The deferred installs have changed. -/
protected theorem retry (h : e.Sound) (q : RetryQueue) :
  ({ e with retries := q } : Engine).Succeeds e
  := h.keep rfl

/-- An identity is detached. -/
protected theorem detach (h : e.Sound) (x : InstrumentId) :
  ({ e with registry := (e.registry.detach x).2 } : Engine).Succeeds e
  := ⟨⟨h.wellKept.detach x⟩, .detach h.wellKept x⟩

/-- An identity is promoted. -/
protected theorem promote (h : e.Sound) (x : InstrumentId) :
  ({ e with registry := (e.registry.promote x).2 } : Engine).Succeeds e
  := ⟨⟨h.wellKept.promote x⟩, .promote h.wellKept x⟩

/-- An entry is changed. -/
protected theorem modify (h : e.Sound) (x : InstrumentId) {f : Registration → Registration}
    (alike : ∀ r, (f r).Alike r) :
  ({ e with registry := e.registry.modify x f } : Engine).Succeeds e
  := ⟨⟨h.wellKept.modify x alike⟩, .modify h.wellKept x alike⟩

/-- An instrument is registered. -/
protected theorem reserve (h : e.Sound) {c : Candidate} {r : Registration} {g : Registry}
    (fresh : e.registry.reserve c = (.fresh r, g)) :
  ({ e with registry := g } : Engine).Succeeds e
  := ⟨⟨h.wellKept.reserve fresh⟩, .reserve fresh⟩

/-- Everything is dropped. -/
protected theorem clear (e : Engine) :
  ({ e with registry := e.registry.clear.2, retries := e.retries.clear } : Engine).Succeeds e
  := ⟨⟨.clear _⟩, .clear _⟩

end Engine.Sound

/-- Nothing more happens that is seen. -/
protected theorem Engine.Succeeds.alike {e e' e'' : Engine} (h : e'.Succeeds e)
    (same : e''.Alike e') :
  e''.Succeeds e
  := (h.sound.alike same).trans h

end Instrumentation
