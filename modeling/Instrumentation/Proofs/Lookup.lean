import Mathlib
import Instrumentation.Proofs.Departures
import Instrumentation.Proofs.Location

/-!
# Lookups for the unit that is patched

An instrument is patched in the unit that its location is reduced to, but answers a lookup by its
location as it is written. So the lookup for the unit that is patched, on the line of the
instrument, finds it unless its location is written as the signature of a method; and so does the
removal by that location.
-/

namespace Instrumentation

namespace Engine.Releases

variable {e e' : Engine} {meant : Instrument → Prop} {departures : List Departure}
  {r : Registration}

/-- The instruments that depart are those that are registered and meant. -/
theorem instrument_mem_iff (h : e'.Releases e meant departures)
    (registered : e.registry.get? r.id = some r) :
  r.instrument ∈ departures.map Departure.instrument ↔ meant r.instrument
  := by
  constructor
  · intro mem
    obtain ⟨d, departs, same⟩ := List.mem_map.mp mem
    rw [← same]
    exact ((h.mem_iff d.registration).mp (List.mem_map_of_mem departs)).2
  · intro leaves
    obtain ⟨d, departs, rfl⟩ := List.mem_map.mp ((h.mem_iff r).mpr ⟨registered, leaves⟩)
    exact List.mem_map_of_mem departs

/-- What was registered is registered no more just if it was meant. -/
theorem unregistered_iff (h : e'.Releases e meant departures)
    (registered : e.registry.get? r.id = some r) :
  e'.registry.get? r.id = none ↔ meant r.instrument
  := by
  constructor
  · intro gone
    by_contra spared
    have stays := h.spared registered spared
    rw [← registered?_standing, stays, registered?_standing, registered] at gone
    cases gone
  · intro leaves
    rw [← registered?_standing, h.left registered leaves]
    rfl

end Engine.Releases

/-- A registered instrument is found by the lookup for the unit that it is patched in, on its own
line, just if its location is not written as the signature of a method. The removal by that location
removes it just then, whatever the transform engine answers. -/
theorem found_at_patch_point_iff {c : Conduct} {settings : Settings} {clock : Instant} {s : Session}
    (run : c.Run (.idle (.new settings clock)) s) {r : Registration}
    (registered : s.engine.registry.get? r.id = some r) (query : Location)
    (unit : query.unit = r.instrument.unitName)
    (line : query.line = r.instrument.location.line) (respond : Responder) :
  (r ∈ s.engine.registry.findByLocation query ↔ ¬r.instrument.location.IsSignature)
    ∧ (r.instrument ∈ (s.engine.conclude respond (.remove query none)).1
      ↔ ¬r.instrument.location.IsSignature)
    ∧ ((s.engine.conclude respond (.remove query none)).2.registry.get? r.id = none
      ↔ ¬r.instrument.location.IsSignature)
  := by
  have sound : s.engine.Sound := run.since.succeeds.sound
  obtain rfl : query = r.instrument.location.patchPoint := by
    cases query
    congr
  obtain ⟨departures, removed, releases⟩ :=
    (Lifecycle.always_removeByLocation sound r.instrument.location.patchPoint).runBy respond
  have answers := Location.answers_patchPoint_iff (l := r.instrument.location)
  refine ⟨?found, ?reported, ?removed⟩
  case found =>
    rw [sound.wellKept.mem_found_iff, answers]
    exact and_iff_right registered
  case reported =>
    change r.instrument ∈ (Routine.runBy respond _ _).1 ↔ _
    rw [← answers, ← releases.instrument_mem_iff registered, ← removed]
    rfl
  case removed => exact (releases.unregistered_iff registered).trans answers

/-- An instrument is installed and becomes live. -/
def installIn (unit : String) : List Action :=
  [.start (.install (.lasting "a" unit)), .reply true, .reply true]

/-- A live instrument in a nested unit is found there, and removed though its patch is not taken
back. -/
theorem found_at_patch_point_iff_nested :
  let s := (Session.idle (.new .default default)).play (installIn "a.B$Inner")
  let query : Location := { unit := "a.B$Inner", line := 1 }
  let after := s.engine.conclude (.steady Request.answerRefusing) (.remove query none)
  Conduct.successive.Run (.idle (.new .default default)) s
    ∧ ∃ r, s.engine.registry.getLive? "a" = some r
      ∧ query.unit = r.instrument.unitName ∧ query.line = r.instrument.location.line
      ∧ ¬r.instrument.location.IsSignature
      ∧ r ∈ s.engine.registry.findByLocation query
      ∧ r.instrument ∈ after.1 ∧ after.2.registry.get? r.id = none
  := by
  intro s query after
  have installed : Conduct.successive.AllowsAll (.idle (.new .default default))
      (installIn "a.B$Inner") :=
    ⟨rfl, trivial, trivial, trivial⟩
  obtain ⟨r, live, registered⟩ : ∃ r, s.engine.registry.getLive? "a" = some r
      ∧ s.engine.registry.get? r.id = some r := ⟨_, rfl, rfl⟩
  obtain rfl := Option.some.inj live
  have plain : ¬Location.IsSignature query := by decide
  obtain ⟨found, reported, removed⟩ :=
    found_at_patch_point_iff installed.run registered query rfl rfl
      (.steady Request.answerRefusing)
  exact ⟨installed.run, _, live, rfl, rfl, plain, found.mpr plain, reported.mpr plain,
    removed.mpr plain⟩

/-- A live instrument whose location is written as a signature is patched in the unit that owns the
method, but the lookup for this unit does not find it, and the removal does not remove it. -/
theorem not_found_signature :
  let s := (Session.idle (.new .default default)).play (installIn "a.B.m(int)")
  let query : Location := { unit := "a.B", line := 1 }
  let after := s.engine.conclude (.steady Request.answerRefusing) (.remove query none)
  Conduct.successive.Run (.idle (.new .default default)) s
    ∧ ∃ r, s.engine.registry.getLive? "a" = some r
      ∧ query.unit = r.instrument.unitName ∧ query.line = r.instrument.location.line
      ∧ r ∉ s.engine.registry.findByLocation query
      ∧ after.1 = [] ∧ after.2.registry.getLive? "a" = some r
  := by
  intro s query after
  have installed : Conduct.successive.AllowsAll (.idle (.new .default default))
      (installIn "a.B.m(int)") :=
    ⟨rfl, trivial, trivial, trivial⟩
  have none : s.engine.registry.findByLocation query = [] := by cbv
  have concluded : after = ([], s.engine) := by
    change (Lifecycle.removeEach ((s.engine.registry.findByLocation query).map _)).runBy _ _ = _
    rw [none]
    rfl
  obtain ⟨r, live⟩ : ∃ r, s.engine.registry.getLive? "a" = some r := ⟨_, rfl⟩
  obtain rfl := Option.some.inj live
  refine ⟨installed.run, _, live, by decide, rfl, ?_, congrArg Prod.fst concluded, ?_⟩
  · rw [none]
    apply List.not_mem_nil
  · rw [concluded]
    exact live

end Instrumentation
