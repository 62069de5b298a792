import Instrumentation.Proofs.Location
import Instrumentation.Proofs.Sound
import Instrumentation.Proofs.Sparing

/-!
# Lookups for what is nested

Locations are ordered: one stands below another one if it answers a lookup for it, as that of a
nested unit does for the units around it. A registry that arises from the one without instruments
holds each identity once, and finds what is registered and answers. So a lookup finds all that is
found by the lookups for what stands below. The registry of every session is such a registry.
-/

namespace Instrumentation

namespace Registry

variable {g : Registry} {query query' : Location}

/-! ### Registries -/

/-- The registries that arise from the one without instruments. -/
inductive Arises : Registry → Prop where
  /-- The registry without instruments. -/
  | empty : Arises .empty
  /-- A candidate is put among the applying, unless its identity is registered. -/
  | reserve {g : Registry} (h : Arises g) (c : Candidate) : Arises (g.reserve c).2
  /-- An identity is moved to the live ones, if it is applying. -/
  | promote {g : Registry} (h : Arises g) (x : InstrumentId) : Arises (g.promote x).2
  /-- An identity is taken out. -/
  | detach {g : Registry} (h : Arises g) (x : InstrumentId) : Arises (g.detach x).2
  /-- Hits of an entry are counted. -/
  | modify {g : Registry} (h : Arises g) (x : InstrumentId) {f : Registration → Registration}
      (alike : ∀ r, (f r).Alike r) : Arises (g.modify x f)
  /-- Everything is dropped. -/
  | clear {g : Registry} (h : Arises g) : Arises g.clear.2

/-- A registry that arises is well kept. -/
theorem Arises.wellKept (h : g.Arises) :
  g.WellKept
  := by
  induction h with
  | empty => exact .empty
  | @reserve g h c ih =>
    cases reserved : g.reserve c with
    | mk outcome g' =>
      cases outcome with
      | fresh r => exact ih.reserve reserved
      | existing r =>
        obtain rfl := reserve_existing reserved
        exact ih
  | promote _ x ih => exact ih.promote x
  | detach _ x ih => exact ih.detach x
  | modify _ x alike ih => exact ih.modify x alike
  | @clear g => exact .clear g

/-! ### Lookups -/

/-- A lookup finds some of the registrations, in their order. -/
theorem findByLocation_sublist (g : Registry) (query : Location) :
  (g.findByLocation query).Sublist g.registrations
  := by
  rw [findByLocation, List.map_append]
  apply List.Sublist.append
  · exact List.filter_sublist.map Prod.snd
  · exact (List.filter_sublist.trans List.filter_sublist).map Prod.snd

/-- A lookup finds each identity once. -/
theorem nodup_findByLocation (kept : g.WellKept) (query : Location) :
  ((g.findByLocation query).map Registration.id).Nodup
  := by
  have chosen := (g.findByLocation_sublist query).map Registration.id
  exact kept.nodup_registrations.sublist chosen

/-- What is found by a lookup for a location is found by the lookups that the location answers. -/
theorem findByLocation_subset (kept : g.WellKept) (h : query.answers query' = true) :
  g.findByLocation query ⊆ g.findByLocation query'
  := by
  intro r found
  obtain ⟨registered, answers⟩ := kept.mem_found_iff.mp found
  exact kept.mem_found_iff.mpr ⟨registered, Location.answers_trans answers h⟩

end Registry

/-! ### Sessions -/

/-- A move of a registry that arises leads to one that arises. -/
theorem Move.arises {c : Conduct} {p q : Position} (move : Move c p q)
    (h : p.view.registry.Arises) :
  q.view.registry.Arises
  := by
  cases move with
  | touch v calls x f alike => exact h.modify x alike
  | refuse => exact h
  | complain => exact h
  | takeDue => exact h
  | forget => exact h
  | register v calls i candidate r g opens valid fresh =>
    have reserved := h.reserve candidate
    rwa [fresh] at reserved
  | attempt => exact h
  | found => exact h
  | defer => exact h
  | fail v calls r => exact h.detach r.id
  | reject v calls r => exact h.detach r.id
  | confirm v calls r => exact h.promote r.id
  | revert v calls r => exact h.promote r.id
  | settle => exact h
  | drop v calls x => exact h.detach x
  | withdraw v calls x => exact h.detach x
  | part => exact h
  | clear => exact h.clear

/-- The registry of a session that begins on an engine without instruments arises. -/
theorem Conduct.Run.arises {c : Conduct} {settings : Settings} {clock : Instant} {s : Session}
    (run : c.Run (.idle (.new settings clock)) s) :
  s.engine.registry.Arises
  := Run.invariant (fun _ => .empty) Move.arises run

/-- Locations are ordered by the lookups that they answer. Whatever operations have led to a
registry, a lookup finds what is registered at a location that answers, each identity once, and so
it finds everything that is found by a lookup for a location that answers it. The registry of every
session is one of these, at any time. -/
theorem lookups_ordered :
  (∀ a : Location, a.answers a = true)
    ∧ (∀ a b c : Location, a.answers b = true → b.answers c = true → a.answers c = true)
    ∧ (∀ a b : Location, a.answers b = true → b.answers a = true → a = b)
    ∧ (∀ g : Registry, g.Arises → ∀ query : Location,
      (∀ r, r ∈ g.findByLocation query
        ↔ g.get? r.id = some r ∧ r.instrument.location.answers query = true)
      ∧ ((g.findByLocation query).map Registration.id).Nodup
      ∧ ∀ query', query.answers query' = true → g.findByLocation query ⊆ g.findByLocation query')
    ∧ ∀ (c : Conduct) settings clock s, c.Run (.idle (.new settings clock)) s →
      s.engine.registry.Arises
  := by
  refine ⟨Location.answers_self, ?transitive, ?antisymmetric, ?lookups, ?sessions⟩
  case transitive =>
    intro a b c h h'
    exact Location.answers_trans h h'
  case antisymmetric =>
    intro a b h h'
    exact Location.answers_antisymm h h'
  case lookups =>
    intro g arises query
    have kept := arises.wellKept
    refine ⟨?_, Registry.nodup_findByLocation kept query, ?_⟩
    · intro r
      exact kept.mem_found_iff
    · intro query' h
      exact Registry.findByLocation_subset kept h
  case sessions =>
    intro c settings clock s run
    exact run.arises

/-- A breakpoint without a condition. -/
def Candidate.lasting (id unit : String) : Candidate where
  instrument := .lasting id unit
  predicate := none

/-- A live instrument in a nested unit, and applying ones in the unit around it and in another unit
whose name starts alike. -/
def Registry.ofNested : Registry :=
  let live := ((Registry.empty.reserve (.lasting "inner" "a.B$Inner")).2.promote "inner").2
  ((live.reserve (.lasting "outer" "a.B")).2.reserve (.lasting "other" "a.Bc")).2

/-- What is found in the nested unit is found in the unit around it, which is not found there. -/
theorem lookups_ordered_nested :
  let inner : Location := { unit := "a.B$Inner", line := 1 }
  let outer : Location := { unit := "a.B", line := 1 }
  Registry.ofNested.Arises ∧ inner.answers outer = true
    ∧ (Registry.ofNested.findByLocation inner).map Registration.id = ["inner"]
    ∧ (Registry.ofNested.findByLocation outer).map Registration.id = ["outer", "inner"]
    ∧ ((Registry.ofNested.findByLocation outer).map Registration.id).Nodup
    ∧ Registry.ofNested.findByLocation inner ⊆ Registry.ofNested.findByLocation outer
  := by
  intro inner outer
  have arises : Registry.ofNested.Arises :=
    (((Registry.Arises.empty.reserve _).promote _).reserve _).reserve _
  have answers : inner.answers outer = true := by decide
  obtain ⟨-, -, -, lookups, -⟩ := lookups_ordered
  obtain ⟨-, -, below⟩ := lookups _ arises inner
  obtain ⟨-, once, -⟩ := lookups _ arises outer
  exact ⟨arises, answers, by decide, by decide, once, below outer answers⟩

end Instrumentation
