import Instrumentation.Proofs.Instrument.Wire
import Instrumentation.Proofs.Sparing
import Instrumentation.Proofs.Uninterrupted

/-!
# What removals remove

A registration departs when it is taken out of the registry: the patch of a live instrument is taken
back, successfully or not, and the removal is published. Nothing is kept for its identity any more.

A removal of several instruments removes one after another, each from the registry that the ones
before have left. What it is meant to remove may be listed several times, or in several ways. But
what has departed is not found again, so that everything that is meant departs once, and nothing
else departs. This holds of one removal, and of two one after another; so it holds of lists of
them, by induction.
-/

namespace Instrumentation

/-! ### Standings -/

/-- Nothing is kept for an identity. -/
def Standing.nothing : Standing where
  live := none
  applying := none
  pending := none
  frame := none

/-- What is registered for an identity. -/
def Standing.registered? (s : Standing) : Option Registration := s.live <|> s.applying

/-- The registry shows what is registered. -/
theorem Engine.registered?_standing (e : Engine) (x : InstrumentId) :
  (e.standing x).registered? = e.registry.get? x
  := rfl

namespace Engine

variable {e : Engine}

/-- The engine once nothing is kept for an identity. -/
def without (e : Engine) (x : InstrumentId) : Engine :=
  { e with
    registry := (e.registry.detach x).2
    retries := e.retries.cancel x
    frames := e.frames.clear x }

/-- What is kept for other identities is not changed. -/
theorem Sound.changesOnly_without (sound : e.Sound) (x : InstrumentId) :
  (e.without x).ChangesOnly e x
  := by
  have detached := sound.changesOnly_detach x
  have cancelled := detached.sound.changesOnly_retry (x := x) (q := e.retries.cancel x)
    rfl fun y other => RetryQueue.get?_cancel_of_ne other
  have cleared := cancelled.sound.changesOnly_uncapture x
  exact (cleared.trans cancelled).trans detached

/-- Nothing is kept for the identity. -/
theorem Sound.standing_without (sound : e.Sound) (x : InstrumentId) :
  (e.without x).standing x = .nothing
  := by
  simp only [without, standing, Standing.nothing, Registry.live_detach,
    sound.wellKept.applying_detach, RetryQueue.cancel, FrameStore.clear, Dict.get?_erase, if_pos]

end Engine

/-! ### Departures -/

/-- A registration that leaves the registry. The transform engine is asked to take back the patch
of a live instrument, and nothing is asked for an applying one. -/
structure Departure where
  /-- The registration. -/
  registration : Registration
  /-- The answer of the transform engine. -/
  answer : Option (Except TransformError Unit)
  /-- It is asked if the instrument is live. -/
  asked : answer.isSome = registration.isLive

namespace Departure

/-- The identity that departs. -/
def id (d : Departure) : InstrumentId := d.registration.id

/-- The instrument that departs. -/
def instrument (d : Departure) : Instrument := d.registration.instrument

/-- The failure to take back the patch. -/
def cause (d : Departure) : Option String :=
  match d.answer with
  | some (.error source) => some (InstrumentError.unpatchFailed d.id source).message
  | _ => none

/-- The request to take back the patch, with its answer. -/
def calls (d : Departure) : List Entry :=
  match d.answer with
  | some answer =>
    [(Call.withdraw d.registration).asked, (Call.withdraw d.registration).answered answer]
  | none => []

/-- What is seen of a departure. -/
def entries (d : Departure) (t : Instant) : List Entry :=
  d.calls ++ [.published (some d.registration.serial) (.removed d.instrument d.cause t)]

end Departure

namespace Engine

variable {e e' e'' : Engine} {meant meant' : Instrument → Prop} {r : Registration}
  {departures later : List Departure}

/-- Of what is registered, all that is meant has departed once, and nothing else. Nothing is kept
for it any more, all other identities stand as before, and nothing else is seen. -/
structure Releases (e' e : Engine) (meant : Instrument → Prop) (departures : List Departure) :
    Prop where
  /-- The engine is sound. -/
  sound : e'.Sound
  /-- The time is the same. -/
  clock : e'.clock = e.clock
  /-- Each identity departs once. -/
  nodup : (departures.map Departure.id).Nodup
  /-- What departs is what is registered and meant. -/
  mem_iff : ∀ r, r ∈ departures.map Departure.registration
    ↔ e.registry.get? r.id = some r ∧ meant r.instrument
  /-- The departures are seen one after another. -/
  history : e'.history = e.history ++ departures.flatMap fun d => d.entries e.clock
  /-- Nothing is kept for what has departed. -/
  gone : ∀ d ∈ departures, e'.standing d.id = .nothing
  /-- All other identities stand as before. -/
  others : ∀ x, x ∉ departures.map Departure.id → e'.standing x = e.standing x

namespace Releases

/-- What departs was registered. -/
theorem registered (h : e'.Releases e meant departures) {d : Departure} (mem : d ∈ departures) :
  e.registry.get? d.id = some d.registration
  := ((h.mem_iff d.registration).mp (List.mem_map_of_mem mem)).1

/-- What is registered and not meant stands as before. -/
theorem spared (h : e'.Releases e meant departures) (found : e.registry.get? r.id = some r)
    (spared : ¬meant r.instrument) :
  e'.standing r.id = e.standing r.id
  := by
  apply h.others
  intro mem
  obtain ⟨d, departs, same⟩ := List.mem_map.mp mem
  have registered := h.registered departs
  rw [same, found] at registered
  apply spared
  rw [Option.some.inj registered]
  exact ((h.mem_iff d.registration).mp (List.mem_map_of_mem departs)).2

/-- What is registered and meant has nothing left. -/
theorem left (h : e'.Releases e meant departures) (found : e.registry.get? r.id = some r)
    (leaves : meant r.instrument) :
  e'.standing r.id = .nothing
  := by
  obtain ⟨d, departs, rfl⟩ := List.mem_map.mp ((h.mem_iff r).mpr ⟨found, leaves⟩)
  apply h.gone d departs

/-- What is registered afterwards was registered before, and was not meant. -/
theorem stayed (h : e'.Releases e meant departures) {x : InstrumentId}
    (found : e'.registry.get? x = some r) :
  e.registry.get? x = some r ∧ ¬meant r.instrument
  := by
  obtain rfl := h.sound.wellKept.id_eq found
  have stays : r.id ∉ departures.map Departure.id := by
    intro mem
    obtain ⟨d, departs, same⟩ := List.mem_map.mp mem
    have gone := h.gone d departs
    rw [← registered?_standing, ← same, gone] at found
    cases found
  have before : e.registry.get? r.id = some r := by
    rw [← registered?_standing, ← h.others r.id stays, registered?_standing, found]
  use before
  intro leaves
  have gone := h.left before leaves
  rw [← registered?_standing, gone] at found
  cases found

/-- Nothing departs if nothing that is registered is meant. -/
theorem nil (sound : e.Sound) (none : ∀ r, e.registry.get? r.id = some r → ¬meant r.instrument) :
  e.Releases e meant []
  := by
  use sound, rfl, List.nodup_nil
  · intro r
    constructor
    · intro mem
      cases mem
    · rintro ⟨found, leaves⟩
      exact absurd leaves (none r found)
  · exact (List.append_nil _).symm
  · intro d mem
    cases mem
  · intro x _
    rfl

/-- What is meant may be told in another way. -/
theorem congr (h : e'.Releases e meant departures)
    (same : ∀ r, e.registry.get? r.id = some r
      → (meant r.instrument ↔ meant' r.instrument)) :
  e'.Releases e meant' departures
  := by
  use h.sound, h.clock, h.nodup
  · intro r
    rw [h.mem_iff]
    exact and_congr_right (same r)
  · exact h.history
  · exact h.gone
  · exact h.others

/-- A record is made before. -/
theorem after_log (h : e''.Releases e' meant departures) (logged : e'.Notes e []) :
  e''.Releases e meant departures
  := by
  use h.sound, h.clock.trans logged.clock, h.nodup
  · intro r
    rw [h.mem_iff, logged.alike.registry]
  · rw [h.history, logged.history, List.append_nil, logged.clock]
  · exact h.gone
  · intro x stays
    rw [h.others x stays, logged.standing]

/-- Some departures after others. -/
protected theorem append (h : e'.Releases e meant departures) (h' : e''.Releases e' meant' later) :
  e''.Releases e (fun i => meant i ∨ meant' i) (departures ++ later)
  := by
  -- what departs later was registered after the first departures, so it is not among them
  have fresh (x : InstrumentId) (mem : x ∈ later.map Departure.id) :
      x ∉ departures.map Departure.id := by
    obtain ⟨d, departs, rfl⟩ := List.mem_map.mp mem
    obtain ⟨before, spared⟩ := h.stayed (h'.registered departs)
    intro mem'
    obtain ⟨d', departs', same⟩ := List.mem_map.mp mem'
    have there := h.registered departs'
    rw [same, before] at there
    apply spared
    rw [Option.some.inj there]
    exact ((h.mem_iff d'.registration).mp (List.mem_map_of_mem departs')).2
  use h'.sound, h'.clock.trans h.clock
  · rw [List.map_append, List.nodup_append]
    use h.nodup, h'.nodup
    rintro x mem _ mem' rfl
    exact fresh x mem' mem
  · intro r
    rw [List.map_append, List.mem_append, h.mem_iff, h'.mem_iff]
    constructor
    · rintro (⟨found, leaves⟩ | ⟨found, leaves⟩)
      · exact ⟨found, .inl leaves⟩
      · exact ⟨(h.stayed found).1, .inr leaves⟩
    · rintro ⟨found, leaves⟩
      by_cases early : meant r.instrument
      · exact .inl ⟨found, early⟩
      · right
        constructor
        · rw [← registered?_standing, h.spared found early, registered?_standing, found]
        · exact leaves.resolve_left early
  · rw [h'.history, h.history, h.clock, List.flatMap_append, List.append_assoc]
  · intro d mem
    rcases List.mem_append.mp mem with early | late
    · by_cases again : d.id ∈ later.map Departure.id
      · exact absurd (List.mem_map_of_mem early) (fresh d.id again)
      · rw [h'.others d.id again, h.gone d early]
    · exact h'.gone d late
  · intro x stays
    rw [List.map_append, List.mem_append, not_or] at stays
    rw [h'.others x stays.2, h.others x stays.1]

/-- One registration is taken out, with its deferred install and its frame, and its departure is
seen. -/
theorem single (sound : e.Sound) (d : Departure)
    (found : e.registry.get? d.id = some d.registration)
    (noted : e'.Notes (e.without d.id) (d.entries e.clock)) :
  e'.Releases e (fun i => i.id = d.id) [d]
  := by
  have changed := sound.changesOnly_without d.id
  use noted.sound changed.sound, noted.clock.trans changed.clock, List.pairwise_singleton _ _
  · intro r
    rw [List.map_singleton, List.mem_singleton]
    constructor
    · rintro rfl
      exact ⟨found, rfl⟩
    · rintro ⟨there, same⟩
      change r.id = d.id at same
      rw [same, found] at there
      exact (Option.some.inj there).symm
  · rw [noted.history, List.flatMap_singleton]
    rfl
  · intro d' mem
    obtain rfl := List.mem_singleton.mp mem
    rw [noted.standing, sound.standing_without]
  · intro x other
    rw [List.map_singleton, List.mem_singleton] at other
    rw [noted.standing, changed.others x other]

end Releases

/-- Some instruments are reported, and they are those that have departed. -/
def Reports (e' e : Engine) (meant : Instrument → Prop) (removed : List Instrument) : Prop :=
  ∃ departures, removed = departures.map Departure.instrument ∧ e'.Releases e meant departures

/-- Some reports after others. -/
theorem Reports.append {removed others : List Instrument} (h : e'.Reports e meant removed)
    (h' : e''.Reports e' meant' others) :
  e''.Reports e (fun i => meant i ∨ meant' i) (removed ++ others)
  := by
  obtain ⟨departures, rfl, releases⟩ := h
  obtain ⟨later, rfl, releases'⟩ := h'
  exact ⟨departures ++ later, List.map_append.symm, releases.append releases'⟩

/-- What is meant may be told in another way. -/
theorem Reports.congr {removed : List Instrument} (h : e'.Reports e meant removed)
    (same : ∀ r, e.registry.get? r.id = some r
      → (meant r.instrument ↔ meant' r.instrument)) :
  e'.Reports e meant' removed
  := by
  obtain ⟨departures, reported, releases⟩ := h
  exact ⟨departures, reported, releases.congr same⟩

/-- Nothing is reported if nothing is meant. -/
theorem Sound.reports_nil (sound : e.Sound) (none : ∀ i, ¬meant i) :
  e.Reports e meant []
  := ⟨[], rfl, .nil sound fun r _ => none r.instrument⟩

/-- The engine is sound after a report. -/
theorem Reports.sound {removed : List Instrument} (h : e'.Reports e meant removed) :
  e'.Sound
  := by
  obtain ⟨departures, -, releases⟩ := h
  exact releases.sound

end Engine

/-! ### Removals -/

namespace Lifecycle

open Routine

variable {e : Engine}

/-- The patch of a live instrument is taken back, and nothing happens to an applying one. -/
theorem always_reverseLive {r : Registration} {goal : Option String → Engine → Prop}
    (h : ∀ d : Departure, d.registration = r → ∀ e', e'.Notes e d.calls → goal d.cause e') :
  (reverseLive r none).Always goal e
  := by
  rw [reverseLive]
  cases live : r.isLive with
  | false => exact h ⟨r, none, live.symm⟩ rfl e (.refl e)
  | true =>
    rw [if_pos rfl]
    apply Always.bind
    apply always_request
    intro answer e₁ asked
    have departs := h ⟨r, some answer, live.symm⟩ rfl
    cases answer with
    | ok _ => exact departs e₁ asked
    | error source =>
      apply Always.bind
      apply always_log
      intro e₂ logged
      exact departs e₂ (logged.trans asked)

/-- One identity is removed if it is registered. -/
theorem always_removeById (sound : e.Sound) (x : InstrumentId) :
  (removeById x none).Always
    (fun removed e' => e'.Reports e (fun i => i.id = x) removed.toList) e
  := by
  rw [removeById, removeEntry]
  apply Always.bind
  apply ensures_detach
  cases found : e.registry.get? x with
  | none =>
    have detached : (e.registry.detach x).1 = none := by rw [Registry.detach_fst, found]; rfl
    rw [detached, Registry.detach_none detached]
    refine ⟨[], rfl, .nil sound ?_⟩
    intro r registered same
    change r.id = x at same
    rw [same, found] at registered
    cases registered
  | some r =>
    obtain rfl := sound.wellKept.id_eq found
    have detached : (e.registry.detach r.id).1 = some r.remove := by
      rw [Registry.detach_fst, found]
      rfl
    rw [detached]
    apply Always.bind
    apply ensures_modify
    rw [if_pos rfl]
    apply Always.bind
    apply ensures_modify
    apply Always.bind
    apply always_reverseLive
    rintro ⟨_, answer, asked⟩ rfl e₁ called
    apply Always.bind
    apply always_log
    intro e₂ logged
    apply Always.bind
    apply always_publish
    intro e₃ published
    -- the call is made for the registration as it was given up, which has the same number
    let d : Departure := ⟨r, answer, asked⟩
    have clock : e₂.clock = e.clock := (logged.clock.trans called.clock)
    have noted := published.trans (logged.trans called)
    rw [List.append_nil, clock] at noted
    exact ⟨[d], rfl, .single sound d found noted⟩

/-- Listed identities are removed. -/
theorem always_removeEach (sound : e.Sound) (ids : List InstrumentId) :
  (removeEach ids).Always (fun removed e' => e'.Reports e (fun i => i.id ∈ ids) removed) e
  := by
  induction ids generalizing e with
  | nil => exact sound.reports_nil (by simp)
  | cons x ids ih =>
    rw [removeEach]
    apply Always.bind
    apply (always_removeById sound x).weaken
    intro removed e₁ reports
    apply Always.bind
    apply (ih reports.sound).weaken
    intro others e₂ reports'
    apply (reports.append reports').congr
    intro r _
    exact List.mem_cons.symm

/-- What answers a lookup for a location is removed. -/
theorem always_removeByLocation (sound : e.Sound) (query : Location) :
  (removeByLocation query).Always
    (fun removed e' => e'.Reports e (fun i => i.location.answers query = true) removed) e
  := by
  rw [removeByLocation]
  apply Always.bind
  apply ensures_gets
  apply (always_removeEach sound _).weaken
  intro removed e₁ reports
  apply reports.congr
  intro r registered
  exact sound.wellKept.mem_findByLocation_iff registered query

/-- A listed identity is removed, whatever its location. -/
theorem always_remove (sound : e.Sound) (query : Location) (x : InstrumentId) :
  (remove query (some x)).Always (fun removed e' => e'.Reports e (fun i => i.id = x) removed) e
  := by
  apply Always.bind
  exact always_removeById sound x

end Lifecycle

namespace Control

open Routine

variable {e : Engine}

/-- Listed instruments are removed. -/
theorem always_removeListed (sound : e.Sound) (instruments : List Instrument) :
  (removeListed instruments).Always
    (fun removed e' => e'.Reports e (fun i => ∃ j ∈ instruments, i.id = j.id) removed) e
  := by
  induction instruments generalizing e with
  | nil => exact sound.reports_nil (by simp)
  | cons i rest ih =>
    rw [removeListed]
    apply Always.bind
    apply (Lifecycle.always_remove sound i.location i.id).weaken
    intro removed e₁ reports
    apply Always.bind
    apply (ih reports.sound).weaken
    intro others e₂ reports'
    apply (reports.append reports').congr
    intro r _
    simp only [List.mem_cons, exists_eq_or_imp]

/-- What is at listed locations is removed. -/
theorem always_removeAt (sound : e.Sound) (locations : List Location) :
  (removeAt locations).Always
    (fun removed e' =>
      e'.Reports e (fun i => ∃ l ∈ locations, i.location.answers l = true) removed) e
  := by
  induction locations generalizing e with
  | nil => exact sound.reports_nil (by simp)
  | cons l rest ih =>
    rw [removeAt]
    apply Always.bind
    apply (Lifecycle.always_removeByLocation sound l).weaken
    intro removed e₁ reports
    apply Always.bind
    apply (ih reports.sound).weaken
    intro others e₂ reports'
    apply (reports.append reports').congr
    intro r _
    simp only [List.mem_cons, exists_eq_or_imp]

/-- The refusal of a command. -/
theorem always_reject (raw : Json) (cause : String) :
  (reject raw cause).Always
    (fun err e' => err = .invalidCommand cause
      ∧ e'.Notes e [.published none (.commandFailed raw cause e.clock)]) e
  := by
  rw [reject]
  apply Always.bind
  apply always_log
  intro e₁ logged
  apply Always.bind
  apply always_publish
  intro e₂ published
  rw [logged.clock] at published
  exact ⟨rfl, published.trans logged⟩

/-- A command that lists nothing is refused. -/
theorem always_handle_of_empty {raw : Json} {c : Command} (decoded : Command.decode raw = .ok c)
    (empty : c.isEmpty = true) :
  (handle raw).Always
    (fun answer e' =>
      answer = .error (.invalidCommand "command lists no instruments or locations")
        ∧ e'.Notes e [.published none
          (.commandFailed raw "command lists no instruments or locations" e.clock)]) e
  := by
  rw [handle, decoded]
  dsimp only
  rw [if_pos empty]
  apply Always.bind
  apply (always_reject raw _).weaken
  rintro _ e₁ ⟨rfl, noted⟩
  exact ⟨rfl, noted⟩

/-- A command to remove that was read removes what it lists. -/
theorem always_perform_of_remove {c : Command} (sound : e.Sound) (removes : c.action = .remove) :
  (perform c).Always (fun o e' => o.errors = [] ∧ e'.Reports e c.aim.removes o.affected) e
  := by
  rw [perform, Command.aim, removes]
  apply Always.bind
  apply always_log
  intro e₁ logged
  apply Always.bind
  apply (always_removeListed (logged.sound sound) c.instruments).weaken
  intro listed e₂ reports
  apply Always.bind
  apply (always_removeAt reports.sound c.locations).weaken
  intro located e₃ reports'
  obtain ⟨departures, reported, releases⟩ := reports.append reports'
  exact ⟨rfl, departures, reported, releases.after_log logged⟩

/-- A command to remove that lists something removes what it lists. -/
theorem always_handle_of_remove {raw : Json} {c : Command} (sound : e.Sound)
    (decoded : Command.decode raw = .ok c) (removes : c.action = .remove)
    (filled : c.isEmpty = false) :
  (handle raw).Always
    (fun answer e' => ∃ departures,
      answer = .ok { affected := departures.map Departure.instrument, errors := [] }
        ∧ e'.Releases e c.aim.removes departures) e
  := by
  rw [handle, decoded]
  dsimp only
  rw [if_neg (by simp [filled])]
  apply Always.bind
  apply (always_perform_of_remove sound removes).weaken
  rintro ⟨affected, errors⟩ e₁ ⟨rfl, departures, rfl, releases⟩
  exact ⟨departures, rfl, releases⟩

end Control

/-- A command to remove, and a removal by location, reports what is registered, live or applying,
and listed or at a listed location, each once, whatever is listed how often and whatever the
transform engine answers. All of this departs and nothing else: nothing is kept for it any more,
and the rest stands as before. The patch of a live instrument is taken back once, that of an
applying one never, and one removal of each is published, whose cause is the failure to take back
its patch. A command that lists nothing is refused, and changes nothing. -/
theorem removes_what_is_listed {settings : Settings} {clock : Instant} {s : Session}
    (run : Conduct.successive.Run (.idle (.new settings clock)) s) (respond : Responder) :
  (∀ raw c, Command.decode raw = .ok c → c.action = .remove → c.isEmpty = false
      → ∃ departures,
        (s.engine.conclude respond (.handle raw)).1
            = .ok { affected := departures.map Departure.instrument, errors := [] }
          ∧ (s.engine.conclude respond (.handle raw)).2.Releases s.engine c.aim.removes departures)
    ∧ (∀ raw c, Command.decode raw = .ok c → c.isEmpty = true
      → ∃ err event, (s.engine.conclude respond (.handle raw)).1 = .error err
        ∧ (s.engine.conclude respond (.handle raw)).2.Notes s.engine [.published none event])
    ∧ (∀ text raw, Json.parse? text = some raw
      → s.engine.conclude respond (.handleText text) = s.engine.conclude respond (.handle raw))
    ∧ ∀ query, ∃ departures,
      (s.engine.conclude respond (.remove query none)).1 = departures.map Departure.instrument
        ∧ (s.engine.conclude respond (.remove query none)).2.Releases s.engine
          (fun i => i.location.answers query = true) departures
  := by
  have sound : s.engine.Sound := run.since.succeeds.sound
  refine ⟨?_, ?_, ?_, ?_⟩
  · intro raw c decoded removes filled
    exact (Control.always_handle_of_remove sound decoded removes filled).runBy respond
  · intro raw c decoded empty
    exact ⟨_, _, (Control.always_handle_of_empty decoded empty).runBy respond⟩
  · intro text raw parsed
    change (Control.handleText text).runBy respond s.engine = _
    rw [Control.handleText, parsed]
    rfl
  · intro query
    exact (Lifecycle.always_removeByLocation sound query).runBy respond

/-- An instrument is live and another one applying. -/
def installLiveAndApplying : List Action :=
  [.start (.install (.lasting "a" "U")), .reply true, .reply true,
    .start (.install (.lasting "b" "V")), .reply false]

/-- The live instrument, the applying one, the live one again, and the place of the live one. -/
def Command.removeTwice : Command :=
  .remove [.lasting "a" "U", .lasting "b" "V", .lasting "a" "U"] [{ unit := "U", line := 1 }]

/-- A live instrument whose patch is not taken back, and an applying one, are removed once, though
the live one is listed three times. -/
theorem removes_what_is_listed_twice :
  ∃ s, Conduct.successive.Run (.idle (.new .default default)) s
    ∧ (s.engine.registry.getLive? "a").isSome ∧ (s.engine.registry.getApplying? "b").isSome
    ∧ (s.engine.conclude (.steady Request.answerRefusing) (.handle Command.removeTwice.toJson)).1
      = .ok { affected := [.lasting "a" "U", .lasting "b" "V"], errors := [] }
    ∧ ∃ departures, (s.engine.conclude (.steady Request.answerRefusing)
        (.handle Command.removeTwice.toJson)).2.Releases s.engine Command.removeTwice.aim.removes
      departures
  := by
  have installed : Conduct.successive.AllowsAll (.idle (.new .default default))
      installLiveAndApplying :=
    ⟨rfl, trivial, trivial, rfl, trivial, trivial⟩
  have decoded : Command.decode Command.removeTwice.toJson = .ok Command.removeTwice := by
    apply (Command.decode_toJson_iff _).mpr
    intro i mem t expires
    simp only [Command.removeTwice, Command.remove, List.mem_cons, List.not_mem_nil,
      or_false] at mem
    rcases mem with rfl | rfl | rfl <;> cases expires
  obtain ⟨removes, -, -, -⟩ :=
    removes_what_is_listed installed.run (.steady Request.answerRefusing)
  obtain ⟨departures, answered, releases⟩ := removes _ _ decoded rfl rfl
  refine ⟨_, installed.run, rfl, rfl, ?_, departures, releases⟩
  rfl

end Instrumentation
