import Instrumentation.Proofs.HitLimit
import Instrumentation.Proofs.Separation
import Instrumentation.Proofs.Stride.Sessions

/-!
# Operations on different identities

Whatever an operation does that is addressed to one identity is separate from other identities. So
two operations that are addressed to different identities commute, whether they succeed or fail.
-/

namespace Instrumentation

namespace Lifecycle

open Routine

variable {answer : (request : Request) → request.Answer} {x : InstrumentId} {r : Registration}

/-! ### Installs -/

/-- The end of an install that fails. -/
theorem sideBySide_failInstall (own : r.id = x) (n : Nat) (err : InstrumentError) :
  SideBySide answer x Eq (failInstall r err) (failInstall (r.numbered n) err)
  := by
  subst own
  apply sideBySide_cancel.next
  apply sideBySide_log.next
  apply sideBySide_detach.bind
  rintro d d' ⟨same, -⟩
  rcases Registration.map_unnumbered_cases same with ⟨rfl, rfl⟩ | ⟨s, m, rfl, rfl⟩
  · apply SideBySide.pure rfl
  · apply sideBySide_uncapture.next
    apply sideBySide_publish.next
    apply SideBySide.pure rfl

/-- An instrument whose unit is not loaded. -/
theorem sideBySide_deferInstall (own : r.id = x) (n : Nat) (now : Instant) :
  SideBySide answer x Eq (deferInstall r now) (deferInstall (r.numbered n) now)
  := by
  subst own
  rw [deferInstall, deferInstall]
  change SideBySide answer _ _ (if r.instrument.applyImmediately then _ else _)
    (if r.instrument.applyImmediately then _ else _)
  split
  · apply (sideBySide_failInstall rfl n _).bind
    rintro err _ rfl
    apply SideBySide.pure rfl
  · apply sideBySide_schedule.bind
    rintro decision _ rfl
    cases decision with
    | scheduled dueAt attempts =>
      apply sideBySide_log.next
      apply SideBySide.pure rfl
    | exhausted attempts =>
      apply (sideBySide_failInstall rfl n _).bind
      rintro err _ rfl
      apply SideBySide.pure rfl

/-- The end of an install whose patch is in place. -/
theorem sideBySide_confirmInstall (own : r.id = x) (n : Nat) :
  SideBySide answer x (fun _ _ => True) (confirmInstall r) (confirmInstall (r.numbered n))
  := by
  subst own
  apply sideBySide_cancel.next
  apply sideBySide_promote.bind
  intro p p' same
  cases p with
  | some s =>
    obtain ⟨s', rfl⟩ := Option.isSome_iff_exists.mp same.symm
    apply sideBySide_log.next
    apply sideBySide_publish
  | none =>
    obtain rfl := Option.isNone_iff_eq_none.mp (by simpa using same)
    apply sideBySide_log.next
    apply SideBySide.ask
    dsimp only [Call.request, Registration.numbered]
    cases answer (.unpatch r.instrument.unitName r.instrument.patchSpec) with
    | ok _ => apply SideBySide.pure trivial
    | error err => apply sideBySide_log

/-- An attempt to patch the unit of an instrument. -/
theorem sideBySide_apply (own : r.id = x) (n : Nat) (now : Instant) :
  SideBySide answer x Eq (apply r now) (apply (r.numbered n) now)
  := by
  apply SideBySide.ask
  dsimp only [Call.request, Registration.numbered]
  cases answer (.resolve r.instrument.unitName) with
  | false => apply sideBySide_deferInstall own n now
  | true =>
    apply SideBySide.ask
    dsimp only [Call.request, Registration.numbered]
    cases answer (.patch r.instrument.unitName r.instrument.patchSpec) with
    | ok _ =>
      apply (sideBySide_confirmInstall own n).next
      apply SideBySide.pure rfl
    | error source =>
      apply (sideBySide_failInstall own n _).bind
      rintro err _ rfl
      apply SideBySide.ask
      dsimp only [Call.request, Registration.numbered]
      cases answer (.unpatch r.instrument.unitName r.instrument.patchSpec) with
      | ok _ => apply SideBySide.pure rfl
      | error secondary =>
        apply sideBySide_log.next
        apply SideBySide.pure rfl

/-- The install of an instrument. -/
theorem sideBySide_install (i : Instrument) :
  SideBySide answer i.id Eq (install i) (install i)
  := by
  apply sideBySide_registered.bind
  intro o o' same
  rcases Registration.map_unnumbered_cases same with ⟨rfl, rfl⟩ | ⟨s, m, rfl, rfl⟩
  · cases read : Candidate.ofInstrument i with
    | error err =>
      apply sideBySide_log.next
      apply sideBySide_publish.next
      apply SideBySide.pure rfl
    | ok candidate =>
      have own : candidate.instrument.id = i.id := by rw [Candidate.instrument_of read]
      apply (sideBySide_reserve own).bind
      rintro p p' ⟨r, n, ⟨rfl, rfl, own⟩ | ⟨rfl, rfl⟩⟩
      · apply sideBySide_clock.bind
        rintro now _ rfl
        apply (sideBySide_apply own n now).bind
        rintro done _ rfl
        cases done with
        | ok _ => apply SideBySide.pure rfl
        | error err => apply SideBySide.pure rfl
      · apply sideBySide_log.next
        apply SideBySide.pure rfl
  · apply sideBySide_log.next
    apply SideBySide.pure rfl

/-! ### Removals -/

/-- The cause of a removal. -/
theorem sideBySide_reverseLive (n : Nat) (cause : Option String) :
  SideBySide answer x Eq (reverseLive r cause) (reverseLive (r.numbered n) cause)
  := by
  rw [reverseLive, reverseLive]
  change SideBySide answer x Eq (if r.isLive then _ else _) (if r.isLive then _ else _)
  split
  · apply SideBySide.ask
    dsimp only [Call.request, Registration.numbered]
    cases answer (.unpatch r.instrument.unitName r.instrument.patchSpec) with
    | ok _ => apply SideBySide.pure rfl
    | error source =>
      apply sideBySide_log.next
      apply SideBySide.pure rfl
  · apply SideBySide.pure rfl

/-- The removal of the identity. -/
theorem sideBySide_removeEntry (cause : Option String) (withFrame : Bool) :
  SideBySide answer x Eq (removeEntry x cause withFrame) (removeEntry x cause withFrame)
  := by
  apply sideBySide_detach.bind
  rintro d d' ⟨same, named⟩
  rcases Registration.map_unnumbered_cases same with ⟨rfl, rfl⟩ | ⟨r, n, rfl, rfl⟩
  · apply SideBySide.pure rfl
  · obtain rfl := named r rfl
    apply sideBySide_cancel.next
    change SideBySide answer _ _ (if withFrame then _ else _) (if withFrame then _ else _)
    split
    on_goal 1 => apply sideBySide_uncapture.next
    all_goals
      apply (sideBySide_reverseLive n cause).bind
      rintro cause _ rfl
      apply sideBySide_log.next
      apply sideBySide_publish.next
      apply SideBySide.pure rfl

/-- The removal of the identity for a cause. -/
theorem sideBySide_removeById (cause : Option String) :
  SideBySide answer x Eq (removeById x cause) (removeById x cause)
  := sideBySide_removeEntry cause true

/-! ### Hits -/

/-- The removal of an instrument that has had its last hit. -/
theorem sideBySide_finishIfDone (own : r.id = x) (n : Nat) :
  SideBySide answer x (fun _ _ => True) (finishIfDone r) (finishIfDone (r.numbered n))
  := by
  subst own
  rw [finishIfDone, finishIfDone]
  change SideBySide answer _ _ (if r.throttle.isFinished then _ else _)
    (if r.throttle.isFinished then _ else _)
  split
  · apply SideBySide.next
    · apply sideBySide_revise
      · intro s
        exact ⟨rfl, rfl, rfl, rfl⟩
      · intro s m
        rfl
    · apply sideBySide_log.next
      apply (sideBySide_removeEntry none false).bind
      intro _ _ _
      apply SideBySide.pure trivial
  · apply SideBySide.pure trivial

/-- The end of a hit that was admitted. -/
theorem sideBySide_judge (own : r.id = x) (n : Nat) :
  SideBySide answer x Eq (judge r) (judge (r.numbered n))
  := by
  subst own
  have counts : SideBySide answer r.id Eq
      (do
        finishIfDone r
        return true)
      (do
        finishIfDone (r.numbered n)
        return true) := by
    apply (sideBySide_finishIfDone rfl n).next
    apply SideBySide.pure rfl
  rw [judge, judge]
  dsimp only [Registration.numbered]
  cases r.predicate with
  | none => exact counts
  | some p =>
    apply sideBySide_frame.bind
    rintro frame _ rfl
    cases p.evaluate frame with
    | ok holds =>
      cases holds with
      | true => exact counts
      | false =>
        apply sideBySide_log.next
        apply sideBySide_uncapture.next
        apply SideBySide.pure rfl
    | error source =>
      apply sideBySide_uncapture.next
      apply sideBySide_log.next
      apply (sideBySide_removeEntry _ false).bind
      intro _ _ _
      apply SideBySide.pure rfl

/-- A pass through the patch point. -/
theorem sideBySide_hit :
  SideBySide answer x Eq (hit x) (hit x)
  := by
  apply sideBySide_live.bind
  rintro o o' ⟨same, named⟩
  rcases Registration.map_unnumbered_cases same with ⟨rfl, rfl⟩ | ⟨r, n, rfl, rfl⟩
  · apply sideBySide_log.next
    apply SideBySide.pure rfl
  · obtain rfl := named r rfl
    apply sideBySide_clock.bind
    rintro now _ rfl
    change SideBySide answer _ _ (if r.isFinishedAt now then _ else _)
      (if r.isFinishedAt now then _ else _)
    split
    · apply (sideBySide_removeEntry none true).bind
      intro _ _ _
      apply SideBySide.pure rfl
    · dsimp only [Registration.numbered]
      rcases r.throttle.allow now.millis with ⟨admitted, throttle⟩
      apply SideBySide.next
      · apply sideBySide_revise
        · intro s
          exact ⟨rfl, rfl, rfl, rfl⟩
        · intro s m
          rfl
      · dsimp only
        split
        · apply sideBySide_judge (r := { r with throttle }) rfl n
        · apply sideBySide_log.next
          apply sideBySide_uncapture.next
          apply SideBySide.pure rfl

end Lifecycle

/-! ### Operations -/

namespace Operation

/-- The identity that an operation is addressed to, if it is addressed to one. -/
def addressee? : Operation → Option InstrumentId
  | install i => some i.id
  | removeById id _ => some id
  | remove _ (some id) => some id
  | hit id => some id
  | _ => none

/-- An operation is separate from all identities but its own. -/
theorem sideBySide {answer : (request : Request) → request.Answer} {x : InstrumentId}
    (op : Operation) (addressed : op.addressee? = some x) :
  op.routine.SideBySide answer x Eq op.routine
  := by
  cases op with
  | install i =>
    obtain rfl := Option.some.inj addressed
    apply Lifecycle.sideBySide_install
  | removeById id cause =>
    obtain rfl := Option.some.inj addressed
    apply Lifecycle.sideBySide_removeById
  | remove query id? =>
    cases id? with
    | none => cases addressed
    | some id =>
      obtain rfl := Option.some.inj addressed
      apply (Lifecycle.sideBySide_removeById none).bind
      rintro removed _ rfl
      apply Routine.SideBySide.pure rfl
  | hit id =>
    obtain rfl := Option.some.inj addressed
    apply Lifecycle.sideBySide_hit
  | _ => cases addressed

end Operation

namespace Engine

/-- What an operation answers that nothing interrupts, and the engine it leaves. -/
def perform (e : Engine) (answer : (request : Request) → request.Answer) (op : Operation) :
    op.Result × Engine :=
  op.routine.runAlone answer e

/-- The stores of two engines hold the same, but for the numbers of registrations. -/
structure Agrees (e e' : Engine) : Prop where
  /-- The live instruments are the same. -/
  live : e.registry.live.map Registration.unnumbered = e'.registry.live.map Registration.unnumbered
  /-- The applying instruments are the same. -/
  applying :
    e.registry.applying.map Registration.unnumbered = e'.registry.applying.map Registration.unnumbered
  /-- The deferred installs are the same. -/
  retries : e.retries = e'.retries
  /-- The captured frames are the same. -/
  frames : ∀ z, e.frames.frames.get? z = e'.frames.frames.get? z

variable {e e' : Engine} {x y : InstrumentId} {a b : Operation}

/-- Engines that resemble each other in every identity agree. -/
theorem Agrees.of_resembles (resembles : ∀ z, e.Resembles e' z) :
  e.Agrees e'
  := by
  constructor
  · apply Dict.ext
    intro z
    simpa only [Dict.get?_map] using (resembles z).live
  · apply Dict.ext
    intro z
    simpa only [Dict.get?_map] using (resembles z).applying
  · have pending := Dict.ext fun z => (resembles z).pending
    exact congrArg₂ RetryQueue.mk (resembles "").policy pending
  · intro z
    exact (resembles z).frame

namespace Sound

/-- An operation changes nothing that is kept for other identities. -/
theorem perform_changesOnly (sound : e.Sound) (answer : (request : Request) → request.Answer)
    (forX : a.addressee? = some x) :
  (e.perform answer a).2.ChangesOnly e x
  := (a.sideBySide forX (.refl sound x)).2.2

/-- An operation is answered as it would be after one that is addressed to another identity, and
leaves the same for its own. -/
theorem perform_after (sound : e.Sound) (answer : (request : Request) → request.Answer)
    (forX : a.addressee? = some x) (forY : b.addressee? = some y) (apart : x ≠ y) :
  (e.perform answer a).1 = ((e.perform answer b).2.perform answer a).1
    ∧ (e.perform answer a).2.Resembles ((e.perform answer b).2.perform answer a).2 x
  := by
  have changes := sound.perform_changesOnly answer forY
  obtain ⟨answers, resembles, -⟩ := a.sideBySide forX (changes.resembles sound apart)
  exact ⟨answers, resembles⟩

/-- Two operations that are addressed to different identities leave the same in either order. -/
theorem perform_agrees (sound : e.Sound) (answer : (request : Request) → request.Answer)
    (forX : a.addressee? = some x) (forY : b.addressee? = some y) (apart : x ≠ y) :
  ((e.perform answer a).2.perform answer b).2.Agrees ((e.perform answer b).2.perform answer a).2
  := by
  have first := sound.perform_changesOnly answer forX
  have second := first.sound.perform_changesOnly answer forY
  have first' := sound.perform_changesOnly answer forY
  have second' := first'.sound.perform_changesOnly answer forX
  apply Agrees.of_resembles
  intro z
  by_cases own : z = x
  · subst own
    have later := (sound.perform_after answer forX forY apart).2
    exact (second.resembles first.sound apart).symm.trans later
  · by_cases own' : z = y
    · subst own'
      have later := (sound.perform_after answer forY forX apart.symm).2
      exact later.symm.trans (second'.resembles first'.sound own)
    · have before := (first.resembles sound own).trans (second.resembles first.sound own')
      have before' := (first'.resembles sound own').trans (second'.resembles first'.sound own)
      exact before.symm.trans before'

end Sound

end Engine

/-- Operations that are addressed to different identities do not interfere. Whatever has happened
before, and whatever the transform engine answers as long as it answers the same request in the same
way, each is answered as it would be without the other, both leave the same in either order, and each
leaves what is kept for all identities but its own. -/
theorem operations_commute {c : Conduct} {settings : Settings} {clock : Instant} {s : Session}
    (run : c.Run (.idle (.new settings clock)) s) (answer : (request : Request) → request.Answer)
    {a b : Operation} {x y : InstrumentId} (forX : a.addressee? = some x)
    (forY : b.addressee? = some y) (apart : x ≠ y) :
  ((s.engine.perform answer b).2.perform answer a).1 = (s.engine.perform answer a).1
    ∧ ((s.engine.perform answer a).2.perform answer b).1 = (s.engine.perform answer b).1
    ∧ ((s.engine.perform answer a).2.perform answer b).2.Agrees
      ((s.engine.perform answer b).2.perform answer a).2
    ∧ (∀ z, z ≠ x → (s.engine.perform answer a).2.standing z = s.engine.standing z)
    ∧ ∀ z, z ≠ y → (s.engine.perform answer b).2.standing z = s.engine.standing z
  := by
  have sound : s.engine.Sound := run.since.succeeds.sound
  constructor
  · exact (sound.perform_after answer forX forY apart).1.symm
  · constructor
    · exact (sound.perform_after answer forY forX apart.symm).1.symm
    · constructor
      · exact sound.perform_agrees answer forX forY apart
      · constructor
        · exact (sound.perform_changesOnly answer forX).others
        · exact (sound.perform_changesOnly answer forY).others

/-- The answers of a transform engine that has loaded one unit and patches it. -/
def Request.answerIn (unit : String) : (request : Request) → request.Answer
  | .resolve u => u == unit
  | .patch _ _ => .ok ()
  | .unpatch _ _ => .ok ()

/-- An install in a unit that is not loaded, to be applied at once. -/
def installUnloaded : Operation :=
  .install { Instrument.breakpointIn "V" with id := "b", applyImmediately := true }

/-- A pass whose condition cannot be evaluated, and an install at once in a unit that is not loaded.
The one removes its breakpoint, the other fails, in either order. -/
theorem operations_commute_failures :
  ∃ s, Conduct.reentrant.Run (.idle (.new .default default)) s
    ∧ (Operation.hit "a").addressee? = some "a" ∧ installUnloaded.addressee? = some "b"
    ∧ (s.engine.registry.getLive? "a").isSome
    ∧ ((s.engine.perform (Request.answerIn "U") (.hit "a")).2.standing "a").live.isNone
    ∧ ((s.engine.perform (Request.answerIn "U") installUnloaded).2.perform (Request.answerIn "U")
        (.hit "a")).1 = false
    ∧ ((s.engine.perform (Request.answerIn "U") (.hit "a")).2.perform (Request.answerIn "U")
        installUnloaded).1 = .error (.targetNotFound "b" "V")
    ∧ ((s.engine.perform (Request.answerIn "U") (.hit "a")).2.perform (Request.answerIn "U")
        installUnloaded).2.Agrees
      ((s.engine.perform (Request.answerIn "U") installUnloaded).2.perform (Request.answerIn "U")
        (.hit "a")).2
  := by
  have installs : Conduct.reentrant.AllowsAll (.idle (.new .default default)) (installLimited 1) :=
    ⟨nofun, trivial, trivial, trivial⟩
  obtain ⟨hits, fails, agrees, -, -⟩ := operations_commute installs.run (Request.answerIn "U")
    (a := .hit "a") (b := installUnloaded) rfl rfl (by decide)
  refine ⟨_, installs.run, rfl, rfl, rfl, rfl, hits.trans ?_, fails.trans ?_, agrees⟩
  · rfl
  · rfl

end Instrumentation
