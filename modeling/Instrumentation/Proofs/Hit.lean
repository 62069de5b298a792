import Instrumentation.Proofs.Faithful
import Instrumentation.Proofs.HitLimit
import Instrumentation.Proofs.Separation.Operations

/-!
# Passes through a patch point

A pass through the patch point of a live instrument goes one of five ways. An instrument whose limit
is reached or whose expiry has passed is removed; a pass that the rate window refuses is dropped; and
a pass that is admitted counts if the condition holds, is dropped if it does not, and removes the
instrument if it cannot be evaluated. The last hit that the limit allows removes the instrument too,
and this removal alone leaves the frame, for it belongs to the hit.
-/

namespace Instrumentation

/-! ### What an instrument asks of a pass -/

/-- The value of the condition of an instrument in a frame. Without a condition every frame will
do. -/
def Instrument.judgment (i : Instrument) (f : Frame) : Except ConditionError Bool :=
  match i.conditionText? with
  | none => .ok true
  | some text => do (← Predicate.compile text).evaluate f

namespace Registration

/-- The hit limit is reached, or the expiry has passed. -/
def IsSpent (r : Registration) (now : Instant) : Prop :=
  (∃ limit, r.instrument.hitLimit = some limit ∧ limit.toNat ≤ r.throttle.hits)
    ∨ ∃ t, r.instrument.expiresAt = some t ∧ t ≤ now

/-- The limits of the instrument admit a pass. -/
structure Admits (r : Registration) (now : Instant) : Prop where
  /-- The hits are below the hit limit. -/
  limit : ∀ limit, r.instrument.hitLimit = some limit → r.throttle.hits < limit.toNat
  /-- The expiry has not passed. -/
  lasting : ∀ t, r.instrument.expiresAt = some t → ¬t ≤ now
  /-- The rate window, which is opened anew if its step has passed, has room. -/
  window : ∀ rate, r.instrument.rate = some rate
    → ∃ w, r.throttle.window = some w ∧ (w.refresh now.millis).count < rate.limit.toNat

/-- A hit more reaches the hit limit. -/
def IsLast (r : Registration) : Prop :=
  ∃ limit, r.instrument.hitLimit = some limit ∧ r.throttle.hits + 1 = limit.toNat

namespace Faithful

variable {r : Registration}

/-- The condition that was read is that of the instrument. -/
theorem verdict_eq (h : r.Faithful) (frames : FrameStore) :
  r.verdict frames = r.instrument.judgment (frames.get r.id)
  := by
  have candidate := h.candidate
  rw [Candidate.ofInstrument] at candidate
  rw [verdict, Instrument.judgment]
  cases text? : r.instrument.conditionText? with
  | none =>
    rw [text?] at candidate
    obtain ⟨-, none⟩ := Candidate.mk.inj (Except.ok.inj candidate)
    rw [← none]
  | some text =>
    rw [text?] at candidate
    dsimp only at candidate ⊢
    cases compiled : Predicate.compile text with
    | error source =>
      rw [compiled] at candidate
      cases candidate
    | ok p =>
      rw [compiled] at candidate
      obtain ⟨-, some⟩ := Candidate.mk.inj (Except.ok.inj candidate)
      rw [← some]
      rfl

/-- The throttle is finished just if the hit limit is reached. -/
theorem isFinished_iff (h : r.Faithful) :
  r.throttle.isFinished = true
    ↔ ∃ limit, r.instrument.hitLimit = some limit ∧ limit.toNat ≤ r.throttle.hits
  := by
  rw [Throttle.isFinished, h.throttle.limit]
  cases r.instrument.hitLimit with
  | none => simp
  | some limit => simp

/-- An instrument is found finished just if it is spent. -/
theorem isFinishedAt_iff (h : r.Faithful) (now : Instant) :
  r.isFinishedAt now = true ↔ r.IsSpent now
  := by
  rw [isFinishedAt, h.undone, Bool.false_or, Bool.or_eq_true, h.isFinished_iff, IsSpent,
    Instrument.isExpiredAt]
  apply or_congr_right
  cases r.instrument.expiresAt with
  | none => simp
  | some t => simp

/-- The rate window lets a pass through if there is none, or if it has room. -/
theorem allow_fst (h : r.Faithful) (now : Int) (unfinished : r.throttle.isFinished = false) :
  (r.throttle.allow now).1 = true ↔ ∀ rate, r.instrument.rate = some rate
    → ∃ w, r.throttle.window = some w ∧ (w.refresh now).count < rate.limit.toNat
  := by
  have window := h.throttle.window
  rw [Throttle.allow, if_neg (by simp [unfinished])]
  cases rate? : r.instrument.rate with
  | none =>
    rw [rate?] at window
    rw [Option.map_eq_none_iff.mp window]
    simp
  | some rate =>
    rw [rate?] at window
    obtain ⟨w, windowed, same⟩ := Option.map_eq_some_iff.mp window
    obtain ⟨limit, -⟩ := Prod.mk.inj same
    have refreshed : (w.refresh now).limit = rate.limit.toNat := by
      rw [RateWindow.refresh]
      split
      · exact limit
      · exact limit
    rw [windowed]
    simp only [RateWindow.pass, refreshed]
    split
    next room => simp [room]
    next full => simp [full]

/-- A pass that is let through is counted. -/
theorem hits_allow {t : Throttle} {now : Int} (allowed : (t.allow now).1 = true) :
  (t.allow now).2.hits = t.hits + 1 ∧ (t.allow now).2.hitLimit = t.hitLimit
  := by
  rw [Throttle.allow] at allowed ⊢
  split at allowed
  next => cases allowed
  next unfinished =>
    rw [if_neg unfinished]
    split at allowed
    next => exact ⟨rfl, rfl⟩
    next w _ =>
      dsimp only at allowed ⊢
      split at allowed
      next room =>
        rw [if_pos room]
        exact ⟨rfl, rfl⟩
      next => cases allowed

/-- A pass is admitted just if the instrument is not spent and the rate window lets it through. -/
theorem admits_iff (h : r.Faithful) (now : Instant) :
  r.Admits now ↔ ¬r.IsSpent now ∧ (r.throttle.allow now.millis).1 = true
  := by
  have unfinished (unspent : ¬r.IsSpent now) : r.throttle.isFinished = false := by
    apply Bool.eq_false_iff.mpr
    intro finished
    exact unspent (.inl (h.isFinished_iff.mp finished))
  constructor
  · rintro ⟨limit, lasting, window⟩
    have unspent : ¬r.IsSpent now := by
      rintro (⟨n, limited, reached⟩ | ⟨t, expires, passed⟩)
      · have := limit n limited
        omega
      · exact lasting t expires passed
    exact ⟨unspent, (h.allow_fst _ (unfinished unspent)).mpr window⟩
  · rintro ⟨unspent, allowed⟩
    constructor
    · intro n limited
      apply Nat.lt_of_not_le
      intro reached
      exact unspent (.inl ⟨n, limited, reached⟩)
    · intro t expires passed
      exact unspent (.inr ⟨t, expires, passed⟩)
    · exact (h.allow_fst _ (unfinished unspent)).mp allowed

/-- The limit is reached by a pass that is admitted just if it is the last one. -/
theorem isLast_iff (h : r.Faithful) {now : Instant} (admits : r.Admits now) :
  (r.throttled now).throttle.isFinished = true ↔ r.IsLast
  := by
  obtain ⟨-, allowed⟩ := (h.admits_iff now).mp admits
  obtain ⟨hits, limit⟩ := hits_allow allowed
  rw [throttled, Throttle.isFinished, hits, limit, h.throttle.limit, IsLast]
  cases limited : r.instrument.hitLimit with
  | none => simp
  | some n =>
    have below := admits.limit n limited
    simp only [Option.map_some, decide_eq_true_eq, Option.some.injEq, exists_eq_left']
    omega

end Faithful

end Registration

/-! ### The ways of a pass -/

/-- What a pass leaves behind: its answer, whether its identity is registered still, and the frames,
which keep the one of the identity if the pass counts and lose it if not. -/
structure Engine.Settles (out : Bool × Engine) (before : FrameStore) (x : InstrumentId)
    (counts stays : Bool) : Prop where
  /-- The answer. -/
  answer : out.1 = counts
  /-- Whether the identity is registered still. -/
  registered : out.2.registry.contains x = stays
  /-- The frames. -/
  frames : out.2.frames = if counts then before else before.clear x

namespace Lifecycle

open Routine

variable {answer : (request : Request) → request.Answer} {e : Engine} {x : InstrumentId}
  {r : Registration}

/-- A removal takes its identity out of the registry. -/
theorem contains_removeEntry (w : e.registry.WellKept) (cause : Option String) (withFrame : Bool) :
  ((removeEntry x cause withFrame).runAlone answer e).2.registry.contains x = false
  := by
  rw [registry_removeEntry, Registry.contains, w.get?_detach, if_pos rfl]
  rfl

/-- A removal with its frame takes out the frame, and any other removal leaves all frames. -/
theorem frames_removeEntry (w : e.registry.WellKept) (found : e.registry.get? x = some r)
    (cause : Option String) (withFrame : Bool) :
  ((removeEntry x cause withFrame).runAlone answer e).2.frames
    = if withFrame then e.frames.clear x else e.frames
  := by
  have detached : (e.registry.detach x).1 = some r.remove := by
    rw [Registry.detach_fst, found, Option.map_some]
  obtain rfl : r.id = x := w.id_eq found
  exact (alike_removeEntry detached cause withFrame).frames

/-- A pass that is admitted counts if the condition holds. The instrument is removed without its
frame if that was its last hit. -/
theorem settles_holds (w : e.registry.WellKept) (found : e.registry.get? r.id = some r)
    (verdict : r.verdict e.frames = .ok true) :
  Engine.Settles ((judge r).runAlone answer e) e.frames r.id true (!r.throttle.isFinished)
  := by
  rw [runAlone_judge_of_holds verdict, finishIfDone]
  cases finished : r.throttle.isFinished with
  | false => exact ⟨rfl, Registry.contains_of_found found, rfl⟩
  | true =>
    rw [if_pos rfl, runAlone_bind, runAlone_modify, runAlone_bind, runAlone_log, runAlone_bind,
      runAlone_pure]
    have marked : (e.registry.modify r.id fun s => { s with isDone := true }).WellKept :=
      w.modify r.id fun _ => ⟨rfl, rfl, rfl, rfl⟩
    have still : (e.registry.modify r.id fun s => { s with isDone := true }).get? r.id
        = some { r with isDone := true } := by
      rw [w.get?_modify, if_pos rfl, found, Option.map_some]
    constructor
    · rfl
    · exact contains_removeEntry marked none false
    · exact frames_removeEntry marked still none false

/-- A pass that is admitted is answered by the condition. -/
theorem settles_judge (w : e.registry.WellKept) (found : e.registry.get? r.id = some r)
    {holds : Bool} (verdict : r.verdict e.frames = .ok holds) :
  Engine.Settles ((judge r).runAlone answer e) e.frames r.id holds
    (!(holds && r.throttle.isFinished))
  := by
  cases holds with
  | true => exact settles_holds w found verdict
  | false =>
    rw [runAlone_judge_of_fails verdict]
    exact ⟨rfl, Registry.contains_of_found found, rfl⟩

/-- An instrument whose condition cannot be evaluated is removed. -/
theorem settles_error (w : e.registry.WellKept) (found : e.registry.get? r.id = some r)
    {err : ConditionError} (verdict : r.verdict e.frames = .error err) :
  Engine.Settles ((judge r).runAlone answer e) e.frames r.id false false
  := by
  rw [Registration.verdict] at verdict
  rw [judge]
  cases predicate : r.predicate with
  | none =>
    rw [predicate] at verdict
    cases verdict
  | some p =>
    rw [predicate] at verdict
    dsimp only at verdict ⊢
    rw [runAlone_bind, runAlone_gets]
    dsimp only
    rw [verdict]
    simp only [runAlone_bind, runAlone_modify, runAlone_log, runAlone_pure]
    constructor
    · rfl
    · apply contains_removeEntry
      exact w
    · refine frames_removeEntry (r := r) ?_ ?_ _ false
      · exact w
      · exact found

/-- A pass that finds an instrument finished removes it. -/
theorem settles_spent (w : e.registry.WellKept) (live : e.registry.getLive? x = some r)
    (spent : r.isFinishedAt e.clock = true) :
  Engine.Settles ((hit x).runAlone answer e) e.frames x false false
  := by
  have found : e.registry.get? x = some r := Registry.get?_of_live live
  rw [runAlone_hit live, if_pos spent]
  exact ⟨rfl, contains_removeEntry w none true, frames_removeEntry w found none true⟩

/-- An instrument stays registered while its throttle is asked. -/
theorem get?_throttled (w : e.registry.WellKept) (found : e.registry.get? x = some r) :
  (e.throttled x r).registry.get? x = some (r.throttled e.clock)
  := by
  rw [Engine.throttled, w.get?_modify, if_pos rfl, found, Option.map_some]
  rfl

/-- A pass that is not let through is dropped. -/
theorem settles_refused (w : e.registry.WellKept) (live : e.registry.getLive? x = some r)
    (unspent : ¬r.isFinishedAt e.clock = true)
    (refused : ¬(r.throttle.allow e.clock.millis).1 = true) :
  Engine.Settles ((hit x).runAlone answer e) e.frames x false true
  := by
  have found : e.registry.get? x = some r := Registry.get?_of_live live
  rw [runAlone_hit live, if_neg unspent, if_neg refused]
  exact ⟨rfl, Registry.contains_of_found (get?_throttled w found), rfl⟩

/-- A pass that is let through is judged. -/
theorem settles_admitted (answer : (request : Request) → request.Answer)
    (w : e.registry.WellKept) (live : e.registry.getLive? x = some r)
    (unspent : ¬r.isFinishedAt e.clock = true)
    (allowed : (r.throttle.allow e.clock.millis).1 = true) :
  (∀ holds, r.verdict e.frames = .ok holds
    → Engine.Settles ((hit x).runAlone answer e) e.frames x holds
      (!(holds && (r.throttled e.clock).throttle.isFinished)))
    ∧ ∀ err, r.verdict e.frames = .error err
      → Engine.Settles ((hit x).runAlone answer e) e.frames x false false
  := by
  obtain rfl : r.id = x := w.live_id live
  have kept : (e.throttled r.id r).registry.WellKept := w.modify r.id fun _ => ⟨rfl, rfl, rfl, rfl⟩
  have still := get?_throttled w (Registry.get?_of_live live)
  rw [runAlone_hit live, if_neg unspent, if_pos allowed]
  constructor
  · intro holds verdict
    exact settles_judge (r := r.throttled e.clock) kept still verdict
  · intro err verdict
    exact settles_error (r := r.throttled e.clock) kept still verdict

end Lifecycle

/-! ### The evaluation of a pass -/

/-- What a pass through the patch point of an identity is answered, and what it does. -/
structure Engine.Evaluates (out : Bool × Engine) (e : Engine) (x : InstrumentId) : Prop where
  /-- The pass counts just if a live instrument admits it and the condition holds in the frame. -/
  answer : out.1 = true ↔ ∃ r, e.registry.getLive? x = some r ∧ r.Admits e.clock
    ∧ r.instrument.judgment (e.frames.get x) = .ok true
  /-- The pass removes the identity just if it is live and the instrument was spent, the pass is its
  last hit, or the pass is admitted and the condition cannot be evaluated. -/
  removed : (e.isEnabled x = true ∧ out.2.isEnabled x = false)
    ↔ ∃ r, e.registry.getLive? x = some r
      ∧ (r.IsSpent e.clock ∨ (out.1 = true ∧ r.IsLast)
        ∨ (r.Admits e.clock ∧ ∃ err, r.instrument.judgment (e.frames.get x) = .error err))
  /-- A hit leaves the frame, also if it is the last one. -/
  kept : out.1 = true → out.2.frames = e.frames
  /-- A pass of a live instrument that does not count leaves no frame. -/
  cleared : ∀ r, e.registry.getLive? x = some r → out.1 = false → out.2.frames.frames.get? x = none
  /-- If the identity is not live, nothing changes but the log. -/
  unknown : e.registry.getLive? x = none → ∃ record, out.2 = e.note (.logged record)
  /-- The other identities stand as before. -/
  others : ∀ y, y ≠ x → out.2.standing y = e.standing y

namespace Engine

variable {answer : (request : Request) → request.Answer} {e : Engine} {x : InstrumentId}
  {r : Registration}

/-- A pass of a live instrument, by the way it goes. -/
theorem Settles.evaluates {out : Bool × Engine} {counts stays : Bool}
    (settles : Settles out e.frames x counts stays) (changes : out.2.ChangesOnly e x)
    (live : e.registry.getLive? x = some r)
    (answer : counts = true
      ↔ r.Admits e.clock ∧ r.instrument.judgment (e.frames.get x) = .ok true)
    (removed : stays = false ↔ r.IsSpent e.clock ∨ (counts = true ∧ r.IsLast)
      ∨ (r.Admits e.clock ∧ ∃ err, r.instrument.judgment (e.frames.get x) = .error err)) :
  Evaluates out e x
  := by
  have only {P : Registration → Prop} : (∃ s, e.registry.getLive? x = some s ∧ P s) ↔ P r := by
    simp [live]
  have enabled : e.isEnabled x = true := Registry.contains_of_found (Registry.get?_of_live live)
  obtain ⟨rfl, rfl, frames⟩ := settles
  constructor
  · rw [only]
    exact answer
  · rw [only, ← removed]
    exact and_iff_right enabled
  · intro counts
    rw [frames, if_pos counts]
  · intro _ _ dropped
    rw [frames, if_neg (by simp [dropped]), FrameStore.clear, Dict.get?_erase, if_pos rfl]
  · intro gone
    rw [live] at gone
    cases gone
  · exact changes.others

/-- A pass under an identity that is not live. -/
theorem evaluates_unknown (gone : e.registry.getLive? x = none) :
  Evaluates (e.perform answer (.hit x)) e x
  := by
  rw [perform, Operation.routine, Lifecycle.runAlone_hit_of_free gone]
  constructor
  · simp [gone]
  · simp [gone, isEnabled, log, note]
  · intro hit
    cases hit
  · intro r live
    rw [gone] at live
    cases live
  · intro _
    exact ⟨_, rfl⟩
  · intro _ _
    rfl

/-- A pass that finds the instrument spent. -/
theorem evaluates_spent (sound : e.Sound) (own : r.Faithful)
    (live : e.registry.getLive? x = some r) (spent : r.isFinishedAt e.clock = true) :
  Evaluates (e.perform answer (.hit x)) e x
  := by
  have changes := sound.perform_changesOnly answer (a := .hit x) rfl
  have finds : r.IsSpent e.clock := (own.isFinishedAt_iff _).mp spent
  have refuses : ¬r.Admits e.clock := fun admits => ((own.admits_iff _).mp admits).1 finds
  apply (Lifecycle.settles_spent sound.wellKept live spent).evaluates changes live
  · simp [refuses]
  · simp [finds]

/-- A pass that the rate window does not let through. -/
theorem evaluates_refused (sound : e.Sound) (own : r.Faithful)
    (live : e.registry.getLive? x = some r) (unspent : ¬r.isFinishedAt e.clock = true)
    (refused : ¬(r.throttle.allow e.clock.millis).1 = true) :
  Evaluates (e.perform answer (.hit x)) e x
  := by
  have changes := sound.perform_changesOnly answer (a := .hit x) rfl
  have lasts : ¬r.IsSpent e.clock := fun finds => unspent ((own.isFinishedAt_iff _).mpr finds)
  have refuses : ¬r.Admits e.clock := fun admits => refused ((own.admits_iff _).mp admits).2
  apply (Lifecycle.settles_refused sound.wellKept live unspent refused).evaluates changes live
  · simp [refuses]
  · simp [refuses, lasts]

/-- A pass that is admitted, by its condition. -/
theorem evaluates_admitted (sound : e.Sound) (own : r.Faithful)
    (live : e.registry.getLive? x = some r) (unspent : ¬r.isFinishedAt e.clock = true)
    (allowed : (r.throttle.allow e.clock.millis).1 = true) :
  Evaluates (e.perform answer (.hit x)) e x
  := by
  obtain rfl : r.id = x := sound.wellKept.live_id live
  have changes := sound.perform_changesOnly answer (a := .hit r.id) rfl
  have lasts : ¬r.IsSpent e.clock := fun finds => unspent ((own.isFinishedAt_iff _).mpr finds)
  have admits : r.Admits e.clock := (own.admits_iff _).mpr ⟨lasts, allowed⟩
  obtain ⟨answered, fails⟩ :=
    Lifecycle.settles_admitted answer sound.wellKept live unspent allowed
  rw [own.verdict_eq] at answered fails
  cases judged : r.instrument.judgment (e.frames.get r.id) with
  | ok holds =>
    apply (answered holds judged).evaluates changes live
    · simp [admits, judged]
    · simp [lasts, judged, ← own.isLast_iff admits]
  | error err =>
    apply (fails err judged).evaluates changes live
    · simp [judged]
    · simp [admits, judged]

/-- Every pass is evaluated. -/
theorem evaluates_hit (sound : e.Sound) (faithful : e.registry.Faithful) :
  Evaluates (e.perform answer (.hit x)) e x
  := by
  cases live : e.registry.getLive? x with
  | none => exact evaluates_unknown live
  | some r =>
    have own := faithful.faithful x r (Registry.get?_of_live live)
    by_cases spent : r.isFinishedAt e.clock = true
    · exact evaluates_spent sound own live spent
    · by_cases allowed : (r.throttle.allow e.clock.millis).1 = true
      · exact evaluates_admitted sound own live spent allowed
      · exact evaluates_refused sound own live spent allowed

end Engine

/-- A pass through a patch point at any time, whatever has happened before, counts just if the
instrument is live, its limits admit the pass and its condition holds in its frame. The instrument is
removed just if it was spent, this was its last hit, or its condition could not be evaluated. A hit
leaves the frame, a pass that does not count clears it, and nothing else is touched. -/
theorem hits_evaluated {c : Conduct} {settings : Settings} {clock : Instant} {s : Session}
    (run : c.Run (.idle (.new settings clock)) s) (answer : (request : Request) → request.Answer)
    (x : InstrumentId) (now : Instant) :
  Engine.Evaluates ({ s.engine with clock := now }.perform answer (.hit x))
    { s.engine with clock := now } x
  := by
  have sound : s.engine.Sound := run.since.succeeds.sound
  have later : ({ s.engine with clock := now } : Engine).Sound :=
    ⟨sound.wellKept⟩
  exact Engine.evaluates_hit later run.faithful

/-- The only hit that a limit of one allows counts and removes its breakpoint, but leaves the
frame. -/
theorem hits_evaluated_last :
  ∃ s, Conduct.sequential.Run (.idle (.new .default default)) s
    ∧ (s.engine.perform (Request.answerIn "U") (.hit "a")).1 = true
    ∧ s.engine.isEnabled "a" = true
    ∧ (s.engine.perform (Request.answerIn "U") (.hit "a")).2.isEnabled "a" = false
    ∧ ((s.engine.perform (Request.answerIn "U") (.hit "a")).2.frames.frames.get? "a").isSome
  := by
  have installs : Conduct.sequential.AllowsAll (.idle (.new .default default))
      (installLimited 1) := ⟨⟨rfl, nofun⟩, trivial, trivial, trivial⟩
  have run := installs.run.tail (.drift _ default (Pass.capturing true).frames none)
  obtain ⟨answer, removed, kept, -, -, -⟩ :=
    hits_evaluated run (Request.answerIn "U") "a" default
  have installed : ∃ r, ((Session.idle (.new .default default)).play
        (installLimited 1)).engine.registry.getLive? "a" = some r
      ∧ r.instrument = .limited 1 ∧ r.throttle.hits = 0 := ⟨_, rfl, rfl, rfl⟩
  obtain ⟨r, live, instrument, hits⟩ := installed
  have admits : r.Admits default := by
    constructor
    · intro limit limited
      rw [instrument] at limited
      cases limited
      rw [hits]
      decide
    · intro t expires
      rw [instrument] at expires
      cases expires
    · intro rate windowed
      rw [instrument] at windowed
      cases windowed
  have isLast : r.IsLast := by
    rw [Registration.IsLast, instrument, hits]
    exact ⟨1, rfl, rfl⟩
  have holds : r.instrument.judgment ((Pass.capturing true).frames.get "a") = .ok true := by
    rw [instrument]
    rfl
  have counts := answer.mpr ⟨r, live, admits, holds⟩
  have last := removed.mpr ⟨r, live, .inr (.inl ⟨counts, isLast⟩)⟩
  refine ⟨_, run, counts, last.1, last.2, ?_⟩
  rw [kept counts]
  rfl

end Instrumentation
