import Instrumentation.Proofs.Alone

/-!
# Hit limits

A pass through a patch point is admitted before its condition is evaluated, and it is the admission
that a hit limit counts. So a limit is used up by all passes, and not by those only on which the
condition holds. An instrument whose last admitted pass fails its condition stays registered until
the next pass, which is refused and removes it.

The two ways of counting answer alike just as long as no pass comes after a condition that failed
within the limit and makes them differ.
-/

namespace Instrumentation

/-! ### What passes are answered -/

/-- The answers to passes whose conditions hold or fail, each with whether the instrument is
registered afterwards. So much is left of the limit, and `counts` says whether a pass uses it. -/
def hitAnswers (counts : Bool → Bool) : Nat → List Bool → List (Bool × Bool)
  | _, [] => []
  | 0, _ :: conds => (false, false) :: hitAnswers counts 0 conds
  | n + 1, holds :: conds =>
    (holds, !(holds && n == 0)) :: hitAnswers counts (if counts holds then n else n + 1) conds

/-- Every pass uses up the limit. -/
def everyPass : Bool → Bool := fun _ => true

/-- A pass uses up the limit if its condition holds. -/
def successfulPass : Bool → Bool := fun holds => holds

section Counting

variable {n : Nat} {conds : List Bool}

/-- When the limit is used up it does not matter what counts. -/
theorem hitAnswers_zero (counts counts' : Bool → Bool) (conds : List Bool) :
  hitAnswers counts 0 conds = hitAnswers counts' 0 conds
  := by
  induction conds with
  | nil => rfl
  | cons holds conds ih => simp only [hitAnswers, ih]

/-- After a condition that failed, more is left if only successful passes count. That is not seen
unless a pass comes after the limit is used up, or reaches it. -/
theorem hitAnswers_behind (n d : Nat) (conds : List Bool) :
  hitAnswers everyPass n conds = hitAnswers successfulPass (n + d + 1) conds
    ↔ (false :: conds).drop n <+: [false]
  := by
  -- every further condition that fails increases the lead, so the induction is on all leads
  induction conds generalizing n d with
  | nil =>
    cases n with
    | zero => simp [hitAnswers]
    | succ n => simp [hitAnswers]
  | cons holds conds ih =>
    cases n with
    | zero => cases holds <;> simp [hitAnswers]
    | succ n =>
      have left : n + 1 + d + 1 = n + d + 1 + 1 := by omega
      rw [left]
      cases holds with
      | false =>
        have further : n + d + 1 + 1 = n + (d + 1) + 1 := by omega
        simp only [hitAnswers, everyPass, successfulPass, if_true, Bool.false_eq_true, if_false,
          Bool.false_and, List.cons.injEq, true_and, List.drop_succ_cons]
        rw [further]
        apply ih
      | true =>
        cases n with
        | zero => simp [hitAnswers]
        | succ n =>
          simp only [hitAnswers, everyPass, successfulPass, if_true, List.drop_succ_cons] at ih ⊢
          simpa using ih (n + 1) d

/-- All passes and the successful ones are counted alike if no condition fails within the limit, or
if the one that does is the last of the passes that reach the limit. -/
theorem hitAnswers_eq_iff (n : Nat) (conds : List Bool) :
  hitAnswers everyPass n conds = hitAnswers successfulPass n conds
    ↔ (∀ holds ∈ conds.take n, holds = true) ∨ conds.drop (n - 1) <+: [false]
  := by
  induction conds generalizing n with
  | nil => simp [hitAnswers]
  | cons holds conds ih =>
    cases n with
    | zero => simp [hitAnswers_zero everyPass successfulPass]
    | succ n =>
      cases holds with
      | false =>
        have behind := hitAnswers_behind n 0 conds
        simpa [hitAnswers, everyPass, successfulPass] using behind
      | true =>
        have rest := ih n
        cases n with
        | zero => simpa [hitAnswers, everyPass, successfulPass] using rest
        | succ n => simpa [hitAnswers, everyPass, successfulPass] using rest

end Counting

/-! ### What is left of a limit -/

namespace Registration

variable {r : Registration} {n : Nat}

/-- The truth of the condition in the frame that was captured for the instrument. -/
def verdict (r : Registration) (frames : FrameStore) : Except ConditionError Bool :=
  match r.predicate with
  | none => .ok true
  | some p => p.evaluate (frames.get r.id)

/-- No pass was counted since the instrument was registered. -/
structure IsUnhit (r : Registration) : Prop where
  /-- The throttle is as it was at first. -/
  throttle : r.throttle = .new r.instrument.hitLimit r.instrument.rate
  /-- The last hit was not seen. -/
  undone : r.isDone = false

/-- The registration after a pass that was counted. -/
def count (r : Registration) : Registration :=
  { r with throttle := { r.throttle with hits := r.throttle.hits + 1 } }

/-- So much is left of the hit limit, and nothing else limits the hits. -/
structure Leaves (r : Registration) (n : Nat) : Prop where
  /-- The limit exceeds the hits by so much. -/
  limit : r.throttle.hitLimit = some (r.throttle.hits + n)
  /-- There is no rate window. -/
  window : r.throttle.window = none
  /-- There is no expiry. -/
  lasting : r.instrument.expiresAt = none
  /-- The last hit was not seen. -/
  undone : r.isDone = false

/-- All of the limit is left before the first pass. -/
theorem IsUnhit.leaves {limit : UInt32} (h : r.IsUnhit)
    (limited : r.instrument.hitLimit = some limit)
    (unwindowed : r.instrument.rate = none) (lasting : r.instrument.expiresAt = none) :
  r.Leaves limit.toNat
  := by
  constructor
  · simp [h.throttle, Throttle.new, limited]
  · simp [h.throttle, Throttle.new, unwindowed]
  · exact lasting
  · exact h.undone

namespace Leaves

/-- The throttle is finished when nothing is left. -/
theorem isFinished (h : r.Leaves n) :
  r.throttle.isFinished = (n == 0)
  := by
  rw [Throttle.isFinished, h.limit]
  cases n with
  | zero => simp
  | succ n => simp

/-- A pass finds the instrument finished when nothing is left. -/
theorem isFinishedAt (h : r.Leaves n) (now : Instant) :
  r.isFinishedAt now = (n == 0)
  := by
  simp [Registration.isFinishedAt, h.isFinished, h.undone, Instrument.isExpiredAt, h.lasting]

/-- A pass is admitted and counted while something is left. -/
theorem allow (h : r.Leaves (n + 1)) (now : Int) :
  r.throttle.allow now = (true, r.count.throttle)
  := by
  have unfinished : ¬r.throttle.isFinished = true := by simp [h.isFinished]
  rw [Throttle.allow, if_neg unfinished]
  split
  next => rfl
  next w windowed =>
    rw [h.window] at windowed
    cases windowed

/-- A pass that is counted leaves one less. -/
theorem count (h : r.Leaves (n + 1)) :
  r.count.Leaves n
  := by
  constructor
  · rw [Registration.count, h.limit]
    congr 1
    dsimp only
    omega
  · exact h.window
  · exact h.lasting
  · exact h.undone

end Leaves

end Registration

/-! ### Passes -/

/-- A pass through a patch point. -/
structure Pass where
  /-- The time. -/
  clock : Instant
  /-- The frames that are captured by then. -/
  frames : FrameStore
  /-- What the transform engine would answer. -/
  answer : (request : Request) → request.Answer

namespace Engine

/-- Whether a pass counts as a hit, and the engine after it. -/
def pass (e : Engine) (x : InstrumentId) (p : Pass) : Bool × Engine :=
  (Lifecycle.hit x).runAlone p.answer { e with clock := p.clock, frames := p.frames }

/-- The answers to passes one after another, each with whether the instrument is registered
afterwards. -/
def passes (e : Engine) (x : InstrumentId) : List Pass → List (Bool × Bool)
  | [] => []
  | p :: rest => ((e.pass x p).1, (e.pass x p).2.isEnabled x) :: (e.pass x p).2.passes x rest

end Engine

/-- The registration once its throttle was asked to let a pass through. -/
def Registration.throttled (r : Registration) (now : Instant) : Registration :=
  { r with throttle := (r.throttle.allow now.millis).2 }

/-- The engine once the throttle of an identity was asked to let a pass through. -/
def Engine.throttled (e : Engine) (x : InstrumentId) (r : Registration) : Engine :=
  { e with
    registry := e.registry.modify x fun s =>
      { s with throttle := (r.throttled e.clock).throttle } }

namespace Lifecycle

open Routine

variable {answer : (request : Request) → request.Answer}

/-- A pass under an identity that is not live is only logged. -/
theorem runAlone_hit_of_free {e : Engine} {x : InstrumentId} (gone : e.registry.getLive? x = none) :
  (hit x).runAlone answer e
    = (false, e.log .trace "hit for unknown instrument" [("instrument_id", x)])
  := by
  rw [hit, runAlone_bind, runAlone_gets]
  dsimp only
  rw [gone]
  rfl

/-- A pass of a live instrument removes what is finished. What the throttle lets through is judged,
and what it does not is dropped with its frame. -/
theorem runAlone_hit {e : Engine} {x : InstrumentId} {r : Registration}
    (live : e.registry.getLive? x = some r) :
  (hit x).runAlone answer e
    = if r.isFinishedAt e.clock then
        (false, ((removeEntry x none true).runAlone answer e).2)
      else if (r.throttle.allow e.clock.millis).1 then
        (judge (r.throttled e.clock)).runAlone answer (e.throttled x r)
      else
        (false, { (e.throttled x r).log .trace "hit throttled" [("instrument_id", x)] with
          frames := e.frames.clear x })
  := by
  rw [hit, runAlone_bind, runAlone_gets]
  dsimp only
  rw [live]
  dsimp only
  rw [runAlone_bind, runAlone_gets]
  dsimp only
  split
  · rw [runAlone_bind, runAlone_pure]
  · rw [runAlone_bind, runAlone_modify]
    dsimp only
    split
    · rfl
    · rfl

/-- An instrument whose limit is used up is taken out of the registry. -/
theorem registry_finishIfDone (r : Registration) (e : Engine) :
  ((finishIfDone r).runAlone answer e).2.registry
    = if r.throttle.isFinished then
        ((e.registry.modify r.id fun r => { r with isDone := true }).detach r.id).2
      else e.registry
  := by
  rw [finishIfDone]
  split
  · simp only [runAlone_bind, runAlone_modify, runAlone_log, runAlone_pure]
    rw [registry_removeEntry]
    rfl
  · rfl

/-- A pass that was admitted counts if the condition holds. -/
theorem runAlone_judge_of_holds {r : Registration} {e : Engine}
    (verdict : r.verdict e.frames = .ok true) :
  (judge r).runAlone answer e = (true, ((finishIfDone r).runAlone answer e).2)
  := by
  rw [Registration.verdict] at verdict
  rw [judge]
  cases predicate : r.predicate with
  | none => rw [runAlone_bind, runAlone_pure]
  | some p =>
    rw [predicate] at verdict
    dsimp only at verdict ⊢
    rw [runAlone_bind, runAlone_gets]
    dsimp only
    rw [verdict]
    dsimp only
    rw [runAlone_bind, runAlone_pure]

/-- A pass that was admitted is dropped with its frame if the condition does not hold. -/
theorem runAlone_judge_of_fails {r : Registration} {e : Engine}
    (verdict : r.verdict e.frames = .ok false) :
  (judge r).runAlone answer e
    = (false, { e.log .trace "condition false" [("instrument_id", r.id)] with
        frames := e.frames.clear r.id })
  := by
  rw [Registration.verdict] at verdict
  rw [judge]
  cases predicate : r.predicate with
  | none =>
    rw [predicate] at verdict
    cases verdict
  | some p =>
    rw [predicate] at verdict
    dsimp only at verdict ⊢
    rw [runAlone_bind, runAlone_gets]
    dsimp only
    rw [verdict]
    rfl

/-- A pass that was admitted is answered by the condition. -/
theorem runAlone_judge {r : Registration} {e : Engine} {holds : Bool}
    (verdict : r.verdict e.frames = .ok holds) :
  ((judge r).runAlone answer e).1 = holds
    ∧ ((judge r).runAlone answer e).2.registry
      = if holds && r.throttle.isFinished then
          ((e.registry.modify r.id fun r => { r with isDone := true }).detach r.id).2
        else e.registry
  := by
  cases holds with
  | true =>
    rw [runAlone_judge_of_holds verdict, registry_finishIfDone, Bool.true_and]
    exact ⟨rfl, rfl⟩
  | false =>
    rw [runAlone_judge_of_fails verdict]
    exact ⟨rfl, rfl⟩

end Lifecycle

namespace Engine

open Routine

variable {e : Engine} {x : InstrumentId} {r : Registration} {p : Pass} {n : Nat}

/-- A pass for an identity that is not registered is refused. -/
theorem pass_of_free (free : e.registry.get? x = none) :
  (e.pass x p).1 = false ∧ (e.pass x p).2.registry = e.registry
  := by
  have gone : ({ e with clock := p.clock, frames := p.frames } : Engine).registry.getLive? x = none :=
    (Registry.get?_eq_none_iff.mp free).1
  rw [pass, Lifecycle.runAlone_hit_of_free gone]
  exact ⟨rfl, rfl⟩

/-- A pass that finds nothing left is refused and removes the instrument. -/
theorem pass_of_finished (live : e.registry.getLive? x = some r) (leaves : r.Leaves 0) :
  (e.pass x p).1 = false ∧ (e.pass x p).2.registry = (e.registry.detach x).2
  := by
  have finished : r.isFinishedAt p.clock = true := leaves.isFinishedAt p.clock
  have live : ({ e with clock := p.clock, frames := p.frames } : Engine).registry.getLive? x
      = some r := live
  rw [pass, Lifecycle.runAlone_hit live, if_pos finished]
  exact ⟨rfl, Lifecycle.registry_removeEntry _ _ _⟩

/-- The engine that has counted a pass. -/
def count (e : Engine) (r : Registration) (p : Pass) : Engine :=
  { e with
    clock := p.clock, frames := p.frames
    registry := e.registry.modify r.id fun s => { s with throttle := r.count.throttle } }

/-- A pass that is admitted is counted before its condition is evaluated. -/
theorem pass_eq_judge (live : e.registry.getLive? r.id = some r) (leaves : r.Leaves (n + 1)) :
  e.pass r.id p = (Lifecycle.judge r.count).runAlone p.answer (e.count r p)
  := by
  have unfinished : ¬r.isFinishedAt p.clock = true := by simp [leaves.isFinishedAt]
  have live : ({ e with clock := p.clock, frames := p.frames } : Engine).registry.getLive? r.id
      = some r := live
  rw [pass, Lifecycle.runAlone_hit live, if_neg unfinished, throttled, Registration.throttled,
    leaves.allow]
  rfl

/-- A pass that is admitted is answered by its condition. If the condition holds and nothing is left
then, the instrument is removed. -/
theorem pass_of_left (live : e.registry.getLive? r.id = some r) (leaves : r.Leaves (n + 1))
    {holds : Bool} (verdict : r.verdict p.frames = .ok holds) :
  (e.pass r.id p).1 = holds
    ∧ (e.pass r.id p).2.registry
      = if holds && n == 0 then
          (((e.count r p).registry.modify r.id fun s => { s with isDone := true }).detach r.id).2
        else (e.count r p).registry
  := by
  have finished : r.count.throttle.isFinished = (n == 0) := leaves.count.isFinished
  have counted : r.count.verdict (e.count r p).frames = .ok holds := verdict
  rw [pass_eq_judge live leaves, ← finished]
  exact Lifecycle.runAlone_judge counted

end Engine

/-! ### Passes under a limit -/

/-- So much of the limit is left for an identity with a given condition. Nothing is left for one
that is not registered. -/
inductive Registry.Leaves (g : Registry) (x : InstrumentId)
    (verdict : FrameStore → Except ConditionError Bool) : Nat → Prop where
  /-- The identity is not registered. -/
  | free (h : g.get? x = none) : Leaves g x verdict 0
  /-- The identity is live. -/
  | live {r : Registration} {n : Nat} (h : g.getLive? x = some r) (leaves : r.Leaves n)
      (same : r.verdict = verdict) : Leaves g x verdict n

/-- An identity under which nothing is registered is not enabled. -/
theorem Registry.contains_of_free {g : Registry} {x : InstrumentId} (free : g.get? x = none) :
  g.contains x = false
  := by
  rw [contains, free]
  rfl

/-- A registered identity is enabled. -/
theorem Registry.contains_of_found {g : Registry} {x : InstrumentId} {r : Registration}
    (found : g.get? x = some r) :
  g.contains x = true
  := by
  rw [contains, found]
  rfl

namespace Registry.Leaves

variable {e : Engine} {x : InstrumentId} {verdict : FrameStore → Except ConditionError Bool}
  {p : Pass} {n : Nat} {holds : Bool}

/-- A pass when nothing is left is refused, and the identity is not registered afterwards. -/
theorem pass_zero (h : e.registry.Leaves x verdict 0) (w : e.registry.WellKept) :
  (e.pass x p).1 = false ∧ (e.pass x p).2.isEnabled x = false
    ∧ (e.pass x p).2.registry.Leaves x verdict 0 ∧ (e.pass x p).2.registry.WellKept
  := by
  cases h with
  | free free =>
    obtain ⟨refused, registry⟩ := e.pass_of_free free
    rw [Engine.isEnabled, registry]
    exact ⟨refused, Registry.contains_of_free free, .free free, w⟩
  | live live leaves same =>
    obtain ⟨refused, registry⟩ := e.pass_of_finished live leaves
    have free : (e.registry.detach x).2.get? x = none := by rw [w.get?_detach, if_pos rfl]
    rw [Engine.isEnabled, registry]
    exact ⟨refused, Registry.contains_of_free free, .free free, w.detach x⟩

/-- A pass when something is left is answered by its condition, and leaves one less. The identity
is registered afterwards unless that was its last hit. -/
theorem pass_succ (h : e.registry.Leaves x verdict (n + 1)) (w : e.registry.WellKept)
    (evaluates : verdict p.frames = .ok holds) :
  (e.pass x p).1 = holds ∧ (e.pass x p).2.isEnabled x = !(holds && n == 0)
    ∧ (e.pass x p).2.registry.Leaves x verdict n ∧ (e.pass x p).2.registry.WellKept
  := by
  cases h with
  | @live r _ live leaves same =>
    subst same
    obtain rfl : r.id = x := w.live_id live
    obtain ⟨answered, registry⟩ := e.pass_of_left live leaves evaluates
    have counts : (e.count r p).registry.WellKept :=
      w.modify r.id fun _ => ⟨rfl, rfl, rfl, rfl⟩
    have still : (e.count r p).registry.getLive? r.id = some r.count := by
      change ((e.registry.modify r.id _).live.get? r.id) = _
      rw [Registry.live_modify, if_pos rfl]
      rw [Registry.getLive?] at live
      rw [live]
      rfl
    rw [Engine.isEnabled, registry]
    use answered
    cases last : holds && n == 0 with
    | true =>
      obtain rfl : n = 0 := by simpa using (Bool.and_eq_true_iff.mp last).2
      have done := counts.modify r.id (f := fun s => { s with isDone := true })
        fun _ => ⟨rfl, rfl, rfl, rfl⟩
      have free : (((e.count r p).registry.modify r.id fun s => { s with isDone := true }).detach
          r.id).2.get? r.id = none := by rw [done.get?_detach, if_pos rfl]
      rw [if_pos rfl]
      exact ⟨Registry.contains_of_free free, .free free, done.detach r.id⟩
    | false =>
      rw [if_neg (by decide)]
      exact ⟨Registry.contains_of_found (Registry.get?_of_live still), .live still leaves.count rfl, counts⟩

/-- Passes are answered as if every pass used up the limit. -/
theorem passes (h : e.registry.Leaves x verdict n) (w : e.registry.WellKept) (passes : List Pass)
    (conds : List Bool) (evaluates : passes.map (fun p => verdict p.frames) = conds.map .ok) :
  e.passes x passes = hitAnswers everyPass n conds
  := by
  induction passes generalizing e n conds with
  | nil =>
    obtain rfl := List.map_eq_nil_iff.mp evaluates.symm
    cases n <;> rfl
  | cons p rest ih =>
    obtain ⟨holds, conds, rfl, evaluatesNow, evaluatesRest⟩ :=
      List.map_eq_cons_iff.mp evaluates.symm
    cases n with
    | zero =>
      obtain ⟨refused, gone, leaves, kept⟩ := h.pass_zero (p := p) w
      rw [Engine.passes, refused, gone, ih leaves kept conds evaluatesRest.symm]
      rfl
    | succ n =>
      obtain ⟨answered, enabled, leaves, kept⟩ := h.pass_succ w evaluatesNow.symm
      rw [Engine.passes, answered, enabled, ih leaves kept conds evaluatesRest.symm]
      rfl

end Registry.Leaves

/-- The passes of a live instrument that nothing but a hit limit limits are answered as if every
pass used up the limit. They are answered as if successful passes only did just when no condition
fails within the limit, or only on the last pass of all. -/
theorem successful_hits_counted_iff {c : Conduct} {settings : Settings} {clock : Instant}
    {s : Session} (run : c.Run (.idle (.new settings clock)) s) {x : InstrumentId}
    {r : Registration} {limit : UInt32} (live : s.engine.registry.getLive? x = some r)
    (unhit : r.IsUnhit) (limited : r.instrument.hitLimit = some limit)
    (unwindowed : r.instrument.rate = none) (lasting : r.instrument.expiresAt = none)
    (passes : List Pass) (conds : List Bool)
    (evaluates : passes.map (fun p => r.verdict p.frames) = conds.map .ok) :
  s.engine.passes x passes = hitAnswers everyPass limit.toNat conds
    ∧ (s.engine.passes x passes = hitAnswers successfulPass limit.toNat conds
      ↔ (∀ holds ∈ conds.take limit.toNat, holds = true)
        ∨ conds.drop (limit.toNat - 1) <+: [false])
  := by
  have leaves : s.engine.registry.Leaves x r.verdict limit.toNat :=
    .live live (unhit.leaves limited unwindowed lasting) rfl
  have answers := leaves.passes run.coherent.wellKept passes conds evaluates
  use answers
  rw [answers]
  apply hitAnswers_eq_iff

/-- A breakpoint with a condition and a hit limit. -/
def Instrument.limited (limit : UInt32) : Instrument :=
  { breakpointIn "U" with condition := some "x", hitLimit := some limit }

/-- A pass on which that condition holds or fails. -/
def Pass.capturing (holds : Bool) : Pass where
  clock := default
  frames := FrameStore.empty.put "a" .locals "x" (.bool holds)
  answer
    | .resolve _ => true
    | .patch _ _ => .ok ()
    | .unpatch _ _ => .ok ()

/-- The actions by which a limited breakpoint is installed. -/
def installLimited (limit : UInt32) : List Action :=
  [.start (.install (.limited limit)), .reply true, .reply true]

/-- With a limit of two, the first two of three successful passes count. -/
theorem successful_hits_counted_iff_twice :
  ∃ s r, Conduct.reentrant.Run (.idle (.new .default default)) s
    ∧ s.engine.registry.getLive? "a" = some r ∧ r.IsUnhit ∧ r.instrument.hitLimit = some 2
    ∧ r.instrument.rate = none ∧ r.instrument.expiresAt = none
    ∧ [true, true, true].map (fun holds => r.verdict (Pass.capturing holds).frames)
      = [true, true, true].map .ok
    ∧ s.engine.passes "a" ([true, true, true].map Pass.capturing)
      = [(true, true), (true, false), (false, false)]
  := by
  have installs : Conduct.reentrant.AllowsAll (.idle (.new .default default)) (installLimited 2) :=
    ⟨nofun, trivial, trivial, trivial⟩
  obtain ⟨-, counts⟩ := successful_hits_counted_iff installs.run (x := "a") rfl ⟨rfl, rfl⟩ rfl rfl
    rfl ([true, true, true].map Pass.capturing) [true, true, true] rfl
  have answers := counts.mpr (.inl (by decide))
  exact ⟨_, _, installs.run, rfl, ⟨rfl, rfl⟩, rfl, rfl, rfl, rfl, answers⟩

/-- A condition that fails uses up a limit of one. The next pass, on which it holds, is refused. -/
theorem not_successful_hits_counted :
  ¬∀ s x r limit passes conds, Conduct.reentrant.Run (.idle (.new .default default)) s
    → s.engine.registry.getLive? x = some r → r.IsUnhit → r.instrument.hitLimit = some limit
    → 1 ≤ limit → r.instrument.rate = none → r.instrument.expiresAt = none
    → passes.map (fun p => r.verdict p.frames) = conds.map .ok
    → s.engine.passes x passes = hitAnswers successfulPass limit.toNat conds
  := by
  intro all
  have installs : Conduct.reentrant.AllowsAll (.idle (.new .default default)) (installLimited 1) :=
    ⟨nofun, trivial, trivial, trivial⟩
  have counted := all _ "a" _ 1 ([false, true].map Pass.capturing) [false, true] installs.run rfl
    ⟨rfl, rfl⟩ rfl (by decide) rfl rfl rfl
  have leaves : Registry.Leaves ((Session.idle (.new .default default)).play
      (installLimited 1)).engine.registry "a" _ (1 : UInt32).toNat :=
    .live rfl (Registration.IsUnhit.leaves ⟨rfl, rfl⟩ rfl rfl rfl) rfl
  have answers := leaves.passes installs.run.coherent.wellKept
    ([false, true].map Pass.capturing) [false, true] rfl
  have alike := answers.symm.trans counted
  revert alike
  decide

end Instrumentation
