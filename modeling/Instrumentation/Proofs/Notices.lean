import Instrumentation.Proofs.Coherence
import Instrumentation.Proofs.Reply

/-!
# Events and live instruments

The control plane follows the live instruments by the events: an identity is live if the last
event about it says that its instrument was applied. While operations run inside each other this
may be ahead of the truth: the patch of an instrument that was taken out is taken back first, and
the event comes after that. When no operation waits the events tell the truth, as long as an
instrument is confirmed under its own name, and no instrument of that identity is live by the time
a removal is published.
-/

namespace Instrumentation

/-- The event of an entry that is about an identity. -/
def Entry.notice? (x : InstrumentId) : Entry → Option Event
  | .published _ event => if event.instrument?.map Instrument.id = some x then some event else none
  | _ => none

/-- The last event about an identity. -/
def lastNotice (x : InstrumentId) (history : List Entry) : Option Event :=
  (history.filterMap (Entry.notice? x)).getLast?

section LastNotice

variable {x : InstrumentId} {history : List Entry}

/-- The last event is the last one of the later entries, if there is one. -/
theorem lastNotice_append (entries : List Entry) :
  lastNotice x (history ++ entries) = (lastNotice x entries).or (lastNotice x history)
  := by
  rw [lastNotice, lastNotice, lastNotice, List.filterMap_append, List.getLast?_append]

/-- A call or an answer is no event. -/
@[simp]
theorem lastNotice_cons_asked (serial : Nat) (request : Request) (entries : List Entry) :
  lastNotice x (.asked serial request :: entries) = lastNotice x entries
  := rfl

/-- An answer is no event. -/
@[simp]
theorem lastNotice_cons_answered (serial : Nat) (request : Request) (answer : request.Answer)
    (entries : List Entry) :
  lastNotice x (.answered serial request answer :: entries) = lastNotice x entries
  := rfl

/-- An event by itself. -/
@[simp]
theorem lastNotice_published (serial : Option Nat) (event : Event) :
  lastNotice x [.published serial event]
    = if event.instrument?.map Instrument.id = some x then some event else none
  := by
  by_cases h : event.instrument?.map Instrument.id = some x
  · simp only [lastNotice, List.filterMap_cons, Entry.notice?, if_pos h]
    rfl
  · simp only [lastNotice, List.filterMap_cons, Entry.notice?, if_neg h]
    rfl

/-- No event. -/
@[simp]
theorem lastNotice_nil :
  lastNotice x [] = none
  := rfl

/-- An install that fails is the last event about its identity, if it is one. -/
theorem lastNotice_failure (v : View) (r : Registration) (err : InstrumentError) (t : Instant) :
  lastNotice x (v.failure r err t)
    = if v.registry.contains r.id ∧ r.id = x then
        some (.removed r.instrument (some err.message) t)
      else none
  := by
  rw [View.failure]
  split
  next h =>
    rw [lastNotice_published]
    change (if some r.id = some x then _ else _) = _
    simp [h]
  next h => simp [h]

end LastNotice

/-! ### The truth of the events -/

/-- The call belongs to the removal of a live instrument of an identity. -/
def Call.Withdraws (x : InstrumentId) : Call → Prop
  | withdraw r => r.id = x
  | _ => False

/-- The answer finds the identity of its call in such hands that the event which follows it is
true. An install that is confirmed finds no applying instrument but its own; a removal that is
over finds no live instrument. -/
def View.Tells (v : View) : (call : Call) → call.request.Answer → Prop
  | .patch r, .ok _ => ∀ s, v.registry.getApplying? r.id = some s → s.instrument = r.instrument
  | .withdraw r, _ => v.registry.getLive? r.id = none
  | _, _ => True

/-- Operations run inside each other to any depth, and every answer is followed by the truth. -/
def Conduct.telling : Conduct := Conduct.reentrant.answering View.Tells

/-- The last event about a live instrument is its own, and an event that says otherwise will be
followed by another. -/
structure Position.Truthful (p : Position) : Prop where
  /-- A live instrument was announced. -/
  announced : ∀ {x r}, p.view.registry.live.get? x = some r
    → ∃ t, lastNotice x p.view.history = some (.applied r.instrument t)
  /-- What was announced is live, or its removal is under way. -/
  accounted : ∀ {x i t}, lastNotice x p.view.history = some (.applied i t)
    → (∃ r, p.view.registry.live.get? x = some r) ∨ ∃ call ∈ p.calls, call.Withdraws x

namespace Position.Truthful

variable {p q : Position}

/-- The events stay true where nothing changes but for calls that belong to no removal. -/
theorem frame (h : p.Truthful)
    (live : ∀ x, (q.view.registry.live.get? x).map Registration.instrument
      = (p.view.registry.live.get? x).map Registration.instrument)
    (same : ∀ x, lastNotice x q.view.history = lastNotice x p.view.history)
    (waits : ∀ call ∈ p.calls, ∀ x, call.Withdraws x → call ∈ q.calls) :
  q.Truthful
  := by
  constructor
  · intro x r before
    rw [same]
    have now := live x
    rw [before] at now
    obtain ⟨s, was, instrument⟩ := Option.map_eq_some_iff.mp now.symm
    rw [← instrument]
    apply h.announced was
  · intro x i t last
    rw [same] at last
    rcases h.accounted last with ⟨r, was⟩ | ⟨call, mem, withdraws⟩
    · left
      have now := live x
      rw [was] at now
      obtain ⟨s, is, -⟩ := Option.map_eq_some_iff.mp now
      exact ⟨s, is⟩
    · exact .inr ⟨call, waits call mem x withdraws, withdraws⟩

/-- The events stay true when an identity that is not live is said to have been removed. -/
theorem announce (h : p.Truthful) (x : InstrumentId)
    (gone : q.view.registry.live.get? x = none)
    (live : ∀ y, y ≠ x → q.view.registry.live.get? y = p.view.registry.live.get? y)
    (said : ∀ i t, lastNotice x q.view.history ≠ some (.applied i t))
    (same : ∀ y, y ≠ x → lastNotice y q.view.history = lastNotice y p.view.history)
    (waits : ∀ call ∈ p.calls, ∀ y, y ≠ x → call.Withdraws y → call ∈ q.calls) :
  q.Truthful
  := by
  constructor
  · intro y r now
    by_cases hy : y = x
    · rw [hy, gone] at now
      cases now
    · rw [live y hy] at now
      rw [same y hy]
      apply h.announced now
  · intro y i t last
    by_cases hy : y = x
    · subst hy
      exact absurd last (said i t)
    · rw [same y hy] at last
      rw [live y hy]
      rcases h.accounted last with was | ⟨call, mem, withdraws⟩
      · exact .inl was
      · exact .inr ⟨call, waits call mem y hy withdraws, withdraws⟩

/-- The events stay true when an install fails. -/
theorem abandon (h : p.Truthful) (r : Registration) (err : InstrumentError) (t : Instant)
    (registry : q.view.registry = (p.view.registry.detach r.id).2)
    (last : ∀ x, lastNotice x q.view.history
      = (lastNotice x (p.view.failure r err t)).or (lastNotice x p.view.history))
    (waits : ∀ call ∈ p.calls, ∀ x, call.Withdraws x → call ∈ q.calls) :
  q.Truthful
  := by
  by_cases found : p.view.registry.contains r.id = true
  · apply h.announce r.id
    · simp [registry, Registry.live_detach]
    · intro y hy
      simp [registry, Registry.live_detach, hy]
    · intro i t'
      simp [last, lastNotice_failure, found]
    · intro y hy
      simp [last, lastNotice_failure, hy.symm]
    · intro call mem y hy withdraws
      apply waits call mem y withdraws
  · have free : p.view.registry.get? r.id = none := by
      simpa [Registry.contains] using found
    apply h.frame
    · intro y
      rw [registry, Registry.live_detach]
      split
      next eq => rw [eq, (Registry.get?_eq_none_iff.mp free).1]
      next => rfl
    · intro y
      simp [last, lastNotice_failure, found]
    · exact waits

variable {v : View} {calls : List Call} {r s : Registration}

/-- A hit is counted. -/
theorem touch (h : Position.Truthful ⟨v, calls⟩) (x : InstrumentId)
    {f : Registration → Registration} (alike : ∀ r, (f r).Alike r) :
  Position.Truthful ⟨{ v with registry := v.registry.modify x f }, calls⟩
  := by
  apply h.frame
  · intro y
    simp only [Registry.live_modify]
    split
    next eq =>
      subst eq
      cases v.registry.live.get? y with
      | none => rfl
      | some r => simp [(alike r).instrument]
    next => rfl
  · intro y
    rfl
  · intro call mem y withdraws
    exact mem

/-- A patch is in place, and the instrument that becomes live is announced. -/
theorem confirm (h : Position.Truthful ⟨v, .patch r :: calls⟩) (w : v.registry.WellKept)
    (promoted : (v.registry.promote r.id).1 = some s) (tells : s.instrument = r.instrument)
    (t : Instant) :
  Position.Truthful ⟨((v.add [(Call.patch r).answered (.ok ())]).promote r.id).add
    [.published (some r.serial) (.applied r.instrument t)], calls⟩
  := by
  have last (y) : lastNotice y (((v.add [(Call.patch r).answered (.ok ())]).promote r.id).add
      [.published (some r.serial) (.applied r.instrument t)]).history
        = if r.id = y then some (.applied r.instrument t) else lastNotice y v.history := by
    by_cases hy : r.id = y
    · simp [lastNotice_append, Event.instrument?, ← hy, Registration.id]
    · have ne : r.instrument.id ≠ y := hy
      simp [lastNotice_append, Event.instrument?, hy, ne]
  have live (y) := w.live_promote promoted y
  constructor
  · intro y s' now
    rw [last]
    have now := (live y).symm.trans now
    split at now
    next eq =>
      obtain rfl := Option.some.inj now
      exact ⟨t, by rw [if_pos eq.symm, tells]⟩
    next ne =>
      rw [if_neg (Ne.symm ne)]
      apply h.announced now
  · intro y i t' said
    rw [last] at said
    split at said
    next eq => exact .inl ⟨_, (live y).trans (if_pos eq.symm)⟩
    next ne =>
      rcases h.accounted said with ⟨s', was⟩ | ⟨call, mem, withdraws⟩
      · exact .inl ⟨s', (live y).trans ((if_neg (Ne.symm ne)).trans was)⟩
      · rcases List.mem_cons.mp mem with rfl | mem
        · cases withdraws
        · exact .inr ⟨call, mem, withdraws⟩

/-- An applying instrument is removed. -/
theorem drop (h : Position.Truthful ⟨v, calls⟩) (w : v.registry.WellKept) {x : InstrumentId}
    (applying : v.registry.applying.get? x = some r) (cause : Option String) (t : Instant) :
  Position.Truthful
    ⟨(v.detach x).add [.published (some r.serial) (.removed r.instrument cause t)], calls⟩
  := by
  have id : r.instrument.id = x := w.applying_id applying
  apply h.announce x
  · simp [Registry.live_detach]
  · intro y hy
    simp [Registry.live_detach, hy]
  · intro i t'
    simp [lastNotice_append, Event.instrument?, id]
  · intro y hy
    simp [lastNotice_append, Event.instrument?, id, hy.symm]
  · intro call mem y hy withdraws
    exact mem

/-- A live instrument is taken out. Its removal is announced when its patch is taken back. -/
theorem withdraw (h : Position.Truthful ⟨v, calls⟩) (w : v.registry.WellKept) {x : InstrumentId}
    (live : v.registry.live.get? x = some r) :
  Position.Truthful
    ⟨(v.detach x).add [(Call.withdraw r.remove).asked], .withdraw r.remove :: calls⟩
  := by
  have same (y) : lastNotice y ((v.detach x).add [(Call.withdraw r.remove).asked]).history
      = lastNotice y v.history := by
    simp [lastNotice_append]
  have left (y) : (v.detach x).registry.live.get? y
      = if y = x then none else v.registry.live.get? y := v.registry.live_detach x y
  constructor
  · intro y s now
    rw [same]
    have now := (left y).symm.trans now
    split at now
    next => cases now
    next => apply h.announced now
  · intro y i t said
    rw [same] at said
    by_cases hy : y = x
    · exact .inr ⟨_, .head _, (w.live_id live).trans hy.symm⟩
    · rcases h.accounted said with ⟨s, was⟩ | ⟨call, mem, withdraws⟩
      · exact .inl ⟨s, (left y).trans ((if_neg hy).trans was)⟩
      · exact .inr ⟨call, .tail _ mem, withdraws⟩

/-- The removal of a live instrument is over. -/
theorem part (h : Position.Truthful ⟨v, .withdraw r :: calls⟩)
    (gone : v.registry.live.get? r.id = none) (answer : Except TransformError Unit)
    (cause : Option String) (t : Instant) :
  Position.Truthful ⟨v.add [(Call.withdraw r).answered answer,
    .published (some r.serial) (.removed r.instrument cause t)], calls⟩
  := by
  have id : r.instrument.id = r.id := rfl
  apply h.announce r.id
  · exact gone
  · intro y hy
    rfl
  · intro i t'
    simp [lastNotice_append, Event.instrument?, id]
  · intro y hy
    simp [lastNotice_append, Event.instrument?, id, hy.symm]
  · intro call mem y hy withdraws
    rcases List.mem_cons.mp mem with rfl | mem
    · exact absurd withdraws.symm hy
    · exact mem

end Position.Truthful

namespace Move

variable {p q : Position}

/-- A move keeps the events true. -/
theorem truthful (move : Move Conduct.telling p q) (coherent : p.Coherent) (h : p.Truthful) :
  q.Truthful
  := by
  have w := coherent.wellKept
  cases move with
  | touch v calls x f alike => exact h.touch x alike
  | complain | takeDue | forget =>
    apply h.frame
    · intro y
      rfl
    · intro y
      simp [lastNotice_append, Event.instrument?]
    · intro call mem y withdraws
      exact mem
  | refuse v calls i err t free invalid =>
    apply h.announce i.id
    · exact (Registry.get?_eq_none_iff.mp free).1
    · intro y hy
      rfl
    · intro j t
      simp [lastNotice_append, Event.instrument?]
    · intro y hy
      simp [lastNotice_append, Event.instrument?, hy.symm]
    · intro call mem y hy withdraws
      exact mem
  | register v calls i candidate r g opens valid fresh =>
    apply h.frame
    · intro y
      simp [Registry.live_reserve fresh]
    · intro y
      simp [lastNotice_append]
    · intro call mem y withdraws
      exact .tail _ mem
  | attempt =>
    apply h.frame
    · intro y
      rfl
    · intro y
      simp [lastNotice_append]
    · intro call mem y withdraws
      exact .tail _ mem
  | found v calls r may =>
    apply h.frame
    · intro y
      rfl
    · intro y
      simp [lastNotice_append]
    · apply Call.waits_on (fun _ withdraws => withdraws) (List.subset_cons_self _ _)
  | defer v calls r now dueAt attempts may patient scheduled =>
    apply h.frame
    · intro y
      rfl
    · intro y
      simp [lastNotice_append]
    · apply Call.waits_on (fun _ withdraws => withdraws) (List.Subset.refl _)
  | fail v calls r now err t may givesUp =>
    apply h.abandon r err t
    · rfl
    · intro y
      simp [lastNotice_append]
    · apply Call.waits_on (fun _ withdraws => withdraws) (List.Subset.refl _)
  | reject v calls r source t may =>
    apply h.abandon r (.patchFailed r.id source) t
    · rfl
    · intro y
      simp [lastNotice_append]
    · apply Call.waits_on (fun _ withdraws => withdraws) (List.subset_cons_self _ _)
  | confirm v calls r s t may promoted =>
    obtain ⟨before, applying, rfl, -⟩ := w.promote_some promoted
    exact h.confirm w promoted (may.2 before applying) t
  | revert v calls r may refused =>
    have same := (w.promote_none refused).2
    apply h.frame
    · intro y
      simp [same]
    · intro y
      simp [lastNotice_append]
    · apply Call.waits_on (fun _ withdraws => withdraws) (List.subset_cons_self _ _)
  | settle v calls r answer may =>
    apply h.frame
    · intro y
      rfl
    · intro y
      simp [lastNotice_append]
    · apply Call.waits_on (fun _ withdraws => withdraws) (List.Subset.refl _)
  | drop v calls x r cause t opens detached applying =>
    obtain ⟨s, before, rfl⟩ := w.detach_applying detached applying
    exact h.drop w before cause t
  | withdraw v calls x r opens detached live =>
    obtain ⟨s, before, rfl⟩ := w.detach_live detached live
    exact h.withdraw w before
  | part v calls r answer cause t may => exact h.part may.2 answer _ t
  | clear v calls may => exact absurd rfl may

end Move

/-! ### The truth between operations -/

/-- An instrument is live if and only if the last event about its identity says that it was
applied. -/
def View.Told (v : View) : Prop :=
  ∀ x i, (∃ r, v.registry.getLive? x = some r ∧ r.instrument = i)
    ↔ ∃ t, lastNotice x v.history = some (.applied i t)

/-- Where no call waits the events tell the truth. -/
theorem Position.Truthful.told {p : Position} (h : p.Truthful) (ended : p.calls = []) :
  p.view.Told
  := by
  intro x i
  constructor
  · rintro ⟨r, live, rfl⟩
    apply h.announced live
  · rintro ⟨t, last⟩
    rcases h.accounted last with ⟨r, live⟩ | ⟨call, waits, -⟩
    · obtain ⟨t', last'⟩ := h.announced live
      rw [last] at last'
      obtain ⟨rfl, -⟩ := Event.applied.inj (Option.some.inj last')
      exact ⟨r, live, rfl⟩
    · rw [ended] at waits
      cases waits

/-- The events stay true in a session whose answers are followed by the truth. -/
theorem Conduct.Run.truthful {settings : Settings} {clock : Instant} {s : Session}
    (run : Conduct.telling.Run (.idle (.new settings clock)) s) :
  s.position.Truthful
  := by
  apply run.coherent_invariant Move.truthful
  intro retries
  constructor <;> simp [Registry.empty]

/-- An event that is no news about a live instrument leaves the last one about it. -/
theorem Position.Aside.lastNotice_eq {p q : Position} (aside : p.Aside q) {x : InstrumentId}
    {r : Registration} (live : p.view.registry.live.get? x = some r) :
  lastNotice x q.view.history = lastNotice x p.view.history
  := by
  obtain ⟨entries, history, events⟩ := aside.events
  have none : lastNotice x entries = none := by
    rw [lastNotice, List.getLast?_eq_none_iff, List.filterMap_eq_nil_iff]
    intro entry mem
    obtain ⟨serial, event, rfl, free⟩ := events entry mem
    apply if_neg
    intro about
    obtain ⟨i, is, rfl⟩ := Option.map_eq_some_iff.mp about
    rw [free i is] at live
    cases live
  rw [history, lastNotice_append, none, Option.none_or]

/-- An answer that leaves nothing waiting, and every live instrument announced, is followed by
the truth. -/
theorem Move.tells {v : View} {call : Call} {answer : call.request.Answer} {q : Position}
    (move : Move (Conduct.telling.starts.replying v call answer) ⟨v, [call]⟩ q)
    (w : v.registry.WellKept) (ended : q.calls = [])
    (announced : ∀ {x r}, q.view.registry.live.get? x = some r
      → ∃ t, lastNotice x q.view.history = some (.applied r.instrument t)) :
  v.Tells call answer
  := by
  cases move with
  | defer _ _ _ _ _ _ may =>
    cases may.2
    trivial
  | fail _ _ _ _ _ _ may =>
    cases may.2
    trivial
  | confirm v calls r s t may promoted =>
    cases may.2
    obtain ⟨before, applying, rfl, -⟩ := w.promote_some promoted
    obtain ⟨t', last⟩ := announced ((w.live_promote promoted r.id).trans (if_pos rfl))
    simp [lastNotice_append, Event.instrument?, Registration.id] at last
    intro s found
    obtain rfl := Option.some.inj (applying.symm.trans found)
    exact last.1.symm
  | settle _ _ _ _ may =>
    cases may.2
    trivial
  | part v calls r answer cause t may =>
    cases may.2
    change v.registry.live.get? r.id = none
    by_contra live
    obtain ⟨s, live⟩ := Option.ne_none_iff_exists'.mp live
    obtain ⟨t', last⟩ := announced live
    simp [lastNotice_append, Event.instrument?, Registration.id] at last
  | touch | refuse | complain | takeDue | forget | register | attempt | found | reject | revert
  | drop | withdraw | clear => cases ended

/-- When every answer is followed by the truth, the events tell the truth whenever no operation is
in progress. This is exact: the events after a last answer are true only if it was such. -/
theorem live_iff_last_applied (settings : Settings) (clock : Instant) :
  (∀ s, Conduct.telling.Run (.idle (.new settings clock)) s → s.waiting = []
      → s.engine.view.Told)
    ∧ ∀ e p finished answer,
      Conduct.telling.Run (.idle (.new settings clock)) { engine := e, waiting := [p], finished }
      → (Session.proceed p.op [] finished (p.resume answer) e).waiting = []
      → ((Session.proceed p.op [] finished (p.resume answer) e).engine.view.Told
        ↔ e.view.Tells p.call answer)
  := by
  have told (s) (run : Conduct.telling.Run (.idle (.new settings clock)) s)
      (ended : s.waiting = []) : s.engine.view.Told := by
    apply run.truthful.told
    simp [Session.position, Session.calls, ended]
  use told
  intro e p finished answer run ended
  constructor
  · intro after
    have idle : (Session.proceed p.op [] finished (p.resume answer) e).calls = [] :=
      congrArg (List.map Pending.call) ended
    obtain ⟨q, answered, none, silent⟩ := Session.proceed_reply run.keeps idle
    have aside := Starts.silent_moves (fun _ _ h => h rfl) silent
      (answered.coherent run.coherent) idle
    apply answered.tells run.coherent.wellKept none
    intro x r live
    have still := aside.live x
    rw [live] at still
    obtain ⟨s, now, instrument⟩ := Option.map_eq_some_iff.mp still
    rw [← aside.lastNotice_eq live]
    exact (after x r.instrument).mp ⟨s, now, instrument⟩
  · intro tells
    apply told _ _ ended
    exact run.tail (.reply e p [] finished answer ⟨trivial, tells⟩)

/-- An install whose patch succeeds is announced, and that answer is followed by the truth. -/
theorem live_iff_last_applied_install :
  ∃ s, Conduct.telling.Run (.idle (.new .default default)) s ∧ s.waiting = []
    ∧ s.engine.view.Told
    ∧ (∃ t, lastNotice "a" s.engine.view.history = some (.applied (.breakpointIn "U") t))
    ∧ ∃ e p finished, Conduct.telling.Run (.idle (.new .default default))
        { engine := e, waiting := [p], finished }
      ∧ e.view.Tells p.call (p.call.grant true)
  := by
  obtain ⟨told, exact⟩ := live_iff_last_applied .default default
  have asks : Conduct.telling.AllowsAll (.idle (.new .default default))
      [.start (.install (.breakpointIn "U")), .reply true] :=
    ⟨nofun, ⟨trivial, trivial⟩, trivial⟩
  have ends : Conduct.telling.AllowsAll (.idle (.new .default default))
      [.start (.install (.breakpointIn "U")), .reply true, .reply true] := by
    refine ⟨nofun, ⟨trivial, trivial⟩, ⟨trivial, ?_⟩, trivial⟩
    intro s applying
    obtain rfl := Option.some.inj applying
    rfl
  have after := told _ ends.run rfl
  have tells := (exact _ _ _ _ asks.run rfl).mp after
  exact ⟨_, ends.run, rfl, after, (after _ _).mp ⟨_, rfl, rfl⟩, _, _, _, asks.run, tells⟩

/-- An instrument is installed again while its patch is taken back. -/
def reinstallWhileWithdrawing : List Action :=
  [.start (.install (.breakpointIn "U")), .reply true, .reply true, .start (.removeById "a" none),
    .start (.install (.breakpointIn "U")), .reply true, .reply true, .reply true]

/-- Answers that are not followed by the truth can leave a live instrument whose last event says
that it was removed. The removal is published after the second install. -/
theorem not_told_reinstall :
  ¬∀ s, Conduct.reentrant.Run (.idle (.new .default default)) s → s.waiting = []
    → s.engine.view.Told
  := by
  intro all
  have allowed : Conduct.reentrant.AllowsAll (.idle (.new .default default))
      reinstallWhileWithdrawing :=
    ⟨nofun, trivial, trivial, nofun, nofun, trivial, trivial, trivial, trivial⟩
  obtain ⟨t, last⟩ := (all _ allowed.run rfl "a" _).mp ⟨_, rfl, rfl⟩
  have removed := Option.some.inj last
  cases removed

end Instrumentation
