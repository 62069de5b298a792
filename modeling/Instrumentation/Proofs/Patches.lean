import Instrumentation.Proofs.Reply
import Mathlib.Data.Finset.Basic

/-!
# Patches and live instruments

A patch is in place from the moment its insertion succeeds until it is taken out. While
operations run inside each other, each live instrument has its patch in place, and each patch in
place belongs to a live instrument or is owed, which is to say that an operation waits for it to
be taken out; so when no operation waits, the patches in place are those of the live instruments.

An operation looks up an identity again when its call is answered, and takes what it finds for
the registration that it asked for. The balance is kept as long as that does no harm: a patch is
confirmed for an instrument with that patch, an install that fails takes no other live instrument
with it, and a patch is not taken out from under a live instrument.
-/

namespace Instrumentation

/-- A unit and what is inserted into it. -/
abbrev Patch := String × PatchSpec

namespace Instrument

/-- The patch of an instrument. -/
def patch (i : Instrument) : Patch := (i.unitName, i.patchSpec)

/-- A patch calls back one identity. -/
@[simp]
theorem patch_id (i : Instrument) :
  i.patch.2.instrumentId = i.id
  := rfl

end Instrument

/-! ### Patches in place -/

/-- The patches in place after an entry. -/
def Entry.patch (patches : Finset Patch) : Entry → Finset Patch
  | .answered _ (.patch unit spec) (.ok _) => insert (unit, spec) patches
  | .answered _ (.unpatch unit spec) (.ok _) => patches.erase (unit, spec)
  | _ => patches

/-- The patches in place after a history. -/
def patched (history : List Entry) : Finset Patch := history.foldl Entry.patch ∅

/-- More entries. -/
theorem patched_append (history entries : List Entry) :
  patched (history ++ entries) = entries.foldl Entry.patch (patched history)
  := List.foldl_append

/-- A failure changes no patch. -/
theorem patched_failure (v : View) (r : Registration) (err : InstrumentError) (t : Instant)
    (patches : Finset Patch) :
  (v.failure r err t).foldl Entry.patch patches = patches
  := by
  rw [View.failure]
  split <;> rfl

/-! ### Patches of live instruments -/

namespace Registry

variable {g g' : Registry} {x : InstrumentId} {r s : Registration} {k : Patch}

/-- The patch is that of a live instrument. -/
def Needs (g : Registry) (k : Patch) : Prop :=
  ∃ x r, g.live.get? x = some r ∧ r.instrument.patch = k

/-- A patch is needed by the live instrument that it calls back. -/
theorem WellKept.needs_iff (w : g.WellKept) :
  g.Needs k ↔ ∃ r, g.live.get? k.2.instrumentId = some r ∧ r.instrument.patch = k
  := by
  constructor
  · rintro ⟨x, r, live, rfl⟩
    have id := w.live_id live
    subst id
    exact ⟨r, live, rfl⟩
  · rintro ⟨r, live, patch⟩
    exact ⟨_, r, live, patch⟩

/-- A patch is not needed when the live instrument that it calls back has another one. -/
theorem WellKept.not_needs (w : g.WellKept)
    (other : ∀ s, g.getLive? r.id = some s → s.instrument.patch ≠ r.instrument.patch) :
  ¬g.Needs r.instrument.patch
  := by
  intro needs
  obtain ⟨s, live, patch⟩ := w.needs_iff.mp needs
  apply other s live patch

/-- The patches that are needed are those of the live instruments. -/
theorem needs_iff_instrument :
  g.Needs k ↔ ∃ x i, (g.live.get? x).map Registration.instrument = some i ∧ i.patch = k
  := by
  constructor
  · rintro ⟨x, r, live, rfl⟩
    exact ⟨x, r.instrument, by simp [live], rfl⟩
  · rintro ⟨x, i, live, rfl⟩
    obtain ⟨r, is, rfl⟩ := Option.map_eq_some_iff.mp live
    exact ⟨x, r, is, rfl⟩

/-- A detached instrument needs no patch. -/
theorem WellKept.needs_detach (w : g.WellKept) :
  (g.detach x).2.Needs k ↔ k.2.instrumentId ≠ x ∧ g.Needs k
  := by
  rw [(w.detach x).needs_iff, w.needs_iff, live_detach]
  by_cases h : k.2.instrumentId = x
  · simp [h]
  · simp [h]

/-- The detachment of an identity that is not live leaves every patch needed. -/
theorem WellKept.needs_detach_of_not_live (w : g.WellKept) (free : g.live.get? x = none) :
  (g.detach x).2.Needs k ↔ g.Needs k
  := by
  rw [w.needs_detach, and_iff_right_iff_imp, w.needs_iff]
  rintro ⟨r, live, -⟩ rfl
  simp [free] at live

/-- A promoted instrument needs its patch. -/
theorem WellKept.needs_promote (w : g.WellKept) (promoted : (g.promote x).1 = some s) :
  (g.promote x).2.Needs k ↔ s.instrument.patch = k ∨ g.Needs k
  := by
  obtain ⟨q, applying, rfl, -⟩ := w.promote_some promoted
  have id : q.instrument.id = x := w.applying_id applying
  have free := w.live_eq_none applying
  rw [(w.promote x).needs_iff, w.needs_iff, w.live_promote promoted]
  by_cases h : k.2.instrumentId = x
  · simp [h, free]
  · have ne : q.instrument.patch ≠ k := by
      rintro rfl
      apply h id
    simp [h, ne]

/-- A change of an entry leaves the patch of its instrument. -/
theorem needs_modify {f : Registration → Registration} (alike : ∀ r, (f r).Alike r) :
  (g.modify x f).Needs k ↔ g.Needs k
  := by
  constructor
  · rintro ⟨y, r, live, rfl⟩
    rw [live_modify] at live
    split at live
    next =>
      obtain ⟨q, before, rfl⟩ := Option.map_eq_some_iff.mp live
      exact ⟨x, q, before, by rw [(alike q).instrument]⟩
    next => exact ⟨y, r, live, rfl⟩
  · rintro ⟨y, r, live, rfl⟩
    by_cases h : y = x
    · exact ⟨y, f r, by simp [live_modify, h, h ▸ live], by rw [(alike r).instrument]⟩
    · exact ⟨y, r, by simp [live_modify, h, live], rfl⟩

/-- A fresh registration needs no patch yet. -/
theorem needs_reserve {c : Candidate} (fresh : g.reserve c = (.fresh r, g')) :
  g'.Needs k ↔ g.Needs k
  := by
  simp [Needs, live_reserve fresh]

end Registry

/-! ### The balance -/

/-- The call takes out the patch. -/
def Call.Owes (k : Patch) : Call → Prop
  | restore r => r.instrument.patch = k
  | withdraw r => r.instrument.patch = k
  | _ => False

/-- The call succeeds if it is an unpatch. -/
def Call.Reverses : (call : Call) → call.request.Answer → Prop
  | restore _, answer => answer = .ok ()
  | withdraw _, answer => answer = .ok ()
  | _, _ => True

/-- The answer finds the identity of its call in such hands that it does no harm. An install that
fails finds no other live instrument, or one with the same patch if the patch failed; an install
that is confirmed finds no applying instrument with another patch; an unpatch finds no live
instrument with the patch that it took out. -/
def View.Fits (v : View) : (call : Call) → call.request.Answer → Prop
  | .resolve r, loaded => loaded = false → ∀ now err, v.retries.GivesUp r now err
    → v.registry.getLive? r.id = none
  | .patch r, .ok _ => ∀ s, v.registry.getApplying? r.id = some s
    → s.instrument.patch = r.instrument.patch
  | .patch r, .error _ => ∀ s, v.registry.getLive? r.id = some s
    → s.instrument.patch = r.instrument.patch
  | .restore r, _ => ∀ s, v.registry.getLive? r.id = some s
    → s.instrument.patch ≠ r.instrument.patch
  | .withdraw r, _ => ∀ s, v.registry.getLive? r.id = some s
    → s.instrument.patch ≠ r.instrument.patch

/-- Operations run inside each other to any depth, no unpatch fails, and every answer fits. -/
def Conduct.fitting : Conduct :=
  Conduct.reentrant.answering fun v call answer => call.Reverses answer ∧ v.Fits call answer

/-- The patch of every live instrument is in place, and every patch in place is that of a live
instrument or will be taken out. -/
structure Position.Balanced (p : Position) : Prop where
  /-- A live instrument has its patch. -/
  patched : ∀ {k}, p.view.registry.Needs k → k ∈ patched p.view.history
  /-- A patch has its live instrument, or a call that takes it out. -/
  accounted : ∀ {k}, k ∈ Instrumentation.patched p.view.history
    → p.view.registry.Needs k ∨ ∃ call ∈ p.calls, call.Owes k

namespace Position.Balanced

variable {p q : Position}

/-- The balance is kept where nothing changes but for calls that owe nothing. -/
theorem frame (h : p.Balanced)
    (needs : ∀ k, q.view.registry.Needs k ↔ p.view.registry.Needs k)
    (same : Instrumentation.patched q.view.history = Instrumentation.patched p.view.history)
    (owes : ∀ call ∈ p.calls, ∀ k, call.Owes k → call ∈ q.calls) :
  q.Balanced
  := by
  constructor
  · intro k needed
    rw [same]
    apply h.patched ((needs k).mp needed)
  · intro k mem
    rw [same] at mem
    rw [needs]
    rcases h.accounted mem with needed | ⟨call, waits, owed⟩
    · exact .inl needed
    · exact .inr ⟨call, owes call waits k owed, owed⟩

/-- The balance is kept when a patch is taken out that no live instrument needs. -/
theorem reverse {v v' : View} {call : Call} {calls : List Call} {k : Patch}
    (h : Position.Balanced ⟨v, call :: calls⟩) (owes : ∀ {j}, call.Owes j → j = k)
    (registry : v'.registry = v.registry) (free : ¬v.registry.Needs k)
    (taken : Instrumentation.patched v'.history = (Instrumentation.patched v.history).erase k) :
  Position.Balanced ⟨v', calls⟩
  := by
  constructor
  · intro j needed
    rw [registry] at needed
    rw [taken, Finset.mem_erase]
    constructor
    · rintro rfl
      apply free needed
    · apply h.patched needed
  · intro j mem
    rw [taken, Finset.mem_erase] at mem
    rw [registry]
    rcases h.accounted mem.2 with needed | ⟨other, waits, owed⟩
    · exact .inl needed
    · right
      rcases List.mem_cons.mp waits with rfl | waits
      · exact absurd (owes owed) mem.1
      · exact ⟨other, waits, owed⟩

variable {v : View} {calls : List Call} {r s : Registration}

/-- A patch has its live instrument, or a call that takes it out, below a call that takes out
none. -/
theorem accounted_below {call : Call} (h : Position.Balanced ⟨v, call :: calls⟩)
    (idle : ∀ k, ¬call.Owes k) {k : Patch} (mem : k ∈ Instrumentation.patched v.history) :
  v.registry.Needs k ∨ ∃ below ∈ calls, below.Owes k
  := by
  rcases h.accounted mem with needs | ⟨other, waits, owes⟩
  · exact .inl needs
  · rcases List.mem_cons.mp waits with rfl | waits
    · exact absurd owes (idle k)
    · exact .inr ⟨other, waits, owes⟩

/-- A unit could not be patched. The patch of the install is to be taken out, and with it that of a
live instrument of its identity. -/
theorem reject (h : Position.Balanced ⟨v, .patch r :: calls⟩) (w : v.registry.WellKept)
    (source : TransformError)
    (fits : ∀ s, v.registry.live.get? r.id = some s → s.instrument.patch = r.instrument.patch)
    (t : Instant) :
  Position.Balanced ⟨((v.add [(Call.patch r).answered (.error source)]).abandon r
    (.patchFailed r.id source) t).add [(Call.restore r).asked], .restore r :: calls⟩
  := by
  have same : Instrumentation.patched (((v.add [(Call.patch r).answered (.error source)]).abandon r
      (.patchFailed r.id source) t).add [(Call.restore r).asked]).history
        = Instrumentation.patched v.history := by
    simp [patched_append, Entry.patch, patched_failure]
  constructor
  · intro k needs
    rw [same]
    apply h.patched (w.needs_detach.mp needs).2
  · intro k mem
    rw [same] at mem
    rcases h.accounted_below (fun _ owes => owes) mem with needs | ⟨call, waits, owes⟩
    · by_cases other : k.2.instrumentId = r.id
      · obtain ⟨s, live, rfl⟩ := w.needs_iff.mp needs
        rw [other] at live
        exact .inr ⟨_, .head _, (fits s live).symm⟩
      · exact .inl (w.needs_detach.mpr ⟨other, needs⟩)
    · exact .inr ⟨call, .tail _ waits, owes⟩

/-- A patch is in place, and is that of the instrument that becomes live. -/
theorem confirm (h : Position.Balanced ⟨v, .patch r :: calls⟩) (w : v.registry.WellKept)
    (promoted : (v.registry.promote r.id).1 = some s)
    (fits : s.instrument.patch = r.instrument.patch) (t : Instant) :
  Position.Balanced ⟨((v.add [(Call.patch r).answered (.ok ())]).promote r.id).add
    [.published (some r.serial) (.applied r.instrument t)], calls⟩
  := by
  have more : Instrumentation.patched (((v.add [(Call.patch r).answered (.ok ())]).promote r.id).add
      [.published (some r.serial) (.applied r.instrument t)]).history
        = insert r.instrument.patch (Instrumentation.patched v.history) := by
    simp [patched_append, Entry.patch, Instrument.patch]
  constructor
  · intro k needs
    rw [more, Finset.mem_insert]
    rcases (w.needs_promote promoted).mp needs with rfl | needs
    · exact .inl fits
    · exact .inr (h.patched needs)
  · intro k mem
    rw [more, Finset.mem_insert] at mem
    rcases mem with rfl | mem
    · exact .inl ((w.needs_promote promoted).mpr (.inl fits))
    · rcases h.accounted_below (fun _ owes => owes) mem with needs | owed
      · exact .inl ((w.needs_promote promoted).mpr (.inr needs))
      · exact .inr owed

/-- A patch is in place that no instrument needs, and is to be taken out. -/
theorem revert (h : Position.Balanced ⟨v, .patch r :: calls⟩)
    (same : (v.registry.promote r.id).2 = v.registry) :
  Position.Balanced ⟨((v.add [(Call.patch r).answered (.ok ())]).promote r.id).add
    [(Call.restore r).asked], .restore r :: calls⟩
  := by
  have more : Instrumentation.patched (((v.add [(Call.patch r).answered (.ok ())]).promote r.id).add
      [(Call.restore r).asked]).history
        = insert r.instrument.patch (Instrumentation.patched v.history) := by
    simp [patched_append, Entry.patch, Instrument.patch]
  constructor
  · intro k needs
    rw [more, Finset.mem_insert]
    right
    apply h.patched
    rw [← same]
    exact needs
  · intro k mem
    rw [more, Finset.mem_insert] at mem
    rcases mem with rfl | mem
    · exact .inr ⟨_, .head _, rfl⟩
    · rcases h.accounted_below (fun _ owes => owes) mem with needs | ⟨call, waits, owes⟩
      · left
        rw [← same] at needs
        exact needs
      · exact .inr ⟨call, .tail _ waits, owes⟩

/-- A live instrument is taken out, and its patch is to be. -/
theorem withdraw (h : Position.Balanced ⟨v, calls⟩) (w : v.registry.WellKept) {x : InstrumentId}
    (live : v.registry.live.get? x = some r) :
  Position.Balanced
    ⟨(v.detach x).add [(Call.withdraw r.remove).asked], .withdraw r.remove :: calls⟩
  := by
  have same : Instrumentation.patched ((v.detach x).add [(Call.withdraw r.remove).asked]).history
      = Instrumentation.patched v.history := by
    simp [patched_append, Entry.patch]
  constructor
  · intro k needs
    rw [same]
    apply h.patched (w.needs_detach.mp needs).2
  · intro k mem
    rw [same] at mem
    rcases h.accounted mem with needs | ⟨call, waits, owes⟩
    · by_cases other : k.2.instrumentId = x
      · obtain ⟨s, found, rfl⟩ := w.needs_iff.mp needs
        rw [other, live] at found
        obtain rfl := Option.some.inj found
        exact .inr ⟨_, .head _, rfl⟩
      · exact .inl (w.needs_detach.mpr ⟨other, needs⟩)
    · exact .inr ⟨call, .tail _ waits, owes⟩

end Position.Balanced

namespace Move

variable {p q : Position}

/-- A move keeps the balance. -/
theorem balanced (move : Move Conduct.fitting p q) (coherent : p.Coherent) (h : p.Balanced) :
  q.Balanced
  := by
  have w := coherent.wellKept
  cases move with
  | touch v calls x f alike =>
    apply h.frame
    · intro k
      apply Registry.needs_modify alike
    · rfl
    · intro call mem k owes
      exact mem
  | refuse | complain | takeDue | forget =>
    apply h.frame
    · intro k
      rfl
    · simp [patched_append, Entry.patch]
    · intro call mem k owes
      exact mem
  | register v calls i candidate r g opens valid fresh =>
    apply h.frame
    · intro k
      apply Registry.needs_reserve fresh
    · simp [patched_append, Entry.patch]
    · intro call mem k owes
      exact .tail _ mem
  | attempt =>
    apply h.frame
    · intro k
      rfl
    · simp [patched_append, Entry.patch]
    · intro call mem k owes
      exact .tail _ mem
  | found v calls r may =>
    apply h.frame
    · intro k
      rfl
    · simp [patched_append, Entry.patch]
    · apply Call.waits_on (fun _ owes => owes) (List.subset_cons_self _ _)
  | defer v calls r now dueAt attempts may patient scheduled =>
    apply h.frame
    · intro k
      rfl
    · simp [patched_append, Entry.patch]
    · apply Call.waits_on (fun _ owes => owes) (List.Subset.refl _)
  | fail v calls r now err t may givesUp =>
    have free : v.registry.live.get? r.id = none := may.2.2 rfl now err givesUp
    apply h.frame
    · intro k
      apply w.needs_detach_of_not_live free
    · simp [patched_append, Entry.patch, patched_failure]
    · apply Call.waits_on (fun _ owes => owes) (List.Subset.refl _)
  | reject v calls r source t may => exact h.reject w source may.2.2 t
  | confirm v calls r s t may promoted =>
    obtain ⟨before, applying, rfl, -⟩ := w.promote_some promoted
    exact h.confirm w promoted (may.2.2 before applying) t
  | revert v calls r may refused => exact h.revert (w.promote_none refused).2
  | settle v calls r answer may =>
    obtain rfl : answer = .ok () := may.2.1
    apply h.reverse
    · intro k owes
      exact owes.symm
    · rfl
    · apply w.not_needs may.2.2
    · simp [patched_append, Entry.patch, Instrument.patch]
  | drop v calls x r cause t opens detached applying =>
    obtain ⟨s, before, rfl⟩ := w.detach_applying detached applying
    apply h.frame
    · intro k
      apply w.needs_detach_of_not_live (w.live_eq_none before)
    · simp [patched_append, Entry.patch]
    · intro call mem k owes
      exact mem
  | withdraw v calls x r opens detached live =>
    obtain ⟨s, before, rfl⟩ := w.detach_live detached live
    exact h.withdraw w before
  | part v calls r answer cause t may =>
    obtain rfl : answer = .ok () := may.2.1
    apply h.reverse
    · intro k owes
      exact owes.symm
    · rfl
    · apply w.not_needs may.2.2
    · simp [patched_append, Entry.patch, Instrument.patch]
  | clear v calls may => exact absurd rfl may

end Move

/-! ### The balance between operations -/

/-- The patches in place are those of the live instruments. -/
def View.Matched (v : View) : Prop := ∀ k, k ∈ patched v.history ↔ v.registry.Needs k

/-- Where no call waits the patches in place are those of the live instruments. -/
theorem Position.Balanced.matched {p : Position} (h : p.Balanced) (ended : p.calls = []) :
  p.view.Matched
  := by
  intro k
  constructor
  · intro mem
    rcases h.accounted mem with needs | ⟨call, waits, -⟩
    · exact needs
    · rw [ended] at waits
      cases waits
  · exact h.patched

/-- The balance is kept in a session whose answers fit. -/
theorem Conduct.Run.balanced {settings : Settings} {clock : Instant} {s : Session}
    (run : Conduct.fitting.Run (.idle (.new settings clock)) s) :
  s.position.Balanced
  := by
  apply run.coherent_invariant Move.balanced
  intro retries
  constructor <;> simp [Registry.Needs, Registry.empty, patched]

/-- Events change no patch. -/
theorem Position.Aside.matched {p q : Position} (aside : p.Aside q) (h : q.view.Matched) :
  p.view.Matched
  := by
  obtain ⟨entries, history, events⟩ := aside.events
  have same : patched q.view.history = patched p.view.history := by
    rw [history, patched_append]
    clear history
    induction entries with
    | nil => rfl
    | cons entry rest ih =>
      obtain ⟨serial, event, rfl, -⟩ := events entry (.head _)
      apply ih fun e mem => events e (.tail _ mem)
  intro k
  rw [← same, h k, Registry.needs_iff_instrument, Registry.needs_iff_instrument]
  simp only [aside.live]

/-- An answer that leaves nothing waiting, and the patches in place with the live instruments,
fits. -/
theorem Move.fits {starts : Starts} {v : View} {call : Call} {answer : call.request.Answer}
    {q : Position} (move : Move (starts.replying v call answer) ⟨v, [call]⟩ q)
    (w : v.registry.WellKept) (h : Position.Balanced ⟨v, [call]⟩) (reverses : call.Reverses answer)
    (ended : q.calls = []) (matched : q.view.Matched) :
  v.Fits call answer
  := by
  cases move with
  | defer v calls r now dueAt attempts may patient scheduled =>
    cases may.2
    intro _ now' err givesUp
    exact absurd givesUp (RetryQueue.not_givesUp patient scheduled now' err)
  | fail v calls r now err t may givesUp =>
    cases may.2
    intro _ _ _ _
    change v.registry.live.get? r.id = none
    by_contra live
    obtain ⟨s, live⟩ := Option.ne_none_iff_exists'.mp live
    have placed : s.instrument.patch ∈ patched v.history := h.patched ⟨r.id, s, live, rfl⟩
    have still : s.instrument.patch ∈ patched ((v.add [(Call.resolve r).answered false]).abandon
        r err t).history := by
      simpa [patched_append, Entry.patch, patched_failure] using placed
    exact (w.needs_detach.mp ((matched _).mp still)).1 (w.live_id live)
  | confirm v calls r s t may promoted =>
    cases may.2
    obtain ⟨before, applying, rfl, -⟩ := w.promote_some promoted
    intro s found
    obtain rfl := Option.some.inj (applying.symm.trans found)
    have placed := (matched _).mpr ((w.needs_promote promoted).mpr (.inl rfl))
    simp only [View.history_add, View.history_promote, patched_append, List.foldl_cons,
      List.foldl_nil, Entry.patch, Finset.mem_insert] at placed
    rcases placed with same | placed
    · exact same
    · rcases h.accounted placed with needs | ⟨call, waits, owes⟩
      · obtain ⟨s, live, -⟩ := w.needs_iff.mp needs
        have id : before.instrument.id = r.id := w.applying_id applying
        rw [Instrument.patch_id, id, w.live_eq_none applying] at live
        cases live
      · rw [List.mem_singleton.mp waits] at owes
        cases owes
  | settle v calls r answer may =>
    cases may.2
    obtain rfl : answer = .ok () := reverses
    intro s live same
    have placed := (matched _).mpr ⟨r.id, s, live, rfl⟩
    rw [same] at placed
    simp [patched_append, Entry.patch, Instrument.patch] at placed
  | part v calls r answer cause t may =>
    cases may.2
    obtain rfl : answer = .ok () := reverses
    intro s live same
    have placed := (matched _).mpr ⟨r.id, s, live, rfl⟩
    rw [same] at placed
    simp [patched_append, Entry.patch, Instrument.patch] at placed
  | touch | refuse | complain | takeDue | forget | register | attempt | found | reject | revert
  | drop | withdraw | clear => cases ended

/-- When no unpatch fails and every answer fits, the patches in place are those of the live
instruments whenever no operation is in progress. This is exact: after a last answer they are only
if it fits. -/
theorem patched_iff_live (settings : Settings) (clock : Instant) :
  (∀ s, Conduct.fitting.Run (.idle (.new settings clock)) s → s.waiting = []
      → s.engine.view.Matched)
    ∧ ∀ e p finished answer,
      Conduct.fitting.Run (.idle (.new settings clock)) { engine := e, waiting := [p], finished }
      → p.call.Reverses answer
      → (Session.proceed p.op [] finished (p.resume answer) e).waiting = []
      → ((Session.proceed p.op [] finished (p.resume answer) e).engine.view.Matched
        ↔ e.view.Fits p.call answer)
  := by
  have matched (s) (run : Conduct.fitting.Run (.idle (.new settings clock)) s)
      (ended : s.waiting = []) : s.engine.view.Matched :=
    run.balanced.matched (congrArg (List.map Pending.call) ended)
  use matched
  intro e p finished answer run reverses ended
  constructor
  · intro after
    have idle : (Session.proceed p.op [] finished (p.resume answer) e).calls = [] :=
      congrArg (List.map Pending.call) ended
    obtain ⟨q, answered, none, silent⟩ := Session.proceed_reply run.keeps idle
    have aside := Starts.silent_moves (fun _ _ h => h rfl) silent
      (answered.coherent run.coherent) idle
    apply answered.fits run.coherent.wellKept run.balanced reverses none (aside.matched after)
  · intro fits
    apply matched _ _ ended
    exact run.tail (.reply e p [] finished answer ⟨trivial, reverses, fits⟩)

/-- An install whose patch succeeds leaves its patch in place, and that answer fits. -/
theorem patched_iff_live_install :
  ∃ s, Conduct.fitting.Run (.idle (.new .default default)) s ∧ s.waiting = []
    ∧ s.engine.view.Matched ∧ s.engine.view.registry.Needs (Instrument.breakpointIn "U").patch
    ∧ ∃ e p finished, Conduct.fitting.Run (.idle (.new .default default))
        { engine := e, waiting := [p], finished }
      ∧ e.view.Fits p.call (p.call.grant true)
  := by
  obtain ⟨matched, exact⟩ := patched_iff_live .default default
  have asks : Conduct.fitting.AllowsAll (.idle (.new .default default))
      [.start (.install (.breakpointIn "U")), .reply true] :=
    ⟨nofun, ⟨trivial, trivial, nofun⟩, trivial⟩
  have ends : Conduct.fitting.AllowsAll (.idle (.new .default default))
      [.start (.install (.breakpointIn "U")), .reply true, .reply true] := by
    refine ⟨nofun, ⟨trivial, trivial, nofun⟩, ⟨trivial, trivial, ?_⟩, trivial⟩
    intro s applying
    obtain rfl := Option.some.inj applying
    rfl
  have after := matched _ ends.run rfl
  have fits := (exact _ _ _ _ asks.run trivial rfl).mp after
  exact ⟨_, ends.run, rfl, after, ⟨"a", _, rfl, rfl⟩, _, _, _, asks.run, fits⟩

/-- An instrument is removed and installed again while its patch is inserted. -/
def reinstallWhilePatching : List Action :=
  [.start (.install (.breakpointIn "U")), .reply true, .start (.removeById "a" none),
    .start (.install (.breakpointIn "U")), .reply true, .reply true, .reply true, .reply true]

/-- Answers that do not fit can leave a live instrument without its patch. The second of two
installs of an identity makes its instrument live. Then the first one finds nothing applying, and
takes out the patch that both have inserted. -/
theorem not_matched_reinstall :
  ¬∀ s, (Conduct.reentrant.answering fun _ => Call.Reverses).Run (.idle (.new .default default)) s
    → s.waiting = [] → s.engine.view.Matched
  := by
  intro all
  have allowed : (Conduct.reentrant.answering fun _ => Call.Reverses).AllowsAll
      (.idle (.new .default default)) reinstallWhilePatching :=
    ⟨nofun, ⟨trivial, trivial⟩, nofun, nofun, ⟨trivial, trivial⟩, ⟨trivial, trivial⟩,
      ⟨trivial, trivial⟩, ⟨trivial, rfl⟩, trivial⟩
  have placed := (all _ allowed.run rfl (Instrument.breakpointIn "U").patch).mpr ⟨"a", _, rfl, rfl⟩
  have lost : (Instrument.breakpointIn "U").patch ∉ patched
      ((Session.idle (.new .default default)).play reinstallWhilePatching).engine.history := by
    decide +kernel
  apply lost placed

end Instrumentation
