import Instrumentation.Proofs.Coherence

/-!
# One answer

When a call is answered, the first move of its operation is that answer, and the moves that follow
up to its next call or its end answer nothing. If they make no call either, they leave the live
instruments as they are, and publish only events about other identities.
-/

namespace Instrumentation

namespace Starts

/-- No call is answered. -/
def silent (starts : Starts) : Conduct where
  starts := starts
  answers _ _ _ := False

/-- A call is given one answer, in one view. -/
def replying (starts : Starts) (v : View) (call : Call) (answer : call.request.Answer) :
    Conduct where
  starts := starts
  answers v' call' answer' :=
    v' = v ∧ (⟨call', answer'⟩ : (call : Call) × call.request.Answer) = ⟨call, answer⟩

end Starts

namespace Move

variable {c : Conduct} {p q : Position}

/-- A move answers nothing, and leaves the calls that wait, or it answers the last of them and has
something to add to the history. -/
theorem silent_or_answer (move : Move c p q) :
  (Move c.starts.silent p q ∧ p.calls <:+ q.calls ∧ p.view.history <+: q.view.history)
    ∨ ∃ call rest answer, p.calls = call :: rest ∧ c.answers p.view call answer
      ∧ rest <:+ q.calls ∧ p.view.history.length < q.view.history.length
  := by
  cases move with
  | touch v calls x f alike =>
    exact .inl ⟨.touch v calls x f alike, List.suffix_rfl, List.prefix_rfl⟩
  | refuse v calls i err t free invalid =>
    exact .inl ⟨.refuse v calls i err t free invalid, List.suffix_rfl, List.prefix_append _ _⟩
  | complain v calls raw cause t =>
    exact .inl ⟨.complain v calls raw cause t, List.suffix_rfl, List.prefix_append _ _⟩
  | takeDue v calls now => exact .inl ⟨.takeDue v calls now, List.suffix_rfl, List.prefix_rfl⟩
  | forget v calls x gone => exact .inl ⟨.forget v calls x gone, List.suffix_rfl, List.prefix_rfl⟩
  | register v calls i candidate r g opens valid fresh =>
    exact .inl ⟨.register v calls i candidate r g opens valid fresh, List.suffix_cons _ _,
      List.prefix_append _ _⟩
  | attempt v calls x r opens applying =>
    exact .inl ⟨.attempt v calls x r opens applying, List.suffix_cons _ _, List.prefix_append _ _⟩
  | found v calls r may => exact .inr ⟨_, _, _, rfl, may, List.suffix_cons _ _, by simp⟩
  | defer v calls r now dueAt attempts may patient scheduled =>
    exact .inr ⟨_, _, _, rfl, may, List.suffix_rfl, by simp⟩
  | fail v calls r now err t may givesUp =>
    exact .inr ⟨_, _, _, rfl, may, List.suffix_rfl, by simp⟩
  | reject v calls r source t may =>
    exact .inr ⟨_, _, _, rfl, may, List.suffix_cons _ _, by simp⟩
  | confirm v calls r s t may promoted =>
    exact .inr ⟨_, _, _, rfl, may, List.suffix_rfl, by simp⟩
  | revert v calls r may refused =>
    exact .inr ⟨_, _, _, rfl, may, List.suffix_cons _ _, by simp⟩
  | settle v calls r answer may => exact .inr ⟨_, _, _, rfl, may, List.suffix_rfl, by simp⟩
  | drop v calls x r cause t opens detached applying =>
    exact .inl ⟨.drop v calls x r cause t opens detached applying, List.suffix_rfl,
      List.prefix_append _ _⟩
  | withdraw v calls x r opens detached live =>
    exact .inl ⟨.withdraw v calls x r opens detached live, List.suffix_cons _ _,
      List.prefix_append _ _⟩
  | part v calls r answer cause t may =>
    exact .inr ⟨_, _, _, rfl, may, List.suffix_rfl, by simp⟩
  | clear v calls may => exact .inl ⟨.clear v calls may, List.suffix_rfl, List.prefix_rfl⟩

end Move

namespace Starts

variable {starts : Starts} {v : View} {call : Call} {calls : List Call} {p q : Position}

/-- Without answers every call goes on waiting. -/
theorem silent_suffix (moves : Moves starts.silent p q) :
  p.calls <:+ q.calls
  := by
  induction moves with
  | refl => exact List.suffix_rfl
  | tail _ move ih =>
    rcases move.silent_or_answer with ⟨-, waits, -⟩ | ⟨_, _, _, -, may, -⟩
    · apply ih.trans waits
    · exact may.elim

/-- With one answer the call goes on waiting, or the answer is the first thing that happens and
nothing else is answered. -/
theorem replying_moves {answer : call.request.Answer}
    (moves : Moves (starts.replying v call answer) ⟨v, call :: calls⟩ q) :
  call :: calls <:+ q.calls
    ∨ v.history.length < q.view.history.length
      ∧ ∃ p, Move (starts.replying v call answer) ⟨v, call :: calls⟩ p ∧ calls <:+ p.calls
        ∧ Moves starts.silent p q
  := by
  induction moves with
  | refl => exact .inl List.suffix_rfl
  | @tail p q _ move ih =>
    rcases ih with waits | ⟨longer, first, answered, suffix, silent⟩
    · rcases move.silent_or_answer with ⟨-, still, -⟩ | ⟨call', rest, answer', eq, may, still, more⟩
      · exact .inl (waits.trans still)
      · obtain ⟨same, given⟩ := may
        have head : call' = call := congrArg Sigma.fst given
        rw [eq] at waits
        rcases List.suffix_cons_iff.mp waits with all | rest
        · right
          obtain rfl : rest = calls := (List.cons.inj all).2.symm
          obtain ⟨view, waiting⟩ := p
          obtain rfl : view = v := same
          obtain rfl : waiting = call :: rest := eq.trans all.symm
          exact ⟨more, q, move, still, .refl⟩
        · exact .inl (rest.trans still)
    · right
      rcases move.silent_or_answer with ⟨move, -, history⟩ | ⟨_, _, _, -, may, -⟩
      · exact ⟨Nat.lt_of_lt_of_le longer history.length_le, first, answered, suffix,
          silent.tail move⟩
      · rw [may.1] at longer
        omega

end Starts

/-! ### What happens without calls and answers -/

/-- The later position has the live instruments of the earlier one, and only events about other
identities are new. -/
structure Position.Aside (p q : Position) : Prop where
  /-- The live instruments are the same. -/
  live : ∀ x, (q.view.registry.live.get? x).map Registration.instrument
    = (p.view.registry.live.get? x).map Registration.instrument
  /-- What is new is an event about no live instrument. -/
  events : ∃ entries, q.view.history = p.view.history ++ entries
    ∧ ∀ entry ∈ entries, ∃ serial event, entry = .published serial event
      ∧ ∀ i, event.instrument? = some i → p.view.registry.live.get? i.id = none

namespace Position.Aside

variable {p q s : Position}

/-- A position where nothing has happened. -/
protected theorem refl (p : Position) :
  p.Aside p
  := ⟨fun _ => rfl, [], by simp, by simp⟩

/-- What is live later was live before. -/
theorem live_eq_none (h : p.Aside q) {x : InstrumentId} :
  q.view.registry.live.get? x = none ↔ p.view.registry.live.get? x = none
  := by
  rw [← Option.map_eq_none_iff, h.live x, Option.map_eq_none_iff]

/-- One thing after another. -/
protected theorem trans (h : p.Aside q) (h' : q.Aside s) :
  p.Aside s
  := by
  constructor
  · intro x
    rw [h'.live, h.live]
  · obtain ⟨es, history, events⟩ := h.events
    obtain ⟨fs, history', events'⟩ := h'.events
    use es ++ fs
    constructor
    · rw [history', history, List.append_assoc]
    · intro entry mem
      rcases List.mem_append.mp mem with mem | mem
      · apply events entry mem
      · obtain ⟨serial, event, eq, free⟩ := events' entry mem
        exact ⟨serial, event, eq, fun i about => h.live_eq_none.mp (free i about)⟩

end Position.Aside

namespace Starts

variable {starts : Starts} {p q : Position}

/-- A move that answers nothing and makes no call leaves the live instruments. -/
theorem silent_move (keeps : ∀ v calls, ¬starts v calls .clear) (move : Move starts.silent p q)
    (coherent : p.Coherent) (ended : q.calls = []) :
  p.Aside q
  := by
  have w := coherent.wellKept
  cases move with
  | touch v calls y f alike =>
    refine ⟨fun x => ?_, [], by simp, by simp⟩
    simp only [Registry.live_modify]
    split
    next eq =>
      subst eq
      cases v.registry.live.get? x with
      | none => rfl
      | some r => simp [(alike r).instrument]
    next => rfl
  | refuse v calls i err t free invalid =>
    have gone : v.registry.live.get? i.id = none := (Registry.get?_eq_none_iff.mp free).1
    exact ⟨fun _ => rfl, _, rfl, by simpa [Event.instrument?] using gone⟩
  | complain => exact ⟨fun _ => rfl, _, rfl, by simp [Event.instrument?]⟩
  | takeDue => exact ⟨fun _ => rfl, [], by simp, by simp⟩
  | forget => exact ⟨fun _ => rfl, [], by simp, by simp⟩
  | drop v calls y s cause t opens detached applying =>
    obtain ⟨before, was, rfl⟩ := w.detach_applying detached applying
    have gone := w.live_eq_none was
    have id : before.remove.instrument.id = y := (w.applying_id was : before.id = y)
    refine ⟨fun x => ?_, _, rfl, by simpa [Event.instrument?, id] using gone⟩
    simp only [View.registry_add, View.registry_detach, Registry.live_detach]
    split
    next eq => rw [eq, gone]
    next => rfl
  | register | attempt | withdraw => cases ended
  | found _ _ _ may => exact may.elim
  | defer _ _ _ _ _ _ may => exact may.elim
  | fail _ _ _ _ _ _ may => exact may.elim
  | reject _ _ _ _ _ may => exact may.elim
  | confirm _ _ _ _ _ may => exact may.elim
  | revert _ _ _ may => exact may.elim
  | settle _ _ _ _ may => exact may.elim
  | part _ _ _ _ _ _ may => exact may.elim
  | clear v calls may => exact absurd may (keeps v calls)

/-- Moves that answer nothing and make no call leave the live instruments. -/
theorem silent_moves (keeps : ∀ v calls, ¬starts v calls .clear)
    (moves : Moves starts.silent p q) (coherent : p.Coherent) (ended : q.calls = []) :
  p.Aside q
  := by
  induction moves with
  | refl => exact .refl p
  | @tail q s before move ih =>
    have waits := Starts.silent_suffix (.single move)
    rw [ended, List.suffix_nil] at waits
    have coherent' := Moves.preserve Move.coherent before coherent
    exact (ih waits).trans (silent_move keeps move coherent' ended)

end Starts

/-- An operation that is answered, and is over without another call, begins with the answer, and
answers nothing else. -/
theorem Session.proceed_reply {starts : Starts} {e : Engine} {p : Pending}
    {waiting : List Pending} {finished : List ((op : Operation) × op.Result)}
    {answer : p.call.request.Answer} (keeps : starts.Keeps (p :: waiting))
    (ended : (proceed p.op waiting finished (p.resume answer) e).calls
      = waiting.map Pending.call) :
  ∃ q, Move (starts.replying e.view p.call answer)
      ⟨e.view, p.call :: waiting.map Pending.call⟩ q
    ∧ q.calls = waiting.map Pending.call
    ∧ Moves starts.silent q (proceed p.op waiting finished (p.resume answer) e).position
  := by
  have follows := keeps.1 (starts.replying e.view p.call answer).answers answer e.view ⟨rfl, rfl⟩
  have moves : Moves (starts.replying e.view p.call answer)
      ⟨e.view, p.call :: waiting.map Pending.call⟩
      (proceed p.op waiting finished (p.resume answer) e).position :=
    (proceed_moves keeps.2 follows).1
  rcases Starts.replying_moves moves with waits | ⟨-, q, answered, suffix, silent⟩
  · have longer : (p.call :: waiting.map Pending.call).length
        ≤ (waiting.map Pending.call).length := ended ▸ waits.length_le
    rw [List.length_cons] at longer
    omega
  · use q, answered
    constructor
    · have short : q.calls <:+ waiting.map Pending.call := ended ▸ Starts.silent_suffix silent
      apply short.eq_of_length_le suffix.length_le
    · exact silent

end Instrumentation
