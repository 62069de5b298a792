import Instrumentation.Proofs.RateWindow

/-!
# What a throttle counts

A throttle counts the calls that it lets through, and those that its rate window refuses. A call
that comes after the hit limit is reached is neither: it is refused before the window is asked,
and leaves the throttle as it is. So the two counts can be read off the answers alone, whatever
the times of the calls, and also if they go back.
-/

namespace Instrumentation

namespace Throttle

variable {t : Throttle} {hitLimit : Option UInt32} {past : List Bool}

/-! ### Answers -/

/-- The answers to calls one after another. -/
def answers (t : Throttle) : List Int → List Bool
  | [] => []
  | now :: rest => (t.allow now).1 :: (t.allow now).2.answers rest

/-- So many hits are below the limit, if there is one. -/
def Below (hitLimit : Option UInt32) (hits : Nat) : Prop := ∀ limit ∈ hitLimit, hits < limit.toNat

instance (hitLimit : Option UInt32) (hits : Nat) : Decidable (Below hitLimit hits) :=
  match hitLimit with
  | none => .isTrue nofun
  | some limit => decidable_of_iff (hits < limit.toNat) (by simp [Below])

/-- The number of calls that were refused while fewer than the limit had been let through. -/
def refusals (hitLimit : Option UInt32) (answers : List Bool) : Nat :=
  (List.range answers.length).countP fun i =>
    answers[i]? = some false ∧ Below hitLimit ((answers.take i).count true)

/-- One call more is one refusal more if it is refused below the limit. -/
theorem refusals_append (hitLimit : Option UInt32) (answers : List Bool) (answer : Bool) :
  refusals hitLimit (answers ++ [answer])
    = refusals hitLimit answers
      + if answer = false ∧ Below hitLimit (answers.count true) then 1 else 0
  := by
  have earlier : ((List.range answers.length).countP fun i =>
        (answers ++ [answer])[i]? = some false
          ∧ Below hitLimit (((answers ++ [answer]).take i).count true))
      = refusals hitLimit answers := by
    apply List.countP_congr
    intro i mem
    have lt : i < answers.length := List.mem_range.mp mem
    rw [List.getElem?_append_left lt, List.take_append_of_le_length (Nat.le_of_lt lt)]
  rw [refusals, List.length_append, List.length_singleton, List.range_succ, List.countP_append,
    earlier, List.countP_singleton]
  simp

/-! ### One call -/

/-- A throttle is finished when its hits are not below its limit. -/
theorem isFinished_eq_false_iff (limited : t.hitLimit = hitLimit.map UInt32.toNat) :
  t.isFinished = false ↔ Below hitLimit t.hits
  := by
  rw [isFinished, limited]
  cases hitLimit with
  | none => simp [Below]
  | some limit => simp [Below]

/-- A call that finds the limit reached is refused, and changes nothing. -/
theorem allow_of_finished (finished : t.isFinished = true) (now : Int) :
  t.allow now = (false, t)
  := by
  rw [allow, if_pos finished]

/-- A call below the limit is counted: as a hit if it is let through, else as a refusal. -/
theorem allow_of_unfinished (unfinished : t.isFinished = false) (now : Int) :
  (t.allow now).2.hitLimit = t.hitLimit
    ∧ (t.allow now).2.hits = t.hits + (if (t.allow now).1 then 1 else 0)
    ∧ (t.allow now).2.limited = t.limited + if (t.allow now).1 then 0 else 1
  := by
  rw [allow, if_neg (by simp [unfinished])]
  cases t.window with
  | none => exact ⟨rfl, rfl, rfl⟩
  | some w =>
    dsimp only
    split
    · exact ⟨rfl, rfl, rfl⟩
    · exact ⟨rfl, rfl, rfl⟩

/-- A call below the limit is let through if there is no rate window. -/
theorem allow_of_unwindowed (unwindowed : t.window = none) (unfinished : t.isFinished = false)
    (now : Int) :
  t.allow now = (true, { t with hits := t.hits + 1 })
  := by
  rw [allow, if_neg (by simp [unfinished]), unwindowed]

/-! ### Calls one after another -/

/-- What a throttle has counted after calls with these answers. -/
structure Accounts (t : Throttle) (hitLimit : Option UInt32) (past : List Bool) : Prop where
  /-- The limit stays. -/
  limit : t.hitLimit = hitLimit.map UInt32.toNat
  /-- The hits are the calls that were let through. -/
  hits : t.hits = past.count true
  /-- The hits do not exceed the limit. -/
  within : ∀ limit ∈ hitLimit, t.hits ≤ limit.toNat
  /-- What the rate window refused are the calls that were refused below the limit. -/
  limited : t.limited = refusals hitLimit past

namespace Accounts

/-- Nothing is counted before the first call. -/
protected theorem new (hitLimit : Option UInt32) (rate : Option Rate) :
  (Throttle.new hitLimit rate).Accounts hitLimit []
  := by
  constructor
  · rfl
  · rfl
  · intro limit _
    apply Nat.zero_le
  · rfl

/-- The throttle is finished just if its hits have reached the limit. -/
theorem isFinished_iff (h : t.Accounts hitLimit past) :
  t.isFinished = true ↔ ∃ limit ∈ hitLimit, t.hits = limit.toNat
  := by
  rw [← Bool.not_eq_false, isFinished_eq_false_iff h.limit, Below]
  push Not
  apply exists_congr
  intro limit
  apply and_congr_right
  intro limited
  have within := h.within limit limited
  omega

/-- A call is counted by its answer. -/
theorem allow (h : t.Accounts hitLimit past) (now : Int) :
  (t.allow now).2.Accounts hitLimit (past ++ [(t.allow now).1])
  := by
  have below := isFinished_eq_false_iff h.limit
  cases finished : t.isFinished with
  | true =>
    have reached : ¬Below hitLimit (past.count true) := by
      rw [← h.hits, ← below, finished]
      decide
    rw [allow_of_finished finished]
    constructor
    · exact h.limit
    · simp [h.hits]
    · exact h.within
    · rw [refusals_append, if_neg fun refused => reached refused.2]
      exact h.limited
  | false =>
    have room := below.mp finished
    obtain ⟨limit, hits, limited⟩ := allow_of_unfinished finished now
    constructor
    · exact limit.trans h.limit
    · rw [hits, h.hits, List.count_append, List.count_singleton]
      simp
    · intro limit limited
      have lt := room limit limited
      rw [hits]
      split
      · omega
      · omega
    · rw [h.hits] at room
      rw [limited, refusals_append, h.limited]
      cases (t.allow now).1 with
      | true => simp
      | false => simp [room]

/-- Calls are counted by their answers. -/
theorem after (h : t.Accounts hitLimit past) (times : List Int) :
  (t.after times).Accounts hitLimit (past ++ t.answers times)
  := by
  induction times generalizing t past with
  | nil =>
    rw [Throttle.after, Throttle.answers, List.append_nil]
    exact h
  | cons now rest ih =>
    rw [Throttle.after, Throttle.answers, List.append_cons]
    apply ih (h.allow now)

end Accounts

/-- Calls that find the limit reached are refused, and change nothing. -/
theorem after_of_finished (finished : t.isFinished = true) (times : List Int) :
  t.answers times = List.replicate times.length false ∧ t.after times = t
  := by
  induction times with
  | nil => exact ⟨rfl, rfl⟩
  | cons now rest ih =>
    rw [answers, after, allow_of_finished finished]
    exact ⟨congrArg (false :: ·) ih.1, ih.2⟩

/-- Without a rate window a call is let through as long as the calls before it have left the hits
below the limit. -/
theorem answers_of_unwindowed (limited : t.hitLimit = hitLimit.map UInt32.toNat)
    (unwindowed : t.window = none) (times : List Int) :
  t.answers times = (List.range times.length).map fun i => decide (Below hitLimit (t.hits + i))
  := by
  induction times generalizing t with
  | nil => rfl
  | cons now rest ih =>
    have below := isFinished_eq_false_iff limited
    cases finished : t.isFinished with
    | true =>
      have reached (i : Nat) : ¬Below hitLimit (t.hits + i) := by
        intro further
        have here : Below hitLimit t.hits :=
          fun limit mem => Nat.lt_of_le_of_lt (Nat.le_add_right _ _) (further limit mem)
        rw [below.mpr here] at finished
        cases finished
      rw [(after_of_finished finished (now :: rest)).1]
      simp [reached, List.map_const']
    | false =>
      have rest := ih (t := { t with hits := t.hits + 1 }) limited unwindowed
      rw [answers, allow_of_unwindowed unwindowed finished, rest, List.length_cons,
        List.range_succ_eq_map, List.map_cons, List.map_map]
      congr 1
      · exact (decide_eq_true (below.mp finished)).symm
      · apply List.map_congr_left
        intro i _
        have next : t.hits + 1 + i = t.hits + (i + 1) := by omega
        dsimp only [Function.comp_apply]
        rw [next]

end Throttle

/-- After calls at any times, the hits of a throttle are the calls that were let through, and do
not exceed its limit; what its rate window refused are the calls that were refused below the
limit; and it is finished just if its hits have reached the limit. From then on all calls are
refused, and nothing changes any more. Without a rate window the calls that are let through are
the first ones, up to the limit. -/
theorem calls_accounted (hitLimit : Option UInt32) (rate : Option Rate) (times : List Int) :
  ((Throttle.new hitLimit rate).after times).Accounts hitLimit
      ((Throttle.new hitLimit rate).answers times)
    ∧ (((Throttle.new hitLimit rate).after times).isFinished = true
      ↔ ∃ limit ∈ hitLimit, ((Throttle.new hitLimit rate).after times).hits = limit.toNat)
    ∧ (((Throttle.new hitLimit rate).after times).isFinished = true → ∀ later,
      ((Throttle.new hitLimit rate).after times).answers later = List.replicate later.length false
        ∧ ((Throttle.new hitLimit rate).after times).after later
          = (Throttle.new hitLimit rate).after times)
    ∧ (Throttle.new hitLimit none).answers times
      = (List.range times.length).map fun i => decide (Throttle.Below hitLimit i)
  := by
  have accounts := (Throttle.Accounts.new hitLimit rate).after times
  refine ⟨accounts, accounts.isFinished_iff, ?_, ?_⟩
  · intro finished later
    exact Throttle.after_of_finished finished later
  · have unwindowed := Throttle.answers_of_unwindowed (t := .new hitLimit none) rfl rfl times
    have fresh : (Throttle.new hitLimit none).hits = 0 := rfl
    simpa only [fresh, Nat.zero_add] using unwindowed

/-- Two hits in all and one a second. The clock goes back before the second call, which the window
refuses, and the third one reaches the limit. -/
theorem calls_accounted_backwards :
  (Throttle.new (some 2) (some ⟨1, .second⟩)).answers [5000, 4000, 6000] = [true, false, true]
    ∧ ((Throttle.new (some 2) (some ⟨1, .second⟩)).after [5000, 4000, 6000]).hits = 2
    ∧ ((Throttle.new (some 2) (some ⟨1, .second⟩)).after [5000, 4000, 6000]).limited = 1
    ∧ ((Throttle.new (some 2) (some ⟨1, .second⟩)).after [5000, 4000, 6000]).isFinished = true
    ∧ ((Throttle.new (some 2) (some ⟨1, .second⟩)).after [5000, 4000, 6000]).answers [9000, 0]
      = [false, false]
    ∧ ((Throttle.new (some 2) (some ⟨1, .second⟩)).after [5000, 4000, 6000]).after [9000, 0]
      = (Throttle.new (some 2) (some ⟨1, .second⟩)).after [5000, 4000, 6000]
  := by
  obtain ⟨accounts, finished, stays, -⟩ :=
    calls_accounted (some 2) (some ⟨1, .second⟩) [5000, 4000, 6000]
  have answers : (Throttle.new (some 2) (some ⟨1, .second⟩)).answers [5000, 4000, 6000]
      = [true, false, true] := by decide
  rw [answers] at accounts
  have ended := finished.mpr ⟨2, rfl, accounts.hits⟩
  obtain ⟨refused, same⟩ := stays ended [9000, 0]
  exact ⟨answers, accounts.hits, accounts.limited, ended, refused, same⟩

end Instrumentation
