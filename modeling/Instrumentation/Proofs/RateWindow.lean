import Instrumentation.Throttle
import Mathlib.Tactic.Ring

/-!
# Rate windows

A window is opened by a call, and the next one by the first call after its step has passed. So the
openings lie a step apart at least, and as many windows can be opened between two times as steps fit
there, and one more. Each admits as many calls as its limit. Between two times there may be, besides,
what is left of a window that was opened before.
-/

namespace Instrumentation

/-- Times that do not go back, and whose differences the clock can hold. -/
def Timeline (times : List Int) : Prop :=
  times.Pairwise fun s t => s ≤ t ∧ t - s ≤ 9223372036854775807

instance (times : List Int) : Decidable (Timeline times) :=
  inferInstanceAs (Decidable (times.Pairwise _))

namespace Timeline

variable {start now s : Int} {times : List Int}

/-- The first time comes before the others. -/
theorem follows (h : Timeline (start :: times)) (mem : now ∈ times) :
  start ≤ now ∧ now - start ≤ 9223372036854775807
  := (List.pairwise_cons.mp h).1 now mem

/-- One of the first two times is left out. -/
theorem since (h : Timeline (start :: now :: times)) (since : s = start ∨ s = now) :
  Timeline (s :: times)
  := by
  rcases since with rfl | rfl
  · apply h.sublist ((List.sublist_cons_self now times).cons_cons s)
  · apply (List.pairwise_cons.mp h).2

/-- The first time is given twice. -/
theorem again (h : Timeline (now :: times)) :
  Timeline (now :: now :: times)
  := by
  apply List.pairwise_cons.mpr
  constructor
  · intro t mem
    rcases List.mem_cons.mp mem with rfl | mem
    · omega
    · apply h.follows mem
  · apply h

end Timeline

namespace RateWindow

variable {w : RateWindow} {L S left n : Nat} {start now a b : Int} {times : List Int}

/-- Differences that the clock can hold are seen as they are. -/
theorem elapsed_of_le (le : start ≤ now) (near : now - start ≤ 9223372036854775807) :
  elapsed start now = now - start
  := by
  have size : (UInt64.size : Int) = 18446744073709551616 := rfl
  rw [elapsed]
  apply Int.bmod_eq_of_le
  · omega
  · omega

/-! ### One call -/

/-- The window with a limit `L` and a step `S` was opened at `start` and admits so many calls
more. -/
structure IsOpen (w : RateWindow) (L S : Nat) (start : Int) (left : Nat) : Prop where
  /-- The limit of every window. -/
  limit : w.limit = L
  /-- The step of every window. -/
  step : w.step = S
  /-- The time of the call that opened the window. -/
  openedAt : w.openedAt = some start
  /-- What was admitted and what is left make up the limit. -/
  room : w.count + left = L

namespace IsOpen

/-- A call within the step finds the window as it is. -/
theorem refresh_within (h : w.IsOpen L S start left) (le : start ≤ now)
    (near : now - start ≤ 9223372036854775807) (within : now - start < S) :
  w.refresh now = w
  := by
  have lasts : ¬(w.step : Int) ≤ elapsed start now := by
    rw [h.step, elapsed_of_le le near]
    omega
  simp [refresh, isOver, h.openedAt, lasts]

/-- A call after the step opens the window anew. -/
theorem refresh_over (h : w.IsOpen L S start left) (near : now - start ≤ 9223372036854775807)
    (ended : S ≤ now - start) :
  (w.refresh now).IsOpen L S now L
  := by
  have passed : (w.step : Int) ≤ elapsed start now := by
    rw [h.step, elapsed_of_le (by omega) near]
    exact ended
  have anew : w.refresh now = { w with openedAt := some now, count := 0 } := by
    simp [refresh, isOver, h.openedAt, passed]
  rw [anew]
  exact ⟨h.limit, h.step, rfl, Nat.zero_add L⟩

/-- A call is admitted if some is left. -/
theorem pass_of_left (h : (w.refresh now).IsOpen L S start (n + 1)) :
  (w.pass now).1 = true ∧ (w.pass now).2.IsOpen L S start n
  := by
  have room := h.room
  have less : (w.refresh now).count < (w.refresh now).limit := by
    rw [h.limit]
    omega
  simp only [pass, if_pos less]
  refine ⟨trivial, h.limit, h.step, h.openedAt, ?_⟩
  dsimp only
  omega

/-- A call is refused if nothing is left. -/
theorem pass_of_none (h : (w.refresh now).IsOpen L S start 0) :
  (w.pass now).1 = false ∧ (w.pass now).2.IsOpen L S start 0
  := by
  have room := h.room
  have full : ¬(w.refresh now).count < (w.refresh now).limit := by
    rw [h.limit]
    omega
  simp only [pass, if_neg full]
  exact ⟨trivial, h⟩

/-- After a call, the window that is open was opened before or by that call. -/
theorem pass_open (h : w.IsOpen L S start left) (le : start ≤ now)
    (near : now - start ≤ 9223372036854775807) :
  ∃ s left', (s = start ∨ s = now) ∧ (w.pass now).2.IsOpen L S s left'
  := by
  obtain ⟨s, room, since, found⟩ :
      ∃ s room, (s = start ∨ s = now) ∧ (w.refresh now).IsOpen L S s room := by
    by_cases within : now - start < S
    · use start, left, .inl rfl
      rw [h.refresh_within le near within]
      apply h
    · use now, L, .inr rfl
      apply h.refresh_over near
      omega
  use s
  cases room with
  | zero => exact ⟨0, since, found.pass_of_none.2⟩
  | succ n => exact ⟨n, since, found.pass_of_left.2⟩

end IsOpen

/-- The first call of all opens the window. -/
theorem refresh_ofRate (rate : Rate) (now : Int) :
  ((ofRate rate).refresh now).IsOpen rate.limit.toNat rate.step.millis now rate.limit.toNat
  := ⟨rfl, rfl, rfl, Nat.zero_add _⟩

/-! ### Calls one after another -/

/-- The times of the calls that are admitted. -/
def admissions (w : RateWindow) : List Int → List Int
  | [] => []
  | now :: rest =>
    if (w.pass now).1 then now :: (w.pass now).2.admissions rest else (w.pass now).2.admissions rest

/-- The window after calls one after another. -/
def after (w : RateWindow) : List Int → RateWindow
  | [] => w
  | now :: rest => (w.pass now).2.after rest

namespace IsOpen

/-- A call that opens a window finds it open then. -/
theorem pass_refresh (h : (w.refresh now).IsOpen L S now left) (pos : 0 < S) :
  (w.refresh now).pass now = w.pass now
  := by
  rw [pass, pass, h.refresh_within (Int.le_refl now)]
  · omega
  · omega

/-- The call that opens a window may be taken for the first one in it. -/
theorem admissions_refresh (h : (w.refresh now).IsOpen L S now left) (pos : 0 < S) :
  (w.refresh now).admissions (now :: times) = w.admissions (now :: times)
  := by
  rw [admissions, admissions, h.pass_refresh pos]

/-- The window that is open later is the same then. -/
theorem after_refresh (h : (w.refresh now).IsOpen L S now left) (pos : 0 < S) :
  (w.refresh now).after (now :: times) = w.after (now :: times)
  := by
  rw [RateWindow.after, RateWindow.after, h.pass_refresh pos]

end IsOpen

/-- What is admitted is a part of the calls. -/
theorem admissions_sublist (w : RateWindow) (times : List Int) :
  (w.admissions times).Sublist times
  := by
  induction times generalizing w with
  | nil => apply List.Sublist.refl
  | cons now rest ih =>
    rw [admissions]
    split
    · apply (ih _).cons_cons
    · apply (ih _).cons

/-- No call is admitted before the first one. -/
theorem countP_before (timeline : Timeline (now :: times)) (lt : b < now) (w : RateWindow) :
  (w.admissions (now :: times)).countP (· ≤ b) = 0
  := by
  apply List.countP_eq_zero.mpr
  intro t mem
  have later : now ≤ t := by
    rcases List.mem_cons.mp ((w.admissions_sublist _).subset mem) with rfl | mem
    · apply Int.le_refl
    · exact (timeline.follows mem).1
  simp only [decide_eq_true_eq]
  omega

/-- A call changes the count of admissions by what is left. -/
theorem countP_pass (h : (w.refresh now).IsOpen L S start left) (p : Int → Bool) {k : Int}
    (rest : ∀ {w' left'}, IsOpen w' L S start left'
      → ((w'.admissions times).countP p : Int) ≤ left' + k) :
  ((w.admissions (now :: times)).countP p : Int) ≤ left + k
  := by
  rw [admissions]
  cases left with
  | zero =>
    obtain ⟨refused, still⟩ := h.pass_of_none
    rw [refused]
    apply rest still
  | succ n =>
    obtain ⟨admitted, still⟩ := h.pass_of_left
    have further := rest still
    rw [if_pos admitted, List.countP_cons]
    split
    · push_cast
      omega
    · push_cast
      omega

/-- What the windows admit that can be opened until `b` is no less than nothing. -/
theorem windows_nonneg (le : start ≤ b) (L S : Nat) :
  0 ≤ (L : Int) * ((b - start) / S)
  := by
  apply Int.mul_nonneg (Int.natCast_nonneg L)
  apply Int.ediv_nonneg
  · omega
  · apply Int.natCast_nonneg

/-- When a step has passed, one window less can be opened until `b`. -/
theorem windows_after (pos : 0 < S) (ended : S ≤ now - start) (b : Int) (L : Nat) :
  L + L * ((b - now) / S) ≤ L * ((b - start) / S)
  := by
  have step : (0 : Int) < S := by omega
  have fewer : (b - now) / S + 1 ≤ (b - start) / S := by
    rw [Int.le_ediv_iff_mul_le step, Int.add_mul, Int.one_mul]
    have whole := Int.ediv_mul_le (b - now) step.ne'
    omega
  calc (L : Int) + L * ((b - now) / S)
    _ = L * ((b - now) / S + 1) := by ring
    _ ≤ L * ((b - start) / S) := Int.mul_le_mul_of_nonneg_left fewer (Int.natCast_nonneg L)

/-- Within a step, one window more at most can be opened until `b`. -/
theorem windows_within (pos : 0 < S) (within : now - start < S) (b : Int) (L : Nat) :
  L * ((b - start) / S) ≤ L + L * ((b - now) / S)
  := by
  have step : (0 : Int) < S := by omega
  have more : (b - start) / S ≤ (b - now) / S + 1 := by
    rw [← Int.lt_add_one_iff, Int.ediv_lt_iff_lt_mul step, Int.add_mul, Int.add_mul, Int.one_mul]
    have rest := Int.lt_ediv_add_one_mul_self (b - now) step
    rw [Int.add_mul, Int.one_mul] at rest
    omega
  calc (L : Int) * ((b - start) / S)
    _ ≤ L * ((b - now) / S + 1) := Int.mul_le_mul_of_nonneg_left more (Int.natCast_nonneg L)
    _ = L + L * ((b - now) / S) := by ring

namespace IsOpen

/-- From an open window on, what is left of it is admitted, and a limit for each further step. -/
theorem countP_le (h : w.IsOpen L S start left) (pos : 0 < S)
    (timeline : Timeline (start :: times)) (le : start ≤ b) :
  ((w.admissions times).countP (· ≤ b) : Int) ≤ left + L * ((b - start) / S)
  := by
  induction times generalizing w start left with
  | nil =>
    have more := windows_nonneg le L S
    rw [admissions, List.countP_nil]
    omega
  | cons now rest ih =>
    obtain ⟨after, near⟩ := timeline.follows (.head rest)
    have later : Timeline (now :: rest) := timeline.since (.inr rfl)
    by_cases late : b < now
    · have more := windows_nonneg le L S
      rw [countP_before later late]
      omega
    by_cases within : now - start < S
    · have same : (w.refresh now).IsOpen L S start left := by
        rw [h.refresh_within after near within]
        exact h
      apply countP_pass same
      intro w' left' still
      apply ih still (timeline.since (.inl rfl)) le
    · have ended : S ≤ now - start := by omega
      have fewer := windows_after pos ended b L
      have counted : ((w.admissions (now :: rest)).countP (· ≤ b) : Int)
          ≤ L + L * ((b - now) / S) := by
        apply countP_pass (h.refresh_over near ended)
        intro w' left' anew
        apply ih anew later (by omega)
      omega

/-- From an open window on, what is left of it may be admitted between two times, and a limit for each
step that fits there, and one more. -/
theorem countP_between (h : w.IsOpen L S start left) (pos : 0 < S)
    (timeline : Timeline (start :: times)) (le : a ≤ b) :
  ((w.admissions times).countP (fun t => a ≤ t ∧ t ≤ b) : Int) ≤ L * ((b - a) / S + 2)
  := by
  have steps := windows_nonneg le L S
  rw [Int.mul_add]
  induction times generalizing w start left with
  | nil =>
    rw [admissions, List.countP_nil]
    omega
  | cons now rest ih =>
    obtain ⟨after, near⟩ := timeline.follows (.head rest)
    have later : Timeline (now :: rest) := timeline.since (.inr rfl)
    by_cases early : now < a
    · have skips : ((w.admissions (now :: rest)).countP fun t => a ≤ t ∧ t ≤ b)
          = (((w.pass now).2.admissions rest).countP fun t => a ≤ t ∧ t ≤ b) := by
        rw [admissions]
        split
        · apply List.countP_cons_of_neg
          simp only [decide_eq_true_eq]
          omega
        · rfl
      obtain ⟨s, left', since, still⟩ := h.pass_open after near
      rw [skips]
      apply ih still (timeline.since since)
    have fewer := List.countP_mono_left (l := w.admissions (now :: rest))
      (p := fun t => a ≤ t ∧ t ≤ b) (q := (· ≤ b)) (by simp)
    by_cases late : b < now
    · have none := countP_before later late w
      omega
    have since : (L : Int) * ((b - now) / S) ≤ L * ((b - a) / S) := by
      apply Int.mul_le_mul_of_nonneg_left _ (Int.natCast_nonneg L)
      apply Int.ediv_le_ediv
      · omega
      · omega
    by_cases within : now - start < S
    · have room := h.room
      have counted := h.countP_le pos timeline (b := b) (by omega)
      have more := windows_within pos within b L
      omega
    · have anew := h.refresh_over near (by omega)
      have counted := anew.countP_le pos later.again (b := b) (by omega)
      rw [anew.admissions_refresh pos] at counted
      omega

/-- After calls one after another, the window that is open was opened by one of them, or before. -/
theorem after (h : w.IsOpen L S start left) (timeline : Timeline (start :: times)) :
  ∃ s left', s ∈ start :: times ∧ (w.after times).IsOpen L S s left'
  := by
  induction times generalizing w start left with
  | nil => exact ⟨start, left, .head [], h⟩
  | cons now rest ih =>
    obtain ⟨after, near⟩ := timeline.follows (.head rest)
    obtain ⟨s, left', since, still⟩ := h.pass_open after near
    obtain ⟨s', left'', mem, found⟩ := ih still (timeline.since since)
    refine ⟨s', left'', ?_, found⟩
    rcases List.mem_cons.mp mem with rfl | mem
    · rcases since with rfl | rfl
      · apply List.mem_cons_self
      · apply List.mem_cons_of_mem _ List.mem_cons_self
    · apply List.mem_cons_of_mem _ (List.mem_cons_of_mem _ mem)

end IsOpen

end RateWindow

/-! ### The throttle of an instrument -/

namespace Throttle

variable {t : Throttle} {w : RateWindow} {times : List Int}

/-- The times of the calls that are admitted. -/
def admissions (t : Throttle) : List Int → List Int
  | [] => []
  | now :: rest =>
    if (t.allow now).1 then now :: (t.allow now).2.admissions rest
    else (t.allow now).2.admissions rest

/-- The throttle after calls one after another. -/
def after (t : Throttle) : List Int → Throttle
  | [] => t
  | now :: rest => (t.allow now).2.after rest

/-- Without a limit on all hits, the rate window alone decides. -/
theorem allow_of_window (unlimited : t.hitLimit = none) (windowed : t.window = some w) (now : Int) :
  (t.allow now).1 = (w.pass now).1 ∧ (t.allow now).2.hitLimit = none
    ∧ (t.allow now).2.window = some (w.pass now).2
  := by
  have unfinished : ¬t.isFinished = true := by simp [isFinished, unlimited]
  rw [allow, if_neg unfinished, windowed]
  dsimp only
  split
  next admitted => exact ⟨admitted.symm, unlimited, rfl⟩
  next refused => exact ⟨(eq_false_of_ne_true refused).symm, unlimited, rfl⟩

/-- What the rate window admits is admitted. -/
theorem admissions_of_window (unlimited : t.hitLimit = none) (windowed : t.window = some w) :
  t.admissions times = w.admissions times
  := by
  induction times generalizing t w with
  | nil => rfl
  | cons now rest ih =>
    obtain ⟨same, unlimited', windowed'⟩ := allow_of_window unlimited windowed now
    rw [admissions, RateWindow.admissions, same, ih unlimited' windowed']

/-- The rate window after calls one after another. -/
theorem after_of_window (unlimited : t.hitLimit = none) (windowed : t.window = some w)
    (times : List Int) :
  (t.after times).hitLimit = none ∧ (t.after times).window = some (w.after times)
  := by
  induction times generalizing t w with
  | nil => exact ⟨unlimited, windowed⟩
  | cons now rest ih =>
    obtain ⟨-, unlimited', windowed'⟩ := allow_of_window unlimited windowed now
    apply ih unlimited' windowed'

end Throttle

/-- The length of a step is positive. -/
theorem Step.millis_pos (step : Step) :
  0 < step.millis
  := by
  cases step <;> decide

/-- After calls one after another, a call that comes a step after the one that opened the window is
admitted, unless the limit is zero. -/
theorem RateWindow.pass_anew {rate : Rate} {earlier later : List Int} {now start : Int}
    (timeline : Timeline (earlier ++ now :: later))
    (opened : ((ofRate rate).after earlier).openedAt = some start) (positive : 1 ≤ rate.limit)
    (ended : start + rate.step.millis ≤ now) :
  (((ofRate rate).after earlier).pass now).1 = true
  := by
  cases earlier with
  | nil => cases opened
  | cons t₀ rest =>
    have opens := refresh_ofRate rate t₀
    obtain ⟨before, -, apart⟩ := List.pairwise_append.mp timeline
    obtain ⟨s, left, mem, found⟩ := opens.after (Timeline.again before)
    rw [opens.after_refresh rate.step.millis_pos] at found
    obtain rfl := Option.some.inj (opened.symm.trans found.openedAt)
    have near : now - start ≤ 9223372036854775807 :=
      (apart start (by simpa using mem) now List.mem_cons_self).2
    have anew := found.refresh_over near (by omega)
    have admits : 1 ≤ rate.limit.toNat := UInt32.le_iff_toNat_le.mp positive
    obtain ⟨n, limit⟩ := Nat.exists_eq_add_of_le' admits
    rw [limit] at anew
    apply anew.pass_of_left.1

/-- A rate bounds the calls that are admitted between two times by its limit for each step that fits
there and two more, and those from the first call on by its limit for each step and one more. A call
that comes a step after the one that opened the window is admitted, unless the limit is zero. -/
theorem admissions_bounded (rate : Rate) {times : List Int} (timeline : Timeline times) :
  (∀ a b, a ≤ b → (((Throttle.new none (some rate)).admissions times).countP
      (fun t => a ≤ t ∧ t ≤ b) : Int) ≤ rate.limit.toNat * ((b - a) / rate.step.millis + 2))
    ∧ (∀ t₀ b, times.head? = some t₀ → t₀ ≤ b
      → (((Throttle.new none (some rate)).admissions times).countP (· ≤ b) : Int)
        ≤ rate.limit.toNat * ((b - t₀) / rate.step.millis + 1))
    ∧ ∀ earlier now later w start, times = earlier ++ now :: later
      → ((Throttle.new none (some rate)).after earlier).window = some w → w.openedAt = some start
      → 1 ≤ rate.limit → start + rate.step.millis ≤ now
      → (((Throttle.new none (some rate)).after earlier).allow now).1 = true
  := by
  have pos := rate.step.millis_pos
  rw [Throttle.admissions_of_window (t := .new none (some rate)) rfl rfl]
  refine ⟨?_, ?_, ?_⟩
  · intro a b le
    cases times with
    | nil =>
      have steps := RateWindow.windows_nonneg le rate.limit.toNat rate.step.millis
      rw [RateWindow.admissions, List.countP_nil, Int.mul_add]
      omega
    | cons t₀ rest =>
      have opens := RateWindow.refresh_ofRate rate t₀
      rw [← opens.admissions_refresh pos]
      apply opens.countP_between pos timeline.again le
  · intro t₀ b first le
    cases times with
    | nil => cases first
    | cons t₀' rest =>
      obtain rfl := Option.some.inj first
      have opens := RateWindow.refresh_ofRate rate t₀'
      have counted := opens.countP_le pos timeline.again le
      rw [← opens.admissions_refresh pos, Int.mul_add]
      omega
  · intro earlier now later w start split windowed opened positive ended
    obtain ⟨unlimited, window⟩ :=
      Throttle.after_of_window (t := .new none (some rate)) rfl rfl earlier
    obtain rfl := Option.some.inj (window.symm.trans windowed)
    rw [(Throttle.allow_of_window unlimited window now).1]
    subst split
    apply RateWindow.pass_anew timeline opened positive ended

/-- Two calls a second, at five times. The bounds are reached from the first call on, and the window
is opened anew a second after the first call. -/
theorem admissions_bounded_bursts :
  Timeline [0, 900, 950, 1000, 1001]
    ∧ (Throttle.new none (some ⟨2, .second⟩)).admissions [0, 900, 950, 1000, 1001]
      = [0, 900, 1000, 1001]
    ∧ ((([0, 900, 1000, 1001] : List Int).countP fun t => 900 ≤ t ∧ t ≤ 1001) : Int)
      ≤ 2 * ((1001 - 900) / 1000 + 2)
    ∧ (([0, 900, 1000, 1001] : List Int).countP (· ≤ 1001) : Int) ≤ 2 * ((1001 - 0) / 1000 + 1)
    ∧ (((Throttle.new none (some ⟨2, .second⟩)).after [0, 900, 950]).allow 1000).1 = true
  := by
  have timeline : Timeline [0, 900, 950, 1000, 1001] := by decide
  have admitted : (Throttle.new none (some ⟨2, .second⟩)).admissions [0, 900, 950, 1000, 1001]
      = [0, 900, 1000, 1001] := by decide
  obtain ⟨between, since, anew⟩ := admissions_bounded ⟨2, .second⟩ timeline
  rw [admitted] at between since
  refine ⟨timeline, admitted, between 900 1001 (by decide), since 0 1001 rfl (by decide), ?_⟩
  apply anew [0, 900, 950] 1000 [1001] _ 0 rfl rfl rfl (by decide) (by decide)

end Instrumentation
