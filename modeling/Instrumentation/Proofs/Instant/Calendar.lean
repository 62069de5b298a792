import Instrumentation.Instant.Calendar
import Mathlib.Tactic.Common
import Mathlib.Tactic.IntervalCases

/-!
# Days and dates

Every day has a date that exists, and the date leads back to the day. An era of 400 years is taken
apart into centuries, groups of four years, years and days, which are all counted from the first of
March. A year has a last day more just if it ends with a leap day, and the months before that one
follow a line in their lengths.
-/

namespace Instrumentation

namespace Date

/-! ### The days of an era -/

/-- A day of an era, told by its century, its group of four years, its year in the group and its
place in the year. -/
structure Counts (day century group year left : Nat) : Prop where
  /-- All days before it are counted. -/
  total : day = 36524 * century + 1461 * group + 365 * year + left
  /-- An era has four centuries. -/
  century_le : century ≤ 3
  /-- A century has 25 groups of years. -/
  group_le : group ≤ 24
  /-- A group has four years. -/
  year_le : year ≤ 3
  /-- A year has 366 days at most. -/
  left_le : left ≤ 365
  /-- The last day of such a year ends a group, and if it ends a century it ends the era. -/
  leap : left = 365 → year = 3 ∧ (group = 24 → century = 3)

/-- Every day of an era can be told so. -/
theorem exists_counts {day : Nat} (lt : day < 146097) :
  ∃ century group year left, Counts day century group year left
  := by
  -- the last century, and the last year of a group, have one day more than the others
  let century := min (day / 36524) 3
  let group := (day - 36524 * century) / 1461
  let year := min ((day - 36524 * century) % 1461 / 365) 3
  use century, group, year, (day - 36524 * century) % 1461 - 365 * year
  constructor <;> omega

namespace Counts

variable {day century group year left : Nat}

/-- The year of the era, as it is computed from the day. -/
theorem ofEra (h : Counts day century group year left) :
  (day - day / 1460 + day / 36524 - day / 146096) / 365 = 100 * century + 4 * group + year
  := by
  obtain ⟨total, century_le, group_le, year_le, left_le, leap⟩ := h
  have centuries : day / 36524 - day / 146096 = century := by omega
  rcases Nat.lt_or_ge (24 * century + group + 365 * year + left) 1460 with early | late
  · have groups : day / 1460 = 25 * century + group := by omega
    omega
  · have groups : day / 1460 = 25 * century + group + 1 := by omega
    omega

/-- The days before the year of the era, as they are computed from the year. -/
theorem beforeYear (h : Counts day century group year left) {n : Nat}
    (same : n = 100 * century + 4 * group + year) :
  365 * n + n / 4 - n / 100 = day - left ∧ n ≤ 399
  := by
  obtain ⟨total, century_le, group_le, year_le, -, -⟩ := h
  omega

end Counts

/-! ### The months of a year -/

/-- The month in which a day of the year lies, from March on. -/
def monthOf (left : Nat) : Nat := (5 * left + 2) / 153

/-- The days of the year before a month. -/
def beforeMonth (month : Nat) : Nat := (153 * month + 2) / 5

/-- A day lies in one of twelve months, after the days before it. -/
theorem monthOf_spec {left : Nat} (le : left ≤ 365) :
  monthOf left ≤ 11 ∧ beforeMonth (monthOf left) ≤ left
    ∧ left < beforeMonth (monthOf left + 1)
  := by
  rw [monthOf, beforeMonth, beforeMonth]
  omega

/-- The date of a day of a year that begins with the first of March. -/
def ofMarch (year : Int) (left : Nat) : Date :=
  let month := monthOf left
  { year := year + if month < 10 then 0 else 1
    month := if month < 10 then month + 3 else month - 9
    day := left - beforeMonth month + 1 }

/-- The month of such a date is counted back from March. -/
theorem month_ofMarch {left : Nat} (le : left ≤ 365) (year : Int) :
  (if (ofMarch year left).month ≤ 2 then (ofMarch year left).month + 9
    else (ofMarch year left).month - 3) = monthOf left
  := by
  obtain ⟨month_le, -, -⟩ := monthOf_spec le
  simp only [ofMarch]
  by_cases early : monthOf left < 10
  · simp only [if_pos early]
    split
    · omega
    · omega
  · simp only [if_neg early]
    split
    · omega
    · omega

/-- The year of such a date is counted back from March. -/
theorem year_ofMarch {left : Nat} (le : left ≤ 365) (year : Int) :
  (if (ofMarch year left).month ≤ 2 then (ofMarch year left).year - 1
    else (ofMarch year left).year) = year
  := by
  obtain ⟨month_le, -, -⟩ := monthOf_spec le
  simp only [ofMarch]
  by_cases early : monthOf left < 10
  · simp only [if_pos early]
    omega
  · simp only [if_neg early]
    omega

/-- The days to such a date are those of the eras, of the years and of the year. -/
theorem toDays_ofMarch {era : Int} {n left : Nat} (year : n ≤ 399) (le : left ≤ 365) :
  (ofMarch (era * 400 + n) left).toDays
    = era * eraDays + (n * 365 + n / 4 - n / 100 + left) - epochShift
  := by
  obtain ⟨-, before, -⟩ := monthOf_spec le
  rw [toDays, year_ofMarch le, month_ofMarch le]
  have eras : (era * 400 + n) / 400 = era := by omega
  have years : (era * 400 + n) % 400 = n := by omega
  have days : (153 * (monthOf left : Int) + 2) / 5 + ((ofMarch (era * 400 + n) left).day : Int) - 1
      = left := by
    simp only [ofMarch, beforeMonth] at before ⊢
    omega
  simp only [eras, years, days]

/-- The months but the last one, which is February, are as long as they are every year. -/
theorem monthDays_early {month : Nat} (early : month ≤ 10) (year : Int) :
  monthDays year (if month < 10 then month + 3 else month - 9)
    = beforeMonth (month + 1) - beforeMonth month
  := by
  interval_cases month
  all_goals rfl

/-- No month has more than 31 days. -/
theorem monthDays_le (year : Int) (month : Nat) :
  monthDays year month ≤ 31
  := by
  rw [monthDays]
  split
  · split <;> decide
  · split <;> decide

/-- A date exists if its month does, and its day in that month. -/
theorem isValid_iff {d : Date} :
  d.isValid = true
    ↔ (1 ≤ d.month ∧ d.month ≤ 12) ∧ 1 ≤ d.day ∧ d.day ≤ monthDays d.year d.month
  := by simp [isValid, and_assoc]

/-- A date that exists has a month of twelve, and a day of 31. -/
theorem bounds_of_isValid {d : Date} (valid : d.isValid = true) :
  (1 ≤ d.month ∧ d.month ≤ 12) ∧ 1 ≤ d.day ∧ d.day ≤ 31
  := by
  obtain ⟨month, day, le⟩ := isValid_iff.mp valid
  use month, day
  exact le.trans (monthDays_le d.year d.month)

/-- Such a date exists, if a year of 366 days ends with a leap day. -/
theorem isValid_ofMarch {left : Nat} {year : Int} (le : left ≤ 365)
    (leap : left = 365 → isLeap (year + 1) = true) :
  (ofMarch year left).isValid = true
  := by
  obtain ⟨month_le, before, after⟩ := monthOf_spec le
  have months : 1 ≤ (if monthOf left < 10 then monthOf left + 3 else monthOf left - 9)
      ∧ (if monthOf left < 10 then monthOf left + 3 else monthOf left - 9) ≤ 12 := by
    split
    · omega
    · omega
  apply isValid_iff.mpr
  use months, Nat.le_add_left _ _
  rcases Nat.lt_or_ge (monthOf left) 11 with early | late
  · change left - beforeMonth (monthOf left) + 1 ≤ monthDays _ (if _ then _ else _)
    rw [monthDays_early (by omega)]
    omega
  · have february : monthOf left = 11 := by omega
    simp only [ofMarch, february]
    change left - 337 + 1 ≤ if isLeap (year + 1) then 29 else 28
    split
    next => omega
    next common =>
      have lt : left ≠ 365 := fun last => common (leap last)
      omega

/-! ### Days and dates -/

/-- A day lies in an era, in a year of the era and in a place of the year, and has the date of that
place. -/
theorem exists_ofMarch (days : Int) :
  ∃ (era : Int) (n left : Nat), n ≤ 399 ∧ left ≤ 365
    ∧ (left = 365 → isLeap (era * 400 + n + 1) = true)
    ∧ days = era * eraDays + (n * 365 + n / 4 - n / 100 + left) - epochShift
    ∧ ofDays days = ofMarch (era * 400 + n) left
  := by
  have split := Int.mul_ediv_add_emod (days + epochShift) eraDays
  have nonneg : 0 ≤ (days + epochShift) % eraDays := Int.emod_nonneg _ (by decide)
  have lt : (days + epochShift) % eraDays < 146097 := Int.emod_lt_of_pos _ (by decide)
  rw [ofDays]
  generalize (days + epochShift) / eraDays = era at split ⊢
  generalize (days + epochShift) % eraDays = ofEra at split nonneg lt ⊢
  obtain ⟨day, rfl⟩ := Int.eq_ofNat_of_zero_le nonneg
  obtain ⟨century, group, year, left, counts⟩ := exists_counts (Int.ofNat_lt.mp lt)
  obtain ⟨before, year_le⟩ := counts.beforeYear rfl
  use era, 100 * century + 4 * group + year, left, year_le, counts.left_le
  have after : left ≤ day := by
    rw [counts.total]
    omega
  constructor
  · intro last
    obtain ⟨last, ends⟩ := counts.leap last
    have group_le := counts.group_le
    have century_le := counts.century_le
    simp only [isLeap, Bool.and_eq_true, Bool.or_eq_true, decide_eq_true_eq]
    omega
  · constructor
    · rw [eraDays] at split ⊢
      omega
    · have place : day - (365 * (100 * century + 4 * group + year)
          + (100 * century + 4 * group + year) / 4 - (100 * century + 4 * group + year) / 100)
            = left := by
        rw [before]
        omega
      simp only [Int.toNat_natCast, counts.ofEra, place]
      rfl

/-- The date of a day leads back to it. -/
theorem toDays_ofDays (days : Int) :
  (ofDays days).toDays = days
  := by
  obtain ⟨era, n, left, year_le, left_le, -, counted, date⟩ := exists_ofMarch days
  rw [date, toDays_ofMarch year_le left_le, counted]

/-- The date of a day exists. -/
theorem isValid_ofDays (days : Int) :
  (ofDays days).isValid = true
  := by
  obtain ⟨era, n, left, -, left_le, leap, -, date⟩ := exists_ofMarch days
  rw [date]
  exact isValid_ofMarch left_le leap

/-- The days of the calendar have dates from the year -262143 to the year 262142. -/
theorem year_ofDays {days : Int} (begins : -96465292 ≤ days) (ends : days < 95026237) :
  -262143 ≤ (ofDays days).year ∧ (ofDays days).year ≤ 262142
  := by
  obtain ⟨era, n, left, year_le, left_le, -, counted, date⟩ := exists_ofMarch days
  rw [eraDays, epochShift] at counted
  -- the first day lies in the year 256 of its era, and the last one in the year 142 of its era
  have eras : -656 ≤ era ∧ era ≤ 655 := by omega
  have first : era = -656 → 256 ≤ n ∧ (n = 256 → 306 ≤ left) := by omega
  have last : era = 655 → n ≤ 142 ∧ (n = 142 → left < 306) := by omega
  simp only [date, ofMarch]
  by_cases early : monthOf left < 10
  · rw [if_pos early]
    rw [monthOf] at early
    omega
  · rw [if_neg early]
    rw [monthOf] at early
    omega

end Date

end Instrumentation
