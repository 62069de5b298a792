/-!
# The calendar

Days counted from the start of 1970 and dates of the Gregorian calendar, extended to all
years. The count runs in eras of 400 years that begin with the first of March, so that the leap
day comes last.
-/

namespace Instrumentation

/-- A date. -/
structure Date where
  /-- The year, zero and below included. -/
  year : Int
  /-- The month, from one. -/
  month : Nat
  /-- The day of the month, from one. -/
  day : Nat
deriving DecidableEq, Inhabited

namespace Date

/-- The days from the first of March of the year zero to the start of 1970. -/
def epochShift : Int := 719468

/-- The days of 400 years. -/
def eraDays : Int := 146097

/-- The leap years. -/
def isLeap (year : Int) : Bool := year % 4 = 0 && (year % 100 ≠ 0 || year % 400 = 0)

/-- The length of a month. -/
def monthDays (year : Int) (month : Nat) : Nat :=
  if month = 2 then (if isLeap year then 29 else 28)
  else if month = 4 ∨ month = 6 ∨ month = 9 ∨ month = 11 then 30
  else 31

/-- A date that exists. -/
def isValid (d : Date) : Bool :=
  1 ≤ d.month && d.month ≤ 12 && 1 ≤ d.day && d.day ≤ monthDays d.year d.month

/-- The days from the start of 1970 to a date. -/
def toDays (d : Date) : Int :=
  let year := if d.month ≤ 2 then d.year - 1 else d.year
  let era := year / 400
  let ofEra := year % 400
  let month := if d.month ≤ 2 then d.month + 9 else d.month - 3
  let ofYear : Int := (153 * month + 2) / 5 + d.day - 1
  era * eraDays + (ofEra * 365 + ofEra / 4 - ofEra / 100 + ofYear) - epochShift

/-- The date so many days from the start of 1970. -/
def ofDays (days : Int) : Date :=
  let shifted := days + epochShift
  let era := shifted / eraDays
  let day := (shifted % eraDays).toNat
  let ofEra := (day - day / 1460 + day / 36524 - day / 146096) / 365
  let ofYear := day - (365 * ofEra + ofEra / 4 - ofEra / 100)
  let month := (5 * ofYear + 2) / 153
  { year := era * 400 + ofEra + if month < 10 then 0 else 1
    month := if month < 10 then month + 3 else month - 9
    day := ofYear - (153 * month + 2) / 5 + 1 }

end Date

end Instrumentation
