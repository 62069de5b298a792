import Instrumentation.Power
import Instrumentation.Instant
import Instrumentation.Instant.Calendar
import Instrumentation.Decimal
import Instrumentation.Text.Blank

/-!
# Dates and times as text

An instant is written in universal time with as many groups of three fraction digits as it
needs. The reader takes any offset from universal time, allows blanks before each number and
each mark, and takes a space for the letter between date and time.
-/

namespace Instrumentation

/-- A reason why a text is no date and time. -/
inductive DateProblem where
  /-- A number is larger or smaller than its place allows. -/
  | outOfRange
  /-- The date and time lie outside the calendar once the offset is taken off. -/
  | impossible
  /-- A character stands where it must not. -/
  | invalid
  /-- The text ends too early. -/
  | tooShort
  /-- The text goes on after its end. -/
  | tooLong
deriving DecidableEq

namespace DateProblem

/-- The wording of a reason. -/
def message : DateProblem → String
  | outOfRange => "input is out of range"
  | impossible => "no possible date and time matching input"
  | invalid => "input contains invalid characters"
  | tooShort => "premature end of input"
  | tooLong => "trailing input"

end DateProblem

namespace Instant.Rfc3339

/-- Seconds of a day. -/
def daySeconds : Int := 86400

/-- A number in at least `width` digits. -/
def padded (width n : Nat) : List Char :=
  let ds := Decimal.digits n
  List.replicate (width - ds.length) '0' ++ ds

/-- A year: four digits, and a sign for one that needs more or lies before the year zero. -/
def year (y : Int) : List Char :=
  if 0 ≤ y ∧ y ≤ 9999 then padded 4 y.toNat
  else (if y < 0 then '-' else '+') :: padded 4 y.natAbs

/-- The fraction of a second in none, three, six or nine digits. -/
def fraction (nanos : Nat) : List Char :=
  if nanos = 0 then []
  else if nanos % 1000000 = 0 then '.' :: padded 3 (nanos / 1000000)
  else if nanos % 1000 = 0 then '.' :: padded 6 (nanos / 1000)
  else '.' :: padded 9 nanos

/-- The text of an instant. -/
def format (t : Instant) : String :=
  let date := Date.ofDays (t.seconds / daySeconds)
  let second := (t.seconds % daySeconds).toNat
  let leap := if 1000000000 ≤ t.nanos then 1 else 0
  String.ofList <|
    year date.year ++ '-' :: padded 2 date.month ++ '-' :: padded 2 date.day
      ++ 'T' :: padded 2 (second / 3600) ++ ':' :: padded 2 (second / 60 % 60)
      ++ ':' :: padded 2 (second % 60 + leap) ++ fraction (t.nanos % 1000000000) ++ ['Z']

/-- A reader of the front of a text. -/
abbrev Scan (α : Type) := List Char → Except DateProblem (α × List Char)

/-- The number at the front, of one to `most` digits. -/
def number (most : Nat) : Scan Nat
  | [] => .error .tooShort
  | c :: cs =>
    if c.isDigit then
      let ds := (c :: cs).take most |>.takeWhile Char.isDigit
      .ok (ds.foldl (fun n d => 10 * n + (d.toNat - '0'.toNat)) 0, (c :: cs).drop ds.length)
    else .error .invalid

/-- A number of up to `most` digits within bounds, after blanks. -/
def bounded (most least greatest : Nat) : Scan Nat := fun cs => do
  let (n, rest) ← number most (Text.trimStart cs)
  if least ≤ n ∧ n ≤ greatest then return (n, rest) else throw .outOfRange

/-- A year: four digits at most, or a sign and any digits. -/
def scanYear : Scan Int := fun cs => do
  let cs := Text.trimStart cs
  let (y, rest) ←
    match cs with
    | '-' :: rest => (number rest.length rest).map fun (n, rest) => (-(n : Int), rest)
    | '+' :: rest => (number rest.length rest).map fun (n, rest) => ((n : Int), rest)
    | cs => (number 4 cs).map fun (n, rest) => ((n : Int), rest)
  if -2147483648 ≤ y ∧ y < 2147483648 then return (y, rest) else throw .outOfRange

/-- A mark, after blanks. -/
def mark (m : Char) : Scan Unit := fun cs =>
  match Text.trimStart cs with
  | [] => .error .tooShort
  | c :: rest => if c = m then .ok ((), rest) else .error .invalid

/-- The nanoseconds of a fraction, if there is one. Digits after the ninth are passed over. -/
def scanFraction : Scan Nat
  | '.' :: cs => do
    let (n, rest) ← number 9 cs
    return (n * powerOfTen (9 - (cs.length - rest.length)), rest.dropWhile Char.isDigit)
  | cs => .ok (0, cs)

/-- Two digits, the first at most `upper`. A last character counts as two if it takes more than
a byte. -/
def twoDigits (upper : Char) : Scan Nat
  | c :: d :: rest =>
    if c.isDigit ∧ d.isDigit then
      if c ≤ upper then .ok (10 * (c.toNat - '0'.toNat) + (d.toNat - '0'.toNat), rest)
      else .error .outOfRange
    else .error .invalid
  | [c] => if c.utf8Size = 1 then .error .tooShort else .error .invalid
  | [] => .error .tooShort

/-- The hours and minutes of an offset after its sign, in seconds. -/
def offsetSeconds : Scan Int := fun cs => do
  let (hours, rest) ← twoDigits '9' cs
  let (minutes, rest) ← twoDigits '5' (rest.dropWhile fun c => c = ':' || Text.isBlank c)
  return (hours * 3600 + minutes * 60, rest)

/-- The offset from universal time, after blanks. -/
def scanOffset : Scan Int := fun cs =>
  match Text.trimStart cs with
  | [] => .error .tooShort
  | c :: rest =>
    if ((c :: rest).take 3).map Char.toLower = ['u', 't', 'c'] then .ok (0, rest.drop 2)
    else if c = 'Z' ∨ c = 'z' then .ok (0, rest)
    else if c = '+' then offsetSeconds rest
    else if c = '-' ∨ c = '\u2212' then (offsetSeconds rest).map fun (n, rest) => (-n, rest)
    else .error .invalid

/-- The letter or space between date and time. -/
def separator : Scan Unit
  | [] => .error .tooShort
  | c :: rest => if c = 'T' ∨ c = 't' ∨ c = ' ' then .ok ((), rest) else .error .invalid

/-- The years of the calendar. -/
def inCalendar (y : Int) : Bool := -262143 ≤ y && y ≤ 262142

/-- The instant that a text writes. -/
def parse (s : String) : Except DateProblem Instant := do
  let (year, cs) ← scanYear s.toList
  let (_, cs) ← mark '-' cs
  let (month, cs) ← bounded 2 1 12 cs
  let (_, cs) ← mark '-' cs
  let (day, cs) ← bounded 2 1 31 cs
  let (_, cs) ← separator cs
  let (hour, cs) ← bounded 2 0 23 cs
  let (_, cs) ← mark ':' cs
  let (minute, cs) ← bounded 2 0 59 cs
  let (_, cs) ← mark ':' cs
  let (second, cs) ← bounded 2 0 60 cs
  let (nanos, cs) ← scanFraction cs
  let (offset, cs) ← scanOffset cs
  if ¬(Text.trimStart cs).isEmpty then throw .tooLong
  let date : Date := ⟨year, month, day⟩
  if ¬(date.isValid && inCalendar year) then throw .outOfRange
  if ¬offset.natAbs < 86400 then throw .outOfRange
  let leap := second = 60
  let seconds :=
    date.toDays * daySeconds + hour * 3600 + minute * 60 + (if leap then 59 else second) - offset
  match Instant.ofParts? seconds (if leap then nanos + 1000000000 else nanos) with
  | some t => return t
  | none => throw .impossible

/-- An instant given as text. -/
def decode : Decoder Instant
  | .string s =>
    match parse s with
    | .ok t => .ok t
    | .error problem => .error (.unreadableDate problem.message)
  | v => .error (.invalidType v "an RFC 3339 formatted date and time string")

end Instant.Rfc3339

end Instrumentation
