import Instrumentation.Instant.Rfc3339
import Instrumentation.Proofs.Instant.Calendar
import Instrumentation.Proofs.Json.Decode

/-!
# Instants read back from text

The text of an instant is read back as that instant, whatever its year and however many digits its
fraction needs. Every part of the text is read back by the reader of its place, which stops where the
part ends: a number of fixed width fills its place, and a number of any width is followed by a mark.
-/

namespace Instrumentation.Instant.Rfc3339

/-! ### Numbers -/

variable {width most n : Nat} {rest : List Char}

/-- The text does not go on with a digit. -/
def Stops (cs : List Char) : Prop := ∀ c, cs.head? = some c → c.isDigit = false

/-- A text that goes on with a mark. -/
theorem stops_cons {c : Char} (mark : c.isDigit = false) (rest : List Char) :
  Stops (c :: rest)
  := by
  rintro _ ⟨⟩
  exact mark

/-- A digit is not blank. -/
theorem isBlank_of_isDigit {c : Char} (digit : c.isDigit = true) :
  Text.isBlank c = false
  := by
  simp only [Char.isDigit, Bool.and_eq_true, decide_eq_true_eq, ge_iff_le, UInt32.le_iff_toNat_le]
    at digit
  obtain ⟨ge, le⟩ := digit
  change 48 ≤ c.toNat at ge
  change c.toNat ≤ 57 at le
  simp only [Text.isBlank, Bool.or_eq_false_iff, Bool.and_eq_false_iff, decide_eq_false_iff_not,
    beq_eq_false_iff_ne]
  omega

/-- No blanks are taken off a text that starts with none. -/
theorem trimStart_cons {c : Char} (solid : Text.isBlank c = false) (cs : List Char) :
  Text.trimStart (c :: cs) = c :: cs
  := by
  rw [Text.trimStart, List.dropWhile_cons, solid]
  rfl

/-- No blanks are taken off a text that starts with digits. -/
theorem trimStart_digits {ds : List Char} (some : ds ≠ []) (digits : ∀ c ∈ ds, c.isDigit = true)
    (rest : List Char) :
  Text.trimStart (ds ++ rest) = ds ++ rest
  := by
  obtain ⟨c, cs, rfl⟩ := List.exists_cons_of_ne_nil some
  apply trimStart_cons
  exact isBlank_of_isDigit (digits c List.mem_cons_self)

/-- Digits at the front are all that is taken, as many as may be. -/
theorem takeWhile_digits {ds : List Char} (digits : ∀ c ∈ ds, c.isDigit = true)
    (fits : ds.length ≤ most) (stops : ds.length = most ∨ Stops rest) :
  ((ds ++ rest).take most).takeWhile Char.isDigit = ds
  := by
  have others : (rest.take (most - ds.length)).takeWhile Char.isDigit = [] := by
    rcases stops with full | stops
    · rw [full, Nat.sub_self, List.take_zero, List.takeWhile_nil]
    · cases rest with
      | nil => simp
      | cons c rest =>
        cases most - ds.length with
        | zero => rfl
        | succ k => rw [List.take_succ_cons, List.takeWhile_cons, stops c rfl]; rfl
  rw [List.take_append, List.take_of_length_le fits, List.takeWhile_append_of_pos digits, others,
    List.append_nil]

/-- Digits are read to their end, if there are as many as may be or no digit follows. -/
theorem number_digits {ds : List Char} (some : ds ≠ []) (digits : ∀ c ∈ ds, c.isDigit = true)
    (fits : ds.length ≤ most) (stops : ds.length = most ∨ Stops rest) :
  number most (ds ++ rest) = .ok (Nat.ofDigitChars 10 ds 0, rest)
  := by
  have taken := takeWhile_digits digits fits stops
  obtain ⟨c, cs, rfl⟩ := List.exists_cons_of_ne_nil some
  rw [List.cons_append] at taken ⊢
  rw [number, if_pos (digits c List.mem_cons_self), taken]
  dsimp only
  rw [← List.cons_append, List.drop_left]
  rfl

/-- Leading zeros do not count. -/
theorem ofDigitChars_zeros (k : Nat) (ds : List Char) :
  Nat.ofDigitChars 10 (List.replicate k '0' ++ ds) 0 = Nat.ofDigitChars 10 ds 0
  := by
  induction k with
  | zero => rfl
  | succ k ih => exact ih

/-- A padded number is written in digits. -/
theorem isDigit_of_mem_padded {c : Char} (mem : c ∈ padded width n) :
  c.isDigit = true
  := by
  rcases List.mem_append.mp mem with mem | mem
  · obtain ⟨-, rfl⟩ := List.mem_replicate.mp mem
    rfl
  · exact Nat.isDigit_of_mem_toDigits (by decide) (by decide) mem

/-- A padded number has the value of the number. -/
theorem ofDigitChars_padded :
  Nat.ofDigitChars 10 (padded width n) 0 = n
  := by
  rw [padded, ofDigitChars_zeros]
  exact Nat.ofDigitChars_toDigits (by decide) (by decide)

/-- A number that is not too large for its place fills it. -/
theorem length_padded (place : 0 < width) (lt : n < 10 ^ width) :
  (padded width n).length = width
  := by
  have fits := (Nat.length_toDigits_le_iff (by decide) place).mpr lt
  rw [padded, List.length_append, List.length_replicate, Decimal.digits]
  omega

/-- A padded number is not empty. -/
theorem padded_ne_nil :
  padded width n ≠ []
  := by
  rw [padded]
  exact List.append_ne_nil_of_right_ne_nil _ Nat.toDigits_ne_nil

/-- A number that fills its place is read back. -/
theorem number_padded (place : 0 < width) (lt : n < 10 ^ width) (rest : List Char) :
  number width (padded width n ++ rest) = .ok (n, rest)
  := by
  have fills := length_padded place lt
  rw [number_digits padded_ne_nil (fun _ => isDigit_of_mem_padded) fills.le (.inl fills),
    ofDigitChars_padded]

/-- A number that fills its place and lies in its bounds is read back. -/
theorem bounded_padded {least greatest : Nat} (lt : n < 100) (inside : least ≤ n ∧ n ≤ greatest)
    (rest : List Char) :
  bounded 2 least greatest (padded 2 n ++ rest) = .ok (n, rest)
  := by
  rw [bounded, trimStart_digits padded_ne_nil fun _ => isDigit_of_mem_padded]
  apply bind_eq_ok.mpr
  use (n, rest), number_padded (by decide) lt rest
  dsimp only
  rw [if_pos inside]
  rfl

/-! ### Marks -/

/-- A mark is read. -/
theorem mark_cons {m : Char} (solid : Text.isBlank m = false) (rest : List Char) :
  mark m (m :: rest) = .ok ((), rest)
  := by
  rw [mark, trimStart_cons solid]
  dsimp only
  rw [if_pos rfl]

/-- The end of the text stands for universal time. -/
theorem scanOffset_end :
  scanOffset ['Z'] = .ok (0, [])
  := by decide

/-! ### Years -/

/-- A number of any width is read back with a sign before it, if no digit follows. -/
theorem number_all (stops : Stops rest) :
  number (padded width n ++ rest).length (padded width n ++ rest) = .ok (n, rest)
  := by
  have fits : (padded width n).length ≤ (padded width n ++ rest).length := by
    rw [List.length_append]
    omega
  rw [number_digits padded_ne_nil (fun _ => isDigit_of_mem_padded) fits (.inr stops),
    ofDigitChars_padded]

/-- A year that was scanned is accepted, if it is not too large. -/
theorem accept_year {scanned : Except DateProblem (Int × List Char)} {y : Int}
    (read : scanned = .ok (y, rest)) (inside : -2147483648 ≤ y ∧ y < 2147483648) :
  (do
    let (y, rest) ← scanned
    if -2147483648 ≤ y ∧ y < 2147483648 then return (y, rest)
    else throw DateProblem.outOfRange) = .ok (y, rest)
  := by
  apply bind_eq_ok.mpr
  use (y, rest), read
  dsimp only
  rw [if_pos inside]
  rfl

/-- A year of four digits is read back. -/
theorem scanYear_digits (lt : n < 10 ^ 4) :
  scanYear (padded 4 n ++ rest) = .ok ((n : Int), rest)
  := by
  have read := number_padded (by decide) lt rest
  rw [scanYear, trimStart_digits padded_ne_nil fun _ => isDigit_of_mem_padded]
  obtain ⟨c, cs, digits⟩ := List.exists_cons_of_ne_nil (@padded_ne_nil 4 n)
  have digit : c.isDigit = true := isDigit_of_mem_padded (digits ▸ List.mem_cons_self)
  rw [digits, List.cons_append] at read ⊢
  -- no sign is a digit
  split
  next eq =>
    obtain ⟨rfl, -⟩ := List.cons.inj eq
    cases digit
  next eq =>
    obtain ⟨rfl, -⟩ := List.cons.inj eq
    cases digit
  next =>
    apply accept_year _ (by omega)
    rw [read]
    rfl

/-- A year is read back from its sign and its digits. -/
theorem scanYear_sign {y : Int} (inside : -2147483648 ≤ y ∧ y < 2147483648) (stops : Stops rest) :
  scanYear ((if y < 0 then '-' else '+') :: (padded 4 y.natAbs ++ rest)) = .ok (y, rest)
  := by
  rw [scanYear]
  by_cases before : y < 0
  · have value : -(y.natAbs : Int) = y := by omega
    rw [if_pos before, trimStart_cons (by decide)]
    apply accept_year _ inside
    rw [number_all stops]
    exact congrArg (fun z : Int => Except.ok (z, rest)) value
  · have value : (y.natAbs : Int) = y := by omega
    rw [if_neg before, trimStart_cons (by decide)]
    apply accept_year _ inside
    rw [number_all stops]
    exact congrArg (fun z : Int => Except.ok (z, rest)) value

/-- A year of the calendar is read back. -/
theorem scanYear_year {y : Int} (begins : -262143 ≤ y) (ends : y ≤ 262142) (stops : Stops rest) :
  scanYear (year y ++ rest) = .ok (y, rest)
  := by
  rw [year]
  split
  next plain =>
    rw [scanYear_digits (by omega), Int.toNat_of_nonneg plain.1]
  next => apply scanYear_sign (by omega) stops

/-! ### Fractions -/

/-- A fraction of so many places is scaled to nine. -/
theorem scanFraction_padded {places : Nat} (some : 0 < places) (few : places ≤ 9)
    (lt : n < 10 ^ places) :
  scanFraction ('.' :: (padded places n ++ ['Z'])) = .ok (n * powerOfTen (9 - places), ['Z'])
  := by
  have fills := length_padded some lt
  have stops : Stops ['Z'] := stops_cons rfl []
  have read : number 9 (padded places n ++ ['Z']) = .ok (n, ['Z']) := by
    rw [number_digits padded_ne_nil (fun _ => isDigit_of_mem_padded) (fills.le.trans few)
      (.inr stops), ofDigitChars_padded]
  have used : (padded places n ++ ['Z']).length - ['Z'].length = places := by
    rw [List.length_append, fills, Nat.add_sub_cancel]
  rw [scanFraction]
  apply bind_eq_ok.mpr
  use (n, ['Z']), read
  dsimp only
  rw [used]
  rfl

/-- A fraction is read back from as many digits as it needs. -/
theorem scanFraction_fraction {nanos : Nat} (lt : nanos < 1000000000) :
  scanFraction (fraction nanos ++ ['Z']) = .ok (nanos, ['Z'])
  := by
  rw [fraction]
  split
  next none =>
    rw [none]
    rfl
  next =>
    split
    next thousandths =>
      have value : nanos / 1000000 * powerOfTen (9 - 3) = nanos := by
        change nanos / 1000000 * 1000000 = nanos
        omega
      rw [List.cons_append, scanFraction_padded (by decide) (by decide) (by omega), value]
    next =>
      split
      next millionths =>
        have value : nanos / 1000 * powerOfTen (9 - 6) = nanos := by
          change nanos / 1000 * 1000 = nanos
          omega
        rw [List.cons_append, scanFraction_padded (by decide) (by decide) (by omega), value]
      next =>
        have value : nanos * powerOfTen (9 - 9) = nanos := Nat.mul_one nanos
        rw [List.cons_append, scanFraction_padded (by decide) (by decide) (by omega), value]

/-! ### Instants -/

/-- An instant has the parts that it is made of. -/
theorem ofParts?_parts (t : Instant) :
  ofParts? t.seconds t.nanos = some t
  := dif_pos ⟨t.le_seconds, t.seconds_lt, t.nanos_lt⟩

/-- A clock can show the instant: it is not within a leap second, or within one that ends a
minute. -/
def OnClock (t : Instant) : Prop := t.nanos < 1000000000 ∨ t.seconds % 60 = 59

instance (t : Instant) : Decidable (OnClock t) := inferInstanceAs (Decidable (_ ∨ _))

/-- The instant that the text of an instant writes. Within a leap second that does not end a minute,
it is that fraction of the next second. -/
def written? (t : Instant) : Option Instant :=
  if OnClock t then some t
  else ofParts? (t.seconds + 1) (t.nanos - 1000000000)

/-- The days and the clock of an instant make up what its text writes. The clock shows a second more
within a leap second, and only the second 60 is taken for one. -/
theorem ofParts?_clock {t : Instant} {seconds : Int} {shown clock nanos : Nat}
    (time : clock = (t.seconds % daySeconds).toNat)
    (seen : shown = clock % 60 + if 1000000000 ≤ t.nanos then 1 else 0)
    (whole : seconds = t.seconds / daySeconds * daySeconds + (clock / 3600 : Nat) * 3600
      + (clock / 60 % 60 : Nat) * 60 + (if shown = 60 then 59 else shown : Nat))
    (part : nanos = if shown = 60 then t.nanos % 1000000000 + 1000000000
      else t.nanos % 1000000000) :
  ofParts? seconds nanos = written? t
  := by
  have bound := t.nanos_lt
  rw [daySeconds] at time whole
  rw [written?]
  by_cases ordinary : t.nanos < 1000000000
  · have same : seconds = t.seconds ∧ nanos = t.nanos := by
      rw [if_neg (by omega)] at seen
      rw [if_neg (by omega)] at whole part
      omega
    rw [if_pos (.inl ordinary), same.1, same.2, ofParts?_parts]
  · rw [if_pos (by omega)] at seen
    by_cases ends : t.seconds % 60 = 59
    · have same : seconds = t.seconds ∧ nanos = t.nanos := by
        rw [if_pos (by omega)] at whole part
        omega
      rw [if_pos (.inr ends), same.1, same.2, ofParts?_parts]
    · have next : seconds = t.seconds + 1 ∧ nanos = t.nanos - 1000000000 := by
        rw [if_neg (by omega)] at whole part
        omega
      have hidden : ¬OnClock t := not_or.mpr ⟨ordinary, ends⟩
      rw [if_neg hidden, next.1, next.2]

/-- The date of an instant lies in the calendar. -/
theorem year_date (t : Instant) :
  -262143 ≤ (Date.ofDays (t.seconds / daySeconds)).year
    ∧ (Date.ofDays (t.seconds / daySeconds)).year ≤ 262142
  := by
  have begins := t.le_seconds
  have ends := t.seconds_lt
  rw [daySeconds]
  exact Date.year_ofDays (by omega) (by omega)

/-- The text of an instant is read. -/
theorem parse_format (t : Instant) :
  parse (format t) = (written? t).elim (.error .impossible) .ok
  := by
  have counted := Date.toDays_ofDays (t.seconds / daySeconds)
  have valid := Date.isValid_ofDays (t.seconds / daySeconds)
  obtain ⟨month, day⟩ := Date.bounds_of_isValid valid
  have years := year_date t
  have inside : ((Date.ofDays (t.seconds / daySeconds)).isValid
      && inCalendar (Date.ofDays (t.seconds / daySeconds)).year) = true := by
    rw [valid, inCalendar, decide_eq_true years.1, decide_eq_true years.2]
    rfl
  have clock : (t.seconds % daySeconds).toNat < 86400 := by
    rw [daySeconds]
    omega
  have leap_le : (if 1000000000 ≤ t.nanos then 1 else 0) ≤ 1 := by
    split <;> decide
  rw [format, parse, String.toList_ofList]
  simp only [List.append_assoc, List.cons_append]
  generalize Date.ofDays (t.seconds / daySeconds) = date at *
  -- every part of the text is read at its place
  apply (bind_of_ok (scanYear_year years.1 years.2 (stops_cons rfl _))).trans
  apply (bind_of_ok (mark_cons rfl _)).trans
  apply (bind_of_ok (bounded_padded (by omega) month _)).trans
  apply (bind_of_ok (mark_cons rfl _)).trans
  apply (bind_of_ok (bounded_padded (by omega) day _)).trans
  apply (bind_of_ok (show separator ('T' :: _) = .ok ((), _) from rfl)).trans
  apply (bind_of_ok (bounded_padded (by omega) (by omega) _)).trans
  apply (bind_of_ok (mark_cons rfl _)).trans
  apply (bind_of_ok (bounded_padded (by omega) (by omega) _)).trans
  apply (bind_of_ok (mark_cons rfl _)).trans
  apply (bind_of_ok (bounded_padded (by omega) (by omega) _)).trans
  apply (bind_of_ok (scanFraction_fraction (by omega))).trans
  apply (bind_of_ok scanOffset_end).trans
  -- and nothing of it is left, so that the date and the clock make up the instant
  apply (if_neg (not_not.mpr rfl)).trans
  apply (if_neg (not_not.mpr inside)).trans
  apply (if_neg (not_not.mpr (by decide))).trans
  dsimp only
  rw [ofParts?_clock rfl rfl (by rw [counted, Int.sub_zero]) rfl]
  cases written? t with
  | none => rfl
  | some t' => rfl

/-- The text of an instant writes it just if a clock can show it. -/
theorem written?_eq_some_iff {t : Instant} :
  written? t = some t ↔ OnClock t
  := by
  rw [written?]
  split
  next shown => exact iff_of_true rfl shown
  next hidden =>
    apply iff_of_false _ hidden
    intro same
    rw [ofParts?] at same
    by_cases inside : -8334601228800 ≤ t.seconds + 1 ∧ t.seconds + 1 < 8210266876800
        ∧ t.nanos - 1000000000 < 2000000000
    · rw [dif_pos inside] at same
      have later : t.seconds + 1 = t.seconds := congrArg Instant.seconds (Option.some.inj same)
      omega
    · rw [dif_neg inside] at same
      cases same

/-- An instant is read back from its text just if a clock can show it. -/
theorem decode_format_iff {t : Instant} :
  decode (.string (format t)) = .ok t ↔ OnClock t
  := by
  rw [← written?_eq_some_iff, decode, parse_format]
  cases written? t with
  | none => simp
  | some t' => simp

end Instrumentation.Instant.Rfc3339
