import Mathlib.Data.List.TakeWhile
import Instrumentation.Proofs.Condition.Arithmetic
import Instrumentation.Proofs.Condition.Lexing
import Instrumentation.Proofs.Condition.Parse
import Instrumentation.Proofs.Decimal.Nearest

/-!
# Numerals in conditions

A numeral is a maximal run of digits, with a fraction behind a point if the text goes on so. Every
token of a text that starts with a digit is one, and the literals of an expression are the values
that its tokens write out, in order. A numeral without fraction is the integer that its digits
write, if this is in the signed range; any other one is the nearest double. A double that is not
finite is no number, and such a numeral is read as null.
-/

namespace Instrumentation

namespace Condition

/-! ### Literals -/

/-- The literals of an expression, from left to right. -/
def Expr.literals : Expr → List Json
  | literal v => [v]
  | var _ => []
  | member base _ => base.literals
  | index base position => base.literals ++ position.literals
  | unary _ operand => operand.literals
  | binary _ left right => left.literals ++ right.literals

/-- The mark of an operator writes out no value. -/
theorem literal?_token (op : BinaryOp) :
  op.token.literal? = none
  := by
  cases op <;> rfl

/-- The literals of an expression are the values that its tokens write out. -/
theorem Derives.literals_eq {rank : Rank} {ts : List Token} {e : Expr} {d : Nat}
    (h : Derives rank ts e d) :
  e.literals = ts.filterMap Token.literal?
  := by
  induction h with
  | operand _ ih => exact ih
  | binary op _ _ _ left right =>
    rw [Expr.literals, List.filterMap_append, List.filterMap_cons_none (literal?_token op), left,
      right]
  | not _ ih => exact ih
  | neg _ ih => exact ih
  | postfixed _ ih => exact ih
  | primary _ ih => exact ih
  | member name _ ih =>
    rw [Expr.literals, List.filterMap_append, ih]
    exact (List.append_nil _).symm
  | index _ _ base position =>
    rw [Expr.literals, List.filterMap_append, List.filterMap_cons_none rfl, List.filterMap_append,
      base, position]
    exact congrArg _ (List.append_nil _).symm
  | literal h => rw [Expr.literals, List.filterMap_cons_some h, List.filterMap_nil]
  | name => rfl
  | paren _ ih =>
    rw [List.filterMap_cons_none rfl, List.filterMap_append, ih]
    exact (List.append_nil _).symm

variable {c : Char} {cs : List Char} {piece : Piece}

/-! ### Places of tokens -/

/-- A token stands where its offset says, and is the one that is scanned there. -/
theorem lexemesFrom_place {fuel offset : Nat} {tokens : List Lexeme} {t : Lexeme}
    (h : lexemesFrom fuel offset cs = .ok tokens) (mem : t ∈ tokens) (solid : t.token ≠ .finish) :
  ∃ before c behind piece, cs = before ++ c :: behind ∧ t.offset = offset + byteLength before
    ∧ scan c behind = .ok piece ∧ t.token = piece.token
  := by
  induction fuel, offset, cs using lexemesFrom.induct generalizing tokens with
  | case1 _ offset =>
    rw [lexemesFrom] at h
    obtain rfl := Except.ok.inj h
    rw [List.mem_singleton] at mem
    exact absurd (congrArg Lexeme.token mem) solid
  | case2 offset c cs =>
    rw [lexemesFrom] at h
    obtain rfl := Except.ok.inj h
    rw [List.mem_singleton] at mem
    exact absurd (congrArg Lexeme.token mem) solid
  | case3 fuel offset c cs blank ih =>
    rw [lexemesFrom, if_pos blank] at h
    obtain ⟨before, d, behind, piece, rfl, place, scanned, same⟩ := ih h mem
    exact ⟨c :: before, d, behind, piece, rfl, by rw [place, byteLength, Nat.add_assoc], scanned,
      same⟩
  | case4 fuel offset c cs solid refusal scanned =>
    rw [lexemesFrom, if_neg solid, scanned] at h
    cases h
  | case5 fuel offset c cs solid piece scanned ih =>
    rw [lexemesFrom, if_neg solid, scanned] at h
    obtain ⟨rest, after, h⟩ := bind_eq_ok.mp h
    obtain rfl := Except.ok.inj h
    rcases List.mem_cons.mp mem with rfl | later
    · exact ⟨[], c, cs, piece, rfl, rfl, scanned, rfl⟩
    · obtain ⟨before, d, behind, piece', split, place, scanned', same⟩ := ih after later
      refine ⟨piece.text ++ before, d, behind, piece', ?_, ?_, scanned', same⟩
      · rw [← scan_text scanned, split, List.append_assoc]
      · rw [place, byteLength_append, Nat.add_assoc]

/-! ### Numerals -/

/-- Digits, with a fraction or without. -/
structure Numeral where
  /-- The digits before the point. -/
  whole : List Char
  /-- The digits behind the point, none if there is no point. -/
  fraction : List Char
  /-- There are digits before the point. -/
  whole_ne_nil : whole ≠ []
  /-- They are digits. -/
  whole_digits : ∀ c ∈ whole, c.isDigit = true
  /-- Those behind the point are too. -/
  fraction_digits : ∀ c ∈ fraction, c.isDigit = true

namespace Numeral

/-- The characters of a numeral. -/
def text (n : Numeral) : List Char :=
  match n.fraction with
  | [] => n.whole
  | ds => n.whole ++ '.' :: ds

/-- What is behind a numeral does not go on with it: there is no other digit, and no fraction if the
numeral has none. -/
structure Ends (n : Numeral) (behind : List Char) : Prop where
  /-- There is no other digit. -/
  digit : ∀ d ∈ behind.head?, d.isDigit = false
  /-- There is no fraction. -/
  fraction : n.fraction = [] → ∀ d tail, behind = '.' :: d :: tail → d.isDigit = false

/-- The numeral is an integer of the signed range. -/
def IsInteger (n : Numeral) : Prop := n.fraction = [] ∧ numberOf n.whole < 9223372036854775808

instance (n : Numeral) : Decidable n.IsInteger := inferInstanceAs (Decidable (_ ∧ _))

/-- The value is the number that the numeral writes: the integer if it is one of the signed range,
and otherwise the nearest double, which is finite. -/
def IsNumber (n : Numeral) (v : Json) : Prop :=
  if n.IsInteger then ∃ k : Integer, v = .number (.integer k) ∧ k.val = numberOf n.whole
  else ∃ x : Finite, v = .number (.double x)
    ∧ x.val = Decimal.nearest (numberOf (n.whole ++ n.fraction)) n.fraction.length

/-- The numeral is below the number from which on there is no finite double. -/
def Fits (n : Numeral) : Prop :=
  numberOf (n.whole ++ n.fraction) < (2 ^ 54 - 1) * 2 ^ 970 * 10 ^ n.fraction.length

/-- The token of an integer of the signed range. -/
theorem token_integer {n : Numeral} (integer : n.IsInteger) :
  numberToken n.whole n.fraction = .int (numberOf n.whole)
  := by
  rw [numberToken, integer.1]
  exact if_pos (decide_eq_true integer.2)

/-- The token of any other number. -/
theorem token_double {n : Numeral} (other : ¬n.IsInteger) :
  numberToken n.whole n.fraction
    = .float (Decimal.nearest (numberOf (n.whole ++ n.fraction)) n.fraction.length)
  := by
  rw [numberToken]
  refine if_neg ?_
  rw [Bool.and_eq_true, List.isEmpty_iff, decide_eq_true_eq]
  exact other

/-- The token of a numeral writes out its number if the numeral fits, and null otherwise. -/
theorem literal?_eq (n : Numeral) :
  ∃ v, (numberToken n.whole n.fraction).literal? = some v ∧ (n.IsNumber v ↔ n.Fits)
    ∧ (¬n.Fits → v = .null)
  := by
  by_cases integer : n.IsInteger
  · have fits : n.Fits := by
      rw [Fits, integer.1, List.append_nil, List.length_nil, Nat.pow_zero, Nat.mul_one]
      exact integer.2.trans_le Decimal.le_limit
    rw [token_integer integer]
    refine ⟨_, rfl, iff_of_true ?_ fits, fun large => absurd fits large⟩
    have signed : isSigned (numberOf n.whole) = true := by
      have := integer.2
      rw [isSigned_iff]
      omega
    obtain ⟨k, value, same, -⟩ := Json.ofInt_of_isSigned signed
    rw [IsNumber, if_pos integer]
    exact ⟨k, value, same⟩
  · rw [token_double integer]
    refine ⟨_, rfl, ?_⟩
    rw [IsNumber, if_neg integer, Fits, ← Decimal.limit, ← Decimal.isFinite_nearest_iff,
      Json.ofFloat, Finite.ofFloat?]
    split_ifs with finite
    · exact ⟨iff_of_true ⟨⟨_, finite⟩, rfl, rfl⟩ finite, fun large => absurd finite large⟩
    · refine ⟨iff_of_false ?_ finite, fun _ => rfl⟩
      rintro ⟨x, same, -⟩
      cases same

/-- A numeral without a point has no fraction. -/
theorem whole_of_not_mem {n : Numeral} (none : '.' ∉ n.text) :
  n.fraction = [] ∧ n.whole = n.text
  := by
  rw [text] at none ⊢
  split at none
  next fraction => exact ⟨fraction, rfl⟩
  next => simp at none

/-- A numeral starts with a digit. -/
theorem exists_digit (n : Numeral) :
  ∃ c cs, n.text = c :: cs ∧ c.isDigit = true
  := by
  obtain ⟨whole, fraction, some, digits, _⟩ := n
  obtain ⟨c, cs, rfl⟩ := List.exists_cons_of_ne_nil some
  have digit := digits c List.mem_cons_self
  cases fraction with
  | nil => exact ⟨c, cs, rfl, digit⟩
  | cons d ds => exact ⟨c, cs ++ '.' :: d :: ds, rfl, digit⟩

end Numeral

/-- A digit is no blank. -/
theorem isBlank_of_digit (digit : c.isDigit = true) :
  isBlank c = false
  := by
  rw [Bool.eq_false_iff]
  intro blank
  rw [(not_word_of_blank blank).1] at digit
  cases digit

/-- No digit is at the front behind all digits. -/
theorem head?_dropWhile (cs : List Char) :
  ∀ d ∈ (cs.dropWhile Char.isDigit).head?, d.isDigit = false
  := by
  intro d first
  have stops := List.head?_dropWhile_not Char.isDigit cs
  rw [first] at stops
  exact stops

/-- The number at the front of a text that starts with a digit is the numeral there. -/
theorem scanNumber_numeral (digit : c.isDigit = true) (cs : List Char) :
  ∃ n : Numeral, (scanNumber (c :: cs)).token = numberToken n.whole n.fraction
    ∧ (scanNumber (c :: cs)).text = n.text ∧ n.Ends (scanNumber (c :: cs)).rest
  := by
  have first : (c :: cs).takeWhile Char.isDigit ≠ [] := by
    rw [List.takeWhile_cons_of_pos digit]
    exact List.cons_ne_nil _ _
  have digits (cs : List Char) : ∀ d ∈ cs.takeWhile Char.isDigit, d.isDigit = true :=
    fun d mem => List.mem_takeWhile_imp mem
  have ends := head?_dropWhile (c :: cs)
  rw [scanNumber]
  dsimp only
  split
  next d tail point =>
    split
    next fraction =>
      have some : (d :: tail).takeWhile Char.isDigit ≠ [] := by
        rw [List.takeWhile_cons_of_pos fraction]
        exact List.cons_ne_nil _ _
      refine ⟨⟨_, _, first, digits _, digits (d :: tail)⟩, rfl, ?_, head?_dropWhile _, ?_⟩
      · rw [Numeral.text]
        split
        next none => exact absurd none some
        next => rfl
      · intro none
        exact absurd none some
    next other =>
      refine ⟨⟨_, [], first, digits _, by simp⟩, rfl, rfl, ends, ?_⟩
      rintro - d' tail' same
      obtain ⟨rfl, -⟩ : d = d' ∧ tail = tail' := by simpa using point.symm.trans same
      simpa using other
  next other =>
    refine ⟨⟨_, [], first, digits _, by simp⟩, rfl, rfl, ends, ?_⟩
    intro _ d tail same
    exact absurd same (other d tail)

/-- Digits are taken up to the first character that is none. -/
theorem span_digits {ds rest : List Char} (digits : ∀ c ∈ ds, c.isDigit = true)
    (stops : ∀ d ∈ rest.head?, d.isDigit = false) :
  (ds ++ rest).takeWhile Char.isDigit = ds ∧ (ds ++ rest).dropWhile Char.isDigit = rest
  := by
  rw [List.takeWhile_append_of_pos digits, List.dropWhile_append_of_pos digits]
  cases rest with
  | nil => exact ⟨List.append_nil _, rfl⟩
  | cons d rest =>
    have other : ¬d.isDigit = true := by rw [stops d rfl]; exact Bool.false_ne_true
    rw [List.takeWhile_cons_of_neg other, List.dropWhile_cons_of_neg other]
    exact ⟨List.append_nil _, rfl⟩

/-- A numeral is taken whole. -/
theorem scanNumber_append {n : Numeral} {rest : List Char} (ends : n.Ends rest) :
  scanNumber (n.text ++ rest) = ⟨numberToken n.whole n.fraction, n.text, rest⟩
  := by
  obtain ⟨whole, fraction, some, whole_digits, fraction_digits⟩ := n
  cases fraction with
  | nil =>
    obtain ⟨taken, left⟩ := span_digits whole_digits ends.digit
    rw [Numeral.text, scanNumber]
    simp only [taken, left]
    split
    next d tail => rw [if_neg (by rw [ends.fraction rfl d tail rfl]; exact Bool.false_ne_true)]
    next => rfl
  | cons d ds =>
    have stops : ∀ c ∈ ('.' :: (d :: ds ++ rest)).head?, c.isDigit = false :=
      fun _ point => Option.some.inj point ▸ rfl
    obtain ⟨taken, left⟩ := span_digits whole_digits stops
    obtain ⟨behind, after⟩ := span_digits fraction_digits ends.digit
    rw [Numeral.text, scanNumber]
    simp only [List.append_assoc, List.cons_append] at taken left behind after ⊢
    simp only [taken, left, behind, after, fraction_digits d List.mem_cons_self, if_true]

/-- A numeral is the first token of a text that starts with it. -/
theorem lexemesFrom_numeral {n : Numeral} {rest : List Char} (ends : n.Ends rest)
    (fuel offset : Nat) :
  lexemesFrom (fuel + 1) offset (n.text ++ rest) = (do
    let more ← lexemesFrom fuel (offset + byteLength n.text) rest
    return ⟨numberToken n.whole n.fraction, offset⟩ :: more)
  := by
  obtain ⟨c, cs, text, digit⟩ := n.exists_digit
  have taken := scanNumber_append ends
  rw [text, List.cons_append] at taken ⊢
  have solid : ¬isBlank c = true := by
    rw [isBlank_of_digit digit]
    exact Bool.false_ne_true
  rw [lexemesFrom, if_neg solid, scan_digit digit, taken]

end Condition

open Condition

/-- The literals of a condition that is read are the values that its tokens write out, in order, and
every token that starts with a digit is a numeral, with its fraction if it has one and as long as it
can be. The value is the number that the numeral writes, an integer if it has no fraction and is in
the signed range and a finite double otherwise, just if the numeral is below the middle between the
greatest double and the next number; a greater numeral is not refused and is read as null. -/
theorem numerals_read {source : String} {p : Predicate}
    (compiled : Predicate.compile source = .ok p) :
  ∃ body last, tokenize source = .ok (body ++ [⟨.finish, last⟩])
    ∧ p.expression.literals = body.filterMap (fun t => t.token.literal?)
    ∧ ∀ t ∈ body, ∃ before c behind, source.toList = before ++ c :: behind
      ∧ byteLength before = t.offset
      ∧ (c.isDigit = true → ∃ n : Condition.Numeral, ∃ rest,
          c :: behind = n.text ++ rest ∧ n.Ends rest
          ∧ ∃ v, t.token.literal? = some v ∧ (n.IsNumber v ↔ n.Fits) ∧ (¬n.Fits → v = .null))
  := by
  obtain ⟨e, parsed, rfl⟩ : ∃ e, parse source = .ok e ∧ p = ⟨source, e⟩ := by
    obtain ⟨e, parsed, h⟩ := bind_eq_ok.mp compiled
    exact ⟨e, parsed, (Except.ok.inj h).symm⟩
  obtain ⟨tokens, rest, found, -, taken, ended⟩ := parse_eq_ok_iff.mp parsed
  obtain ⟨body, last, rfl, clean⟩ := tokenize_finish found
  obtain ⟨front, depth, split, -, derived⟩ := reads_whole.sound taken
  obtain rfl := front_eq_body split clean derived.finish_not_mem ended
  refine ⟨front, last, found, ?_, ?_⟩
  · rw [derived.literals_eq, List.filterMap_map]
    rfl
  · intro t mem
    obtain ⟨before, c, behind, piece, characters, place, scanned, same⟩ :=
      lexemesFrom_place found (List.mem_append_left _ mem) (clean t mem)
    refine ⟨before, c, behind, characters, by rw [place, Nat.zero_add], ?_⟩
    intro digit
    obtain ⟨n, token, text, ends⟩ := scanNumber_numeral digit behind
    obtain rfl := Except.ok.inj ((scan_digit digit behind).symm.trans scanned)
    rw [same, token]
    exact ⟨n, _, by rw [← text, scanNumber_text], ends, n.literal?_eq⟩

/-- A condition with a numeral is read. The numeral is the token at its fifth character. It fits,
and its value is the number that it writes. -/
theorem numerals_read_comparison :
  let p : Predicate := ⟨"x < 12", .binary .lt (.var "x") (.literal (.ofNat 12))⟩
  Predicate.compile "x < 12" = .ok p
    ∧ ∃ body last, tokenize "x < 12" = .ok (body ++ [⟨.finish, last⟩])
      ∧ p.expression.literals = body.filterMap (fun t => t.token.literal?)
      ∧ ∃ t ∈ body, t.offset = 4 ∧ ∃ n : Condition.Numeral, n.text = ['1', '2'] ∧ n.Fits
        ∧ t.token.literal? = some (.ofNat 12) ∧ n.IsNumber (.ofNat 12)
  := by
  intro p
  have compiled : Predicate.compile "x < 12" = .ok p := by cbv
  have tokens : tokenize "x < 12"
      = .ok ([⟨.ident "x", 0⟩, ⟨.lt, 2⟩, ⟨.int 12, 4⟩] ++ [⟨.finish, 6⟩]) := by cbv
  obtain ⟨body, last, found, literals, numerals⟩ := numerals_read compiled
  obtain ⟨rfl, -⟩ := List.append_inj' (Except.ok.inj (tokens.symm.trans found)) rfl
  refine ⟨compiled, _, last, found, literals, ⟨.int 12, 4⟩, by simp, rfl, ?_⟩
  obtain ⟨before, c, behind, split, place, numeral⟩ := numerals ⟨.int 12, 4⟩ (by simp)
  -- the characters from the offset on are the digits
  have characters : before ++ c :: behind = ['x', ' ', '<', ' '] ++ ['1', '2'] := split.symm
  obtain ⟨-, digits⟩ := append_inj_of_byteLength characters place
  obtain ⟨rfl, rfl⟩ := List.cons.inj digits
  obtain ⟨n, rest, front, ends, v, value, number, -⟩ := numeral rfl
  have taken := scanNumber_append ends
  rw [← front] at taken
  have text : n.text = ['1', '2'] := (congrArg Piece.text taken).symm
  have none : '.' ∉ n.text := by
    rw [text]
    decide
  obtain ⟨fraction, whole⟩ := Condition.Numeral.whole_of_not_mem none
  have fits : n.Fits := by
    rw [Condition.Numeral.Fits, fraction, whole, text]
    decide +kernel
  obtain rfl := Option.some.inj value
  exact ⟨n, text, fits, rfl, number.mpr fits⟩

/-- A condition that compares a numeral with null. -/
def Condition.Numeral.isNull (n : Numeral) : String :=
  String.ofList (n.text ++ [' ', '=', '=', ' ', 'n', 'u', 'l', 'l'])

/-- The tokens of a comparison with null. -/
theorem Condition.Numeral.tokenize_isNull (n : Numeral) :
  tokenize n.isNull
    = .ok [⟨numberToken n.whole n.fraction, 0⟩, ⟨.eq, byteLength n.text + 1⟩,
      ⟨.nothing, byteLength n.text + 4⟩, ⟨.finish, byteLength n.text + 8⟩]
  := by
  obtain ⟨c, cs, text, -⟩ := n.exists_digit
  let tail : List Char := [' ', '=', '=', ' ', 'n', 'u', 'l', 'l']
  have ends : n.Ends tail := by
    constructor
    · rintro d ⟨⟩
      rfl
    · intro _ d rest same
      cases (List.cons.inj same).1
  have length : n.isNull.length = cs.length + 8 + 1 := by
    rw [isNull, String.length_ofList, List.length_append, text]
    rfl
  have rest (k : Nat) : lexemesFrom (cs.length + 8) k tail
      = .ok [⟨.eq, k + 1⟩, ⟨.nothing, k + 4⟩, ⟨.finish, k + 8⟩] := rfl
  have first := lexemesFrom_numeral ends (cs.length + 8) 0
  rw [rest, Nat.zero_add] at first
  have characters : n.isNull.toList = n.text ++ tail := String.toList_ofList
  rw [tokenize, length, characters]
  exact first

/-- A comparison of a numeral with null is read as one of the value of the numeral. -/
theorem Condition.Numeral.compile_isNull {n : Numeral} {v : Json}
    (value : (numberToken n.whole n.fraction).literal? = some v) :
  Predicate.compile n.isNull = .ok ⟨n.isNull, .binary .eq (.literal v) (.literal .null)⟩
  := by
  have read : expression (operand maxNesting)
        [⟨numberToken n.whole n.fraction, 0⟩, ⟨.eq, byteLength n.text + 1⟩,
          ⟨.nothing, byteLength n.text + 4⟩, ⟨.finish, byteLength n.text + 8⟩]
      = .ok (.binary .eq (.literal v) (.literal .null), [⟨.finish, byteLength n.text + 8⟩]) := by
    by_cases integer : n.IsInteger
    · rw [token_integer integer] at value ⊢
      obtain rfl := Option.some.inj value
      rfl
    · rw [token_double integer] at value ⊢
      obtain rfl := Option.some.inj value
      rfl
  have parsed : parse n.isNull = .ok (.binary .eq (.literal v) (.literal .null)) := by
    refine parse_eq_ok_iff.mpr ⟨_, _, n.tokenize_isNull, by simp, read, ?_⟩
    rintro t ⟨⟩
    rfl
  exact bind_eq_ok.mpr ⟨_, parsed, rfl⟩

/-- One and zeros write a power of ten. -/
theorem Condition.numberOf_zeros (k : Nat) :
  numberOf ('1' :: List.replicate k '0') = 10 ^ k
  := by
  induction k with
  | zero => rfl
  | succ k ih =>
    rw [List.replicate_succ', ← List.cons_append, numberOf, List.foldl_append, ← numberOf, ih,
      Nat.pow_succ']
    rfl

/-- A numeral of one and zeros. -/
def Condition.Numeral.ofZeros (k : Nat) : Numeral where
  whole := '1' :: List.replicate k '0'
  fraction := []
  whole_ne_nil := List.cons_ne_nil _ _
  whole_digits := by
    rintro c (_ | ⟨_, zero⟩)
    · rfl
    · rw [List.eq_of_mem_replicate zero]
      rfl
  fraction_digits := fun _ none => nomatch none

/-- Ten to the power 309 is compared with null and is found to be equal. -/
theorem not_numerals_read_large :
  let n : Condition.Numeral := .ofZeros 309
  let p : Predicate := ⟨n.isNull, .binary .eq (.literal .null) (.literal .null)⟩
  Predicate.compile n.isNull = .ok p ∧ ¬n.IsNumber .null ∧ p.evaluate .empty = .ok true
  := by
  intro n p
  have large : ¬n.Fits := by
    have whole : numberOf (n.whole ++ n.fraction) = 10 ^ 309 :=
      (congrArg numberOf (List.append_nil n.whole)).trans (numberOf_zeros 309)
    rw [Condition.Numeral.Fits, whole]
    decide +kernel
  obtain ⟨v, value, number, lost⟩ := n.literal?_eq
  obtain rfl := lost large
  have holds (source : String) :
      Predicate.evaluate ⟨source, .binary .eq (.literal .null) (.literal .null)⟩ .empty
        = .ok true := rfl
  refine ⟨Condition.Numeral.compile_isNull value, ?_, holds _⟩
  exact mt number.mp large

end Instrumentation
