import Instrumentation.Proofs.Condition.Evaluation

/-!
# Integer arithmetic in conditions

An operator on two integers of the signed range gives the exact integer when that is in the range
too. The remainder is left to doubles whenever the quotient is, though it is never out of range
itself; that happens for one pair of operands.
-/

namespace Instrumentation

/-- A number of the signed range is an integer of that range. -/
theorem Json.ofInt_of_isSigned {z : Int} (signed : Condition.isSigned z = true) :
  ∃ n : Integer, Json.ofInt z = .number (.integer n) ∧ n.val = z ∧ n.signed? = some z
  := by
  rw [Condition.isSigned, Bool.and_eq_true, decide_eq_true_eq, decide_eq_true_eq] at signed
  have range : -9223372036854775808 ≤ z ∧ z < 18446744073709551616 := by omega
  refine ⟨⟨z, range.1, range.2⟩, ?_, rfl, ?_⟩
  · rw [Json.ofInt, Integer.ofInt?, dif_pos range]
  · rw [Integer.signed?, if_pos signed.2]

namespace Condition

/-- The exact result of an arithmetic operator on two integers. A quotient is truncated, and a
remainder has the sign of the dividend. -/
def BinaryOp.exact? : BinaryOp → Int → Int → Option Int
  | add, x, y => some (x + y)
  | sub, x, y => some (x - y)
  | mul, x, y => some (x * y)
  | div, x, y => some (x.tdiv y)
  | rem, x, y => some (x.tmod y)
  | _, _, _ => none

variable {f : Frame} {l r : Expr} {op : BinaryOp} {x y z : Int}

/-- The signed range as bounds. -/
theorem isSigned_iff :
  isSigned x = true ↔ -9223372036854775808 ≤ x ∧ x < 9223372036854775808
  := by
  rw [isSigned, Bool.and_eq_true, decide_eq_true_eq, decide_eq_true_eq]

/-- The least integer and the divisor whose quotient is out of range. -/
def Overflows (x y : Int) : Prop := x = -9223372036854775808 ∧ y = -1

instance : Decidable (Overflows x y) := inferInstanceAs (Decidable (_ ∧ _))

/-- The quotient of two integers of the signed range is in range but for the one pair. -/
theorem isSigned_tdiv_iff (signed : isSigned x = true) (some : y ≠ 0) :
  isSigned (x.tdiv y) = true ↔ ¬Overflows x y
  := by
  rw [isSigned_iff] at *
  rw [Overflows]
  by_cases one : y = -1
  · rw [one, Int.tdiv_neg, Int.tdiv_one]
    omega
  · have size : (x.tdiv y).natAbs = x.natAbs / y.natAbs := Int.natAbs_tdiv x y
    refine iff_of_true ?_ (fun both => one both.2)
    rcases (show y = 1 ∨ 2 ≤ y.natAbs by omega) with rfl | two
    · rwa [Int.tdiv_one]
    · have half : x.natAbs / y.natAbs ≤ x.natAbs / 2 := Nat.div_le_div_left two (by decide)
      omega

/-- A result that is in range is found, but for the remainder whose quotient is not. -/
theorem integral?_eq (signed : isSigned x = true) (some : op.divides = true → y ≠ 0)
    (exact : op.exact? x y = .some z) (fits : isSigned z = true) :
  integral? op x y = if op = .rem ∧ Overflows x y then none else .some z
  := by
  cases op
  case or | and | eq | ne | lt | le | gt | ge => cases exact
  case add | sub | mul | div =>
    obtain rfl : _ = z := Option.some.inj exact
    simp only [integral?, fits, if_true, reduceCtorEq, false_and, if_false]
  case rem =>
    obtain rfl : _ = z := Option.some.inj exact
    have quotient := isSigned_tdiv_iff signed (some rfl)
    by_cases out : Overflows x y
    · simp only [integral?, quotient, out, not_true_eq_false, if_false, and_self, if_true,
        Option.map_none]
    · simp only [integral?, quotient, out, not_false_eq_true, if_true, and_false, if_false,
        Option.map_some]

/-- The result of an operator on two doubles is no integer. -/
theorem doubles_ne_integer (op : BinaryOp) (u v : Float) (n : Integer) :
  doubles op u v ≠ .ok (.number (.integer n))
  := by
  intro same
  rw [doubles] at same
  split at same
  next => cases same
  next =>
    simp only [Json.ofFloat] at same
    split at same
    next => split at same <;> cases same
    next => cases same

/-- An arithmetic operator on two integers of the signed range. -/
theorem arithmetic_ofInt (hx : isSigned x = true) (hy : isSigned y = true) (op : BinaryOp) :
  arithmetic op (.ofInt x) (.ofInt y)
    = if op.divides && y == 0 then .error .divisionByZero
      else match integral? op x y with
        | some z => .ok (.ofInt z)
        | none => doubles op (Float.ofInt x) (Float.ofInt y)
  := by
  obtain ⟨m, left, rfl, m_signed⟩ := Json.ofInt_of_isSigned hx
  obtain ⟨n, right, rfl, n_signed⟩ := Json.ofInt_of_isSigned hy
  rw [left, right, arithmetic, Number.signed?, Number.signed?, m_signed, n_signed]
  rfl

/-- An arithmetic operator is applied to the values of its operands. -/
theorem evaluate_arithmetic (hx : isSigned x = true) (hy : isSigned y = true)
    (exact : op.exact? x y = some z) (left : evaluate f l = .ok (.ofInt x))
    (right : evaluate f r = .ok (.ofInt y)) :
  evaluate f (.binary op l r) = arithmetic op (.ofInt x) (.ofInt y)
  := by
  obtain ⟨m, hm, -, -⟩ := Json.ofInt_of_isSigned hx
  obtain ⟨n, hn, -, -⟩ := Json.ofInt_of_isSigned hy
  cases op
  case or | and | eq | ne | lt | le | gt | ge => cases exact
  case add | sub | mul | div | rem =>
    rw [evaluate_binary (by simp) left right]
    simp only [apply, hm, hn, add]

/-- The remainder of the least integer by minus one is left to doubles. -/
theorem arithmetic_rem_least :
  arithmetic .rem (.ofInt (-9223372036854775808)) (.ofInt (-1)) = .ok (.ofFloat (-0.0))
  := by
  have out : integral? .rem (-9223372036854775808) (-1) = none := by decide
  have divisor : (Float.ofInt (-1) == 0.0) = false := by rfl
  have remainder :
      approximate .rem (Float.ofInt (-9223372036854775808)) (Float.ofInt (-1)) = -0.0 := by rfl
  have finite : (-0.0 : Float).isFinite = true := by decide
  rw [arithmetic_ofInt (by decide) (by decide), out, if_neg (by decide)]
  simp only [doubles, divisor, remainder, finite, Bool.and_false, Bool.false_eq_true, if_false,
    if_true]

end Condition

open Condition

/-- Arithmetic on two integers of the signed range is exact whenever the exact result is in that
range, but for one remainder: that of the least integer by minus one, which is zero and is left to
doubles because the quotient is out of range. Nothing is divided by zero. -/
theorem arithmetic_exact_iff {f : Frame} {l r : Expr} {x y : Int} (hx : isSigned x = true)
    (hy : isSigned y = true) (left : evaluate f l = .ok (.ofInt x))
    (right : evaluate f r = .ok (.ofInt y)) (op : BinaryOp) (z : Int)
    (exact : op.exact? x y = some z) :
  (op.divides = true → y = 0 → evaluate f (.binary op l r) = .error .divisionByZero)
    ∧ ((op.divides = true → y ≠ 0) → isSigned z = true →
        (evaluate f (.binary op l r) = .ok (.ofInt z)
          ↔ ¬(op = .rem ∧ x = -9223372036854775808 ∧ y = -1)))
    ∧ (op = .rem → x = -9223372036854775808 → y = -1 →
        evaluate f (.binary op l r) = .ok (.ofFloat (-0.0)))
  := by
  rw [evaluate_arithmetic hx hy exact left right]
  refine ⟨?divided, ?fits, ?out⟩
  case divided =>
    intro divides zero
    rw [arithmetic_ofInt hx hy, divides, zero]
    rfl
  case fits =>
    intro some fits
    have divisible : ¬(op.divides && y == 0) = true := by
      rw [Bool.and_eq_true, beq_iff_eq]
      exact fun both => some both.1 both.2
    rw [arithmetic_ofInt hx hy, if_neg divisible, integral?_eq hx some exact fits]
    by_cases out : op = .rem ∧ Overflows x y
    · obtain ⟨n, integer, -, -⟩ := Json.ofInt_of_isSigned fits
      rw [if_pos out, integer]
      exact iff_of_false (doubles_ne_integer _ _ _ n) (not_not.mpr out)
    · rw [if_neg out]
      exact iff_of_true rfl out
  case out =>
    rintro rfl rfl rfl
    exact arithmetic_rem_least

/-- A negative dividend leaves a negative remainder. -/
theorem arithmetic_exact_iff_remainder :
  let l : Expr := .literal (.ofInt (-7))
  let r : Expr := .literal (.ofInt 2)
  isSigned (-7) = true ∧ isSigned 2 = true
    ∧ evaluate .empty l = .ok (.ofInt (-7)) ∧ evaluate .empty r = .ok (.ofInt 2)
    ∧ BinaryOp.rem.exact? (-7) 2 = some (-1)
    ∧ evaluate .empty (.binary .rem l r) = .ok (.ofInt (-1))
  := by
  intro l r
  have exact := arithmetic_exact_iff (f := .empty) (l := l) (r := r) (x := -7) (y := 2) (by decide)
    (by decide) rfl rfl .rem (-1) (by decide)
  refine ⟨by decide, by decide, rfl, rfl, by decide, ?_⟩
  exact (exact.2.1 (by decide) (by decide)).mpr (by decide)

/-- A frame with the least integer of the signed range. -/
def Frame.ofLeast : Frame := empty.put .locals "min" (.ofInt (-9223372036854775808))

/-- The remainder of the least integer by minus one is zero, yet its value is the negative zero
among the doubles. -/
theorem not_arithmetic_exact_least :
  let minusOne : Expr := .unary .neg (.literal (.ofNat 1))
  isSigned (-9223372036854775808) = true ∧ isSigned (-1) = true ∧ isSigned 0 = true
    ∧ evaluate .ofLeast (.var "min") = .ok (.ofInt (-9223372036854775808))
    ∧ evaluate .ofLeast minusOne = .ok (.ofInt (-1))
    ∧ BinaryOp.rem.exact? (-9223372036854775808) (-1) = some 0
    ∧ evaluate .ofLeast (.binary .rem (.var "min") minusOne) ≠ .ok (.ofInt 0)
    ∧ evaluate .ofLeast (.binary .rem (.var "min") minusOne) = .ok (.ofFloat (-0.0))
  := by
  intro minusOne
  have least : evaluate .ofLeast (.var "min") = .ok (.ofInt (-9223372036854775808)) := by cbv
  have one : evaluate .ofLeast minusOne = .ok (.ofInt (-1)) := by cbv
  have double : evaluate .ofLeast (.binary .rem (.var "min") minusOne) = .ok (.ofFloat (-0.0)) := by
    rw [evaluate_arithmetic (by decide) (by decide) (by rfl) least one]
    exact arithmetic_rem_least
  refine ⟨by decide, by decide, by decide, least, one, by decide, ?_, double⟩
  rw [double]
  intro same
  cases Except.ok.inj same

end Instrumentation
