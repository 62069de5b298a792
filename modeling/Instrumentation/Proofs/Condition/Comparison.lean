import Instrumentation.Proofs.Binary64.Integer
import Instrumentation.Proofs.Condition.Evaluation

/-!
# The comparison of integers in conditions

Two integers of the signed range are compared as they are. If one of them is above that range, both
are compared as doubles, and so as the integers of 53 significant bits that are nearest.
-/

namespace Instrumentation

namespace Condition

/-- Whether an operator compares two integers, and what the comparison is. -/
def BinaryOp.compares? : BinaryOp → Int → Int → Option Bool
  | eq, x, y => some (x = y)
  | ne, x, y => some (x ≠ y)
  | lt, x, y => some (x < y)
  | le, x, y => some (x ≤ y)
  | gt, x, y => some (y < x)
  | ge, x, y => some (y ≤ x)
  | _, _, _ => none

/-! ### Values in order -/

/-- Whether an operator compares two values, and what the comparison is of values in an order. -/
def BinaryOp.answer? : BinaryOp → Ordering → Option Bool
  | eq, o => some (o = .eq)
  | ne, o => some (o ≠ .eq)
  | lt, o => some (o = .lt)
  | le, o => some (o ≠ .gt)
  | gt, o => some (o = .gt)
  | ge, o => some (o ≠ .lt)
  | _, _ => none

/-- Integers are compared as their order says. -/
theorem BinaryOp.compares?_eq_answer? (op : BinaryOp) (x y : Int) :
  op.compares? x y = op.answer? (compare x y)
  := by
  cases op
  case or | and | add | sub | mul | div | rem => rfl
  case eq | ne => simp only [compares?, answer?, ne_eq, Int.compare_eq_eq]
  case lt | ge => simp only [compares?, answer?, Int.compare_eq_lt, Int.compare_ne_lt]
  case le | gt => simp only [compares?, answer?, Int.compare_eq_gt, Int.compare_ne_gt]

/-- Two values stand in an order: this is their order, and they are equal as it says. -/
structure Stand (v w : Json) (o : Ordering) : Prop where
  /-- Their order. -/
  order : order? v w = some o
  /-- Their equality. -/
  equal : looselyEqual v w = decide (o = .eq)

/-- The operators compare two values as their order says. -/
theorem Stand.apply {v w : Json} {o : Ordering} {op : BinaryOp} {b : Bool} (h : Stand v w o)
    (answers : op.answer? o = some b) :
  apply op v w = .ok (.bool b)
  := by
  cases op
  case or | and | add | sub | mul | div | rem => cases answers
  case eq | ne =>
    obtain rfl := Option.some.inj answers
    simp only [Condition.apply, h.equal, ne_eq, decide_not]
  case lt | le | gt | ge =>
    obtain rfl := Option.some.inj answers
    simp only [Condition.apply, h.order, comparison]

/-! ### Integers -/

/-- Two doubles are ordered as the numbers that they are. -/
theorem orderFloats_eq {u v : Float} {o : Ordering} (order : u.toModel.compare v.toModel = some o) :
  orderFloats u v = o ∧ (u == v) = (o == .eq)
  := by
  have order' : u.toModel.unpack.compare v.toModel.unpack = some o := order
  have less_model : u.toModel < v.toModel ↔ o = .lt := by
    change (u.toModel.unpack.compare v.toModel.unpack == some .lt) = true ↔ _
    rw [order', beq_iff_eq, Option.some.injEq]
  have less : u < v ↔ o = .lt := decide_eq_true_iff.trans less_model
  have same : (u == v) = (o == .eq) := by
    change (u.toModel.unpack.compare v.toModel.unpack == some .eq) = _
    rw [order']
    rfl
  refine ⟨?_, same⟩
  rw [orderFloats, same, if_congr less rfl rfl]
  cases o <;> rfl

/-- Two integers are equal if neither is less. -/
theorem compare_beq_eq (x y : Int) :
  (compare x y == .eq) = decide (x = y)
  := by
  rw [Bool.eq_iff_iff, beq_iff_eq, Int.compare_eq_eq, decide_eq_true_eq]

/-- Both integers are in the signed range. -/
def BothSigned (x y : Integer) : Prop :=
  isSigned x.val = true ∧ isSigned y.val = true

instance (x y : Integer) : Decidable (BothSigned x y) := inferInstanceAs (Decidable (_ ∧ _))

/-- An integer as it is compared with another one: as it is if both are in the signed range, and
otherwise rounded to 53 significant bits. -/
def seen (x y : Integer) (z : Int) : Int := if BothSigned x y then z else nearestInt z

/-- An integer of the signed range is one. -/
theorem signed?_eq (x : Integer) :
  x.signed? = if isSigned x.val = true then some x.val else none
  := by
  have signed : isSigned x.val = true ↔ x.val < 9223372036854775808 := by
    rw [isSigned, Bool.and_eq_true, decide_eq_true_eq, decide_eq_true_eq]
    exact and_iff_right x.le_val
  rw [Integer.signed?, if_congr signed rfl rfl]

/-- The size of an integer. -/
theorem natAbs_lt (x : Integer) :
  x.val.natAbs < 2 ^ 64
  := by
  have := x.le_val
  have := x.val_lt
  omega

/-- The order of two integers. -/
theorem order?_integer (x y : Integer) :
  order? (.number (.integer x)) (.number (.integer y))
    = some (compare (seen x y x.val) (seen x y y.val))
  := by
  have rounded := (orderFloats_eq (Binary64.compare_ofInt (natAbs_lt x) (natAbs_lt y))).1
  simp only [order?, Number.signed?, signed?_eq, seen, BothSigned]
  by_cases hx : isSigned x.val = true
  · by_cases hy : isSigned y.val = true
    · simp only [hx, hy, and_self, if_true]
    · simp only [hx, hy, and_false, if_true, if_false, Bool.false_eq_true, Number.toFloat, rounded]
  · simp only [hx, false_and, if_false, Bool.false_eq_true, Number.toFloat, rounded]

/-- The equality of two integers. -/
theorem looselyEqual_integer (x y : Integer) :
  looselyEqual (.number (.integer x)) (.number (.integer y))
    = decide (seen x y x.val = seen x y y.val)
  := by
  have rounded := (orderFloats_eq (Binary64.compare_ofInt (natAbs_lt x) (natAbs_lt y))).2
  rw [compare_beq_eq] at rounded
  simp only [looselyEqual, Number.signed?, signed?_eq, seen, BothSigned]
  by_cases hx : isSigned x.val = true
  · by_cases hy : isSigned y.val = true
    · simp only [hx, hy, and_self, if_true]
      rfl
    · simp only [hx, hy, and_false, if_true, if_false, Bool.false_eq_true, Number.toFloat, rounded]
  · simp only [hx, false_and, if_false, Bool.false_eq_true, Number.toFloat, rounded]

/-- Two integers stand in the order in which they are seen. -/
theorem stand_integers (x y : Integer) :
  Stand (.number (.integer x)) (.number (.integer y))
    (compare (seen x y x.val) (seen x y y.val))
  := by
  use order?_integer x y
  rw [looselyEqual_integer]
  simp only [Int.compare_eq_eq]

/-- The operators compare integers as these are seen. -/
theorem apply_integers {op : BinaryOp} {x y : Integer} {b : Bool}
    (compares : op.compares? (seen x y x.val) (seen x y y.val) = some b) :
  apply op (.number (.integer x)) (.number (.integer y)) = .ok (.bool b)
  := by
  rw [op.compares?_eq_answer?] at compares
  exact (stand_integers x y).apply compares

/-- The comparison of rounded integers is right unless they are made equal. -/
theorem compares?_nearestInt {x y : Int} (op : BinaryOp)
    (kept : x = y ∨ nearestInt x ≠ nearestInt y) :
  op.compares? (nearestInt x) (nearestInt y) = op.compares? x y
  := by
  have less : nearestInt x < nearestInt y ↔ x < y := by
    have := nearestInt_mono (z := x) (w := y)
    have := nearestInt_mono (z := y) (w := x)
    omega
  have greater : nearestInt y < nearestInt x ↔ y < x := by
    have := nearestInt_mono (z := x) (w := y)
    have := nearestInt_mono (z := y) (w := x)
    omega
  have same : nearestInt x = nearestInt y ↔ x = y := by omega
  cases op
  case or | and | add | sub | mul | div | rem => rfl
  case eq | ne => simp only [BinaryOp.compares?, ne_eq, same]
  case lt | gt => simp only [BinaryOp.compares?, less, greater]
  case le | ge => simp only [BinaryOp.compares?, ← not_lt, less, greater]

/-- A comparison is applied to the values of its operands. -/
theorem evaluate_comparison {f : Frame} {l r : Expr} {op : BinaryOp} {x y : Integer} {u v : Int}
    {b : Bool} (left : evaluate f l = .ok (.number (.integer x)))
    (right : evaluate f r = .ok (.number (.integer y))) (compares : op.compares? u v = some b) :
  evaluate f (.binary op l r) = apply op (.number (.integer x)) (.number (.integer y))
  := by
  refine evaluate_binary ⟨?_, ?_⟩ left right
  · rintro rfl
    cases compares
  · rintro rfl
    cases compares

end Condition

open Condition

/-- The comparison operators answer as the integers compare that are seen, the operands themselves
if both are in the signed range and the nearest integers of 53 significant bits otherwise. So they
all answer exactly as the integers compare just if both are in the signed range, or they are equal,
or they are not rounded to the same integer. -/
theorem integers_compared_iff {f : Frame} {l r : Expr} {x y : Integer}
    (left : evaluate f l = .ok (.number (.integer x)))
    (right : evaluate f r = .ok (.number (.integer y))) :
  (∀ op b, op.compares? (seen x y x.val) (seen x y y.val) = some b
      → evaluate f (.binary op l r) = .ok (.bool b))
    ∧ ((∀ op b, op.compares? x.val y.val = some b → evaluate f (.binary op l r) = .ok (.bool b))
      ↔ BothSigned x y ∨ x = y ∨ nearestInt x.val ≠ nearestInt y.val)
  := by
  have answers : ∀ op b, op.compares? (seen x y x.val) (seen x y y.val) = some b
      → evaluate f (.binary op l r) = .ok (.bool b) := by
    intro op b compares
    rw [evaluate_comparison left right compares, apply_integers compares]
  refine ⟨answers, ?right, ?exact⟩
  case right =>
    intro exact
    by_cases both : BothSigned x y
    · exact .inl both
    refine .inr (or_iff_not_imp_right.mpr fun same => ?_)
    -- the operands are made equal, and equality has to answer that they are
    have equal := answers .eq true (by simp only [seen, if_neg both, not_not.mp same,
      BinaryOp.compares?, decide_true])
    have answered := (exact .eq (x.val = y.val) rfl).symm.trans equal
    have value : x.val = y.val := by simpa using answered
    cases x
    cases y
    congr
  case exact =>
    intro kept op b compares
    refine answers op b ?_
    by_cases both : BothSigned x y
    · rwa [seen, seen, if_pos both, if_pos both]
    · rw [seen, seen, if_neg both, if_neg both, compares?_nearestInt op, compares]
      exact (kept.resolve_left both).imp_left (congrArg Integer.val)

/-- The least word above the signed range is greater than the double next to it. -/
theorem integers_compared_iff_word :
  let x : Integer := .ofUInt64 9223372036854775808
  let y : Integer := .ofUInt64 9223372036854777856
  let l : Expr := .literal (.number (.integer x))
  let r : Expr := .literal (.number (.integer y))
  evaluate .empty l = .ok (.number (.integer x)) ∧ evaluate .empty r = .ok (.number (.integer y))
    ∧ ¬BothSigned x y ∧ nearestInt x.val ≠ nearestInt y.val
    ∧ evaluate .empty (.binary .lt l r) = .ok (.bool true)
  := by
  intro x y l r
  have differ : nearestInt x.val ≠ nearestInt y.val := by decide
  have compared := integers_compared_iff (f := .empty) (l := l) (r := r) (x := x) (y := y) rfl rfl
  exact ⟨rfl, rfl, by decide, differ, compared.2.mpr (.inr (.inr differ)) .lt true (by decide)⟩

/-- A frame with the greatest integer of the signed range and the next one. -/
def Frame.ofGreatest : Frame :=
  (empty.put .locals "a" (.ofUInt64 9223372036854775807)).put .locals "b"
    (.ofUInt64 9223372036854775808)

/-- The greatest integer of the signed range is less than the next one, yet their values are said to
be equal. -/
theorem not_integers_compared_greatest :
  let x : Integer := .ofUInt64 9223372036854775807
  let y : Integer := .ofUInt64 9223372036854775808
  evaluate .ofGreatest (.var "a") = .ok (.number (.integer x))
    ∧ evaluate .ofGreatest (.var "b") = .ok (.number (.integer y))
    ∧ BinaryOp.eq.compares? x.val y.val = some false
    ∧ evaluate .ofGreatest (.binary .eq (.var "a") (.var "b")) ≠ .ok (.bool false)
    ∧ BinaryOp.lt.compares? x.val y.val = some true
    ∧ evaluate .ofGreatest (.binary .lt (.var "a") (.var "b")) ≠ .ok (.bool true)
  := by
  intro x y
  have first : evaluate .ofGreatest (.var "a") = .ok (.number (.integer x)) := by cbv
  have second : evaluate .ofGreatest (.var "b") = .ok (.number (.integer y)) := by cbv
  have answers (op : BinaryOp) (b : Bool)
      (compares : op.compares? (seen x y x.val) (seen x y y.val) = some b) :
      evaluate .ofGreatest (.binary op (.var "a") (.var "b")) = .ok (.bool b) := by
    rw [evaluate_comparison first second compares, apply_integers compares]
  refine ⟨first, second, by decide, ?_, by decide, ?_⟩
  · rw [answers .eq true (by decide)]
    simp
  · rw [answers .lt false (by decide)]
    simp

end Instrumentation
