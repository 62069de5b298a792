import Instrumentation.Proofs.Condition.Comparison

/-!
# The order of values

Two numbers stand in an order, and so do two texts. Two integers of the signed range are ordered as
they are, and all other numbers as the doubles that they are seen as; a finite double is a whole
number of units of the least positive one, and doubles are ordered as these. So equality, which has
a case split of its own, answers as the order says, and the operands may be swapped. Other values
stand in no order, but are equal or not.
-/

namespace Instrumentation

open Float.Model (UnpackedFloat)
open Float.Model.UnpackedFloat (Sign)

namespace Binary64

/-- A finite double in units of the least positive one. -/
def inUnits (x : Float) : Int :=
  match x.toModel.unpack with
  | .finite s m e _ => s.apply (units m e)
  | _ => 0

/-- The number that a double is in units of the least positive one. -/
theorem IsFloat.inUnits_eq {x : Float} {s : Sign} {n : Nat} (h : IsFloat x s n) :
  inUnits x = s.apply n
  := by
  rcases h.zero_or_finite with ⟨rfl, zero⟩ | ⟨m, e, _, _, _, rfl, parts⟩
  · rw [inUnits, zero]
    cases s <;> rfl
  · rw [inUnits, parts]

/-- Finite doubles are ordered as the numbers that they are. -/
theorem compare_eq_of_isFinite {x y : Float} (finite : x.isFinite = true)
    (finite' : y.isFinite = true) :
  x.toModel.compare y.toModel = some (compare (inUnits x) (inUnits y))
  := by
  obtain ⟨s, n, left⟩ := exists_isFloat finite
  obtain ⟨s', n', right⟩ := exists_isFloat finite'
  rw [left.inUnits_eq, right.inUnits_eq]
  exact left.compare_eq right

end Binary64

namespace Number

/-- The double nearest to a number is finite. -/
theorem isFinite_toFloat (n : Number) :
  n.toFloat.isFinite = true
  := by
  cases n with
  | integer z =>
    rcases (Binary64.isFloat_ofInt (Condition.natAbs_lt z)).zero_or_finite with
      ⟨-, zero⟩ | ⟨m, e, _, -, -, -, parts⟩
    · exact congrArg UnpackedFloat.isFinite zero
    · exact congrArg UnpackedFloat.isFinite parts
  | double x => exact x.isFinite_val

/-- A number as it is seen beside another one: as it is if both are integers of the signed range,
and as a double otherwise. -/
def beside (m n : Number) : Int :=
  match m.signed?, n.signed? with
  | some x, some _ => x
  | _, _ => Binary64.inUnits m.toFloat

end Number

namespace Condition

/-! ### What stands in an order -/

/-- Two values of a sort that is ordered: numbers, or texts. -/
def Comparable : Json → Json → Prop
  | .number _, .number _ => True
  | .string _, .string _ => True
  | _, _ => False

/-- Two numbers stand in the order in which they are seen. -/
theorem stand_numbers (m n : Number) :
  Stand (.number m) (.number n) (compare (m.beside n) (n.beside m))
  := by
  obtain ⟨order, equal⟩ := orderFloats_eq
    (Binary64.compare_eq_of_isFinite m.isFinite_toFloat n.isFinite_toFloat)
  rw [beq_eq_decide (α := Ordering)] at equal
  -- both definitions split on the same pair, so that they cannot come apart
  cases hm : m.signed? with
  | none => constructor <;> cases hn : n.signed? <;>
      simp only [order?, looselyEqual, Number.beside, hm, hn, order, equal]
  | some x =>
    cases hn : n.signed? with
    | none => constructor <;> simp only [order?, looselyEqual, Number.beside, hm, hn, order, equal]
    | some y =>
      constructor
      · simp only [order?, Number.beside, hm, hn]
      · simp only [looselyEqual, Number.beside, hm, hn, Int.compare_eq_eq, beq_eq_decide]

/-- Two texts stand in their order. -/
theorem stand_texts (s t : String) :
  Stand (.string s) (.string t) (compare s t)
  := by
  use rfl
  simp only [looselyEqual, Json.equiv, Std.compare_eq_iff_eq, beq_eq_decide]

/-- Values of a sort that is ordered stand in an order, and in the opposite one if they are
swapped. -/
theorem Comparable.exists_stand {v w : Json} (h : Comparable v w) :
  ∃ o, Stand v w o ∧ Stand w v o.swap
  := by
  cases v with
  | number m =>
    cases w with
    | number n =>
      use compare (m.beside n) (n.beside m), stand_numbers m n
      rw [Int.compare_swap]
      exact stand_numbers n m
    | _ => cases h
  | string s =>
    cases w with
    | string t =>
      use compare s t, stand_texts s t
      rw [← Std.OrientedCmp.eq_swap]
      exact stand_texts t s
    | _ => cases h
  | _ => cases h

/-- Other values stand in no order. -/
theorem order?_of_not_comparable {v w : Json} (other : ¬Comparable v w) :
  order? v w = none
  := by
  cases v with
  | number m =>
    cases w with
    | number n => exact absurd trivial other
    | _ => rfl
  | string s =>
    cases w with
    | string t => exact absurd trivial other
    | _ => rfl
  | _ => rfl

end Condition

open Condition

/-- The comparison operators agree with each other. Of two numbers, or two texts, exactly one is
less than the other one or they are equal, the other three operators say so, and swapping the
operands swaps less with greater. To other values the orderings do not apply, but equality and
inequality answer, one the opposite of the other. -/
theorem comparisons_consistent {f : Frame} {l r : Expr} {v w : Json}
    (left : evaluate f l = .ok v) (right : evaluate f r = .ok w) :
  (Comparable v w → ∃ less equal greater : Bool,
      [less, equal, greater].count true = 1
        ∧ evaluate f (.binary .lt l r) = .ok (.bool less)
        ∧ evaluate f (.binary .eq l r) = .ok (.bool equal)
        ∧ evaluate f (.binary .gt l r) = .ok (.bool greater)
        ∧ evaluate f (.binary .le l r) = .ok (.bool (less || equal))
        ∧ evaluate f (.binary .ge l r) = .ok (.bool (greater || equal))
        ∧ evaluate f (.binary .ne l r) = .ok (.bool !equal)
        ∧ evaluate f (.binary .lt r l) = .ok (.bool greater)
        ∧ evaluate f (.binary .gt r l) = .ok (.bool less)
        ∧ evaluate f (.binary .eq r l) = .ok (.bool equal))
    ∧ (¬Comparable v w →
      (∀ op ∈ [BinaryOp.lt, .le, .gt, .ge],
          evaluate f (.binary op l r)
            = .error (.typeMismatch op.symbol (typeName v) (typeName w)))
        ∧ ∃ equal : Bool, evaluate f (.binary .eq l r) = .ok (.bool equal)
          ∧ evaluate f (.binary .ne l r) = .ok (.bool !equal))
  := by
  constructor
  · intro comparable
    obtain ⟨o, stand, swapped⟩ := comparable.exists_stand
    have forth {op : BinaryOp} {b : Bool} (answers : op.answer? o = some b)
        (strict : op ≠ .and ∧ op ≠ .or) : evaluate f (.binary op l r) = .ok (.bool b) := by
      rw [evaluate_binary strict left right, stand.apply answers]
    have back {op : BinaryOp} {b : Bool} (answers : op.answer? o.swap = some b)
        (strict : op ≠ .and ∧ op ≠ .or) : evaluate f (.binary op r l) = .ok (.bool b) := by
      rw [evaluate_binary strict right left, swapped.apply answers]
    use o = .lt, o = .eq, o = .gt
    cases o
    all_goals
      exact ⟨rfl, forth rfl (by simp), forth rfl (by simp), forth rfl (by simp),
        forth rfl (by simp), forth rfl (by simp), forth rfl (by simp), back rfl (by simp),
        back rfl (by simp), back rfl (by simp)⟩
  · intro other
    constructor
    · intro op ordering
      have unordered := order?_of_not_comparable other
      simp only [List.mem_cons, List.not_mem_nil, or_false] at ordering
      rcases ordering with rfl | rfl | rfl | rfl
      all_goals
        rw [evaluate_binary (by simp) left right]
        simp only [apply, unordered, mismatch]
    · use looselyEqual v w
      rw [evaluate_binary (by simp) left right, evaluate_binary (by simp) left right]
      exact ⟨rfl, rfl⟩

/-- The next integer after the greatest of those that all are doubles is seen as the double before
it, so that it is not greater. To a text it is not compared at all. -/
theorem comparisons_consistent_mixed :
  let x : Json := .ofUInt64 9007199254740993
  let y : Json := .number (.double ⟨9007199254740992.0, by decide⟩)
  let t : Json := .string "9007199254740993"
  evaluate .empty (.literal x) = .ok x ∧ evaluate .empty (.literal y) = .ok y
    ∧ Comparable x y
    ∧ evaluate .empty (.binary .eq (.literal x) (.literal y)) = .ok (.bool true)
    ∧ evaluate .empty (.binary .gt (.literal x) (.literal y)) = .ok (.bool false)
    ∧ evaluate .empty (.binary .lt (.literal y) (.literal x)) = .ok (.bool false)
    ∧ ¬Comparable x t
    ∧ evaluate .empty (.binary .gt (.literal x) (.literal t))
      = .error (.typeMismatch ">" "number" "string")
  := by
  intro x y t
  have equals : evaluate .empty (.binary .eq (.literal x) (.literal y)) = .ok (.bool true) := by
    rfl
  obtain ⟨less, equal, greater, one, -, eq, gt, -, -, -, lt, -, -⟩ :=
    (comparisons_consistent (f := .empty) (l := .literal x) (r := .literal y) rfl rfl).1 trivial
  obtain ⟨mismatched, -⟩ :=
    (comparisons_consistent (f := .empty) (l := .literal x) (r := .literal t) rfl rfl).2 id
  have chosen : equal = true := by
    simpa using eq.symm.trans equals
  have excluded : greater = false := by
    subst chosen
    revert one
    cases less <;> cases greater <;> decide
  subst excluded
  exact ⟨rfl, rfl, trivial, equals, gt, lt, id, mismatched .gt (by simp)⟩

end Instrumentation
