import Instrumentation.Condition
import Instrumentation.Proofs.Condition.Parse
import Mathlib

/-!
# How large expressions are

Branches lead from an expression to its parts, and paths of branches to what these are made of. A
branch nests if it leads to the operand of a prefix operator or to the position of an item. Chains
of operands, and of members and items, make an expression higher by branches that do not nest, so
that the budget of the reader does not bound its height.

A derivation has a token for each node of its expression, and counts the branches that nest. So the
number of tokens bounds the size of an expression that is read, and with it the height, and the
budget bounds the branches that nest on each path.
-/

namespace Instrumentation.Condition

/-! ### Branches and paths -/

/-- The branches from an expression to its parts. -/
inductive Branch where
  /-- To what a member or an item is taken from. -/
  | base
  /-- To the position of an item. -/
  | position
  /-- To the operand of a prefix operator. -/
  | operand
  /-- To the left operand. -/
  | left
  /-- To the right operand. -/
  | right

/-- The branch leads to the operand of a prefix operator or to the position of an item. -/
def Branch.nests : Branch → Bool
  | position | operand => true
  | base | left | right => false

namespace Expr

/-- The part to which a branch leads. -/
def part? : Expr → Branch → Option Expr
  | member base _, .base => some base
  | index base _, .base => some base
  | index _ position, .position => some position
  | unary _ operand, .operand => some operand
  | binary _ left _, .left => some left
  | binary _ _ right, .right => some right
  | _, _ => none

/-- The expression at the end of a path of branches. -/
def follow? : Expr → List Branch → Option Expr
  | e, [] => some e
  | e, b :: path => (e.part? b).bind fun x => x.follow? path

/-! ### Measures -/

/-- The number of nodes. -/
def size : Expr → Nat
  | literal _ => 1
  | var _ => 1
  | member base _ => base.size + 1
  | index base position => base.size + position.size + 1
  | unary _ operand => operand.size + 1
  | binary _ left right => left.size + right.size + 1

/-- The number of nodes on the path that has most of them. -/
def height : Expr → Nat
  | literal _ => 1
  | var _ => 1
  | member base _ => base.height + 1
  | index base position => max base.height position.height + 1
  | unary _ operand => operand.height + 1
  | binary _ left right => max left.height right.height + 1

/-- The number of branches that nest, on the path that has most of them. -/
def nesting : Expr → Nat
  | literal _ => 0
  | var _ => 0
  | member base _ => base.nesting
  | index base position => max base.nesting (position.nesting + 1)
  | unary _ operand => operand.nesting + 1
  | binary _ left right => max left.nesting right.nesting

variable {e x : Expr} {b : Branch} {path : List Branch}

/-- An expression has nodes. -/
theorem height_pos (e : Expr) :
  0 < e.height
  := by
  cases e <;> simp [height]

/-- No path has more nodes than there are. -/
theorem height_le_size (e : Expr) :
  e.height ≤ e.size
  := by
  induction e with
  | literal v => exact Nat.le_refl 1
  | var name => exact Nat.le_refl 1
  | member base name ih => exact Nat.succ_le_succ ih
  | unary op operand ih => exact Nat.succ_le_succ ih
  | index base position ih ih' =>
    rw [height, size]
    omega
  | binary op left right ih ih' =>
    rw [height, size]
    omega

/-- A part is not as high as the whole. -/
theorem height_lt_of_part (h : e.part? b = some x) :
  x.height < e.height
  := by
  cases e <;> cases b <;> cases h <;> rw [height] <;> omega

/-- A branch that nests leads to a part that is nested less. -/
theorem nesting_le_of_part (h : e.part? b = some x) :
  x.nesting + (if b.nests then 1 else 0) ≤ e.nesting
  := by
  cases e <;> cases b <;> cases h
    <;> simp only [nesting, Branch.nests, Bool.false_eq_true, if_true, if_false] <;> omega

/-- Each branch of a path leads to a part that is not as high. -/
theorem height_le_of_follow (h : e.follow? path = some x) :
  x.height + path.length ≤ e.height
  := by
  induction path generalizing e with
  | nil =>
    obtain rfl := Option.some.inj h
    exact Nat.le_refl _
  | cons b path ih =>
    obtain ⟨y, part, rest⟩ := Option.bind_eq_some_iff.mp h
    have below := ih rest
    have lower := height_lt_of_part part
    rw [List.length_cons]
    omega

/-- Each branch of a path that nests leads to a part that is nested less. -/
theorem nesting_le_of_follow (h : e.follow? path = some x) :
  x.nesting + path.countP Branch.nests ≤ e.nesting
  := by
  induction path generalizing e with
  | nil =>
    obtain rfl := Option.some.inj h
    exact Nat.le_refl _
  | cons b path ih =>
    obtain ⟨y, part, rest⟩ := Option.bind_eq_some_iff.mp h
    have below := ih rest
    have nested := nesting_le_of_part part
    rw [List.countP_cons]
    omega

end Expr

/-! ### Derivations -/

namespace Derives

variable {rank : Rank} {ts : List Token} {e : Expr} {d : Nat}

/-- There is a token for each node. -/
theorem size_le (h : Derives rank ts e d) :
  e.size ≤ ts.length
  := by
  induction h with
  | operand _ ih => exact ih
  | binary op _ _ _ left right =>
    rw [Expr.size, List.length_append, List.length_cons]
    omega
  | not _ ih => exact Nat.succ_le_succ ih
  | neg _ ih => exact Nat.succ_le_succ ih
  | postfixed _ ih => exact ih
  | primary _ ih => exact ih
  | member name _ ih =>
    rw [Expr.size, List.length_append, List.length_cons]
    omega
  | index _ _ base position =>
    rw [Expr.size, List.length_append, List.length_cons, List.length_append]
    omega
  | literal _ => exact Nat.le_refl 1
  | name _ => exact Nat.le_refl 1
  | paren _ ih =>
    rw [List.length_cons, List.length_append]
    omega

/-- The branches that nest are counted, and so are parentheses. -/
theorem nesting_le (h : Derives rank ts e d) :
  e.nesting ≤ d
  := by
  induction h with
  | operand _ ih => exact ih
  | binary op _ _ _ left right =>
    rw [Expr.nesting]
    omega
  | not _ ih => exact Nat.succ_le_succ ih
  | neg _ ih => exact Nat.succ_le_succ ih
  | postfixed _ ih => exact ih
  | primary _ ih => exact ih
  | member name _ ih => exact ih
  | index _ _ base position =>
    rw [Expr.nesting]
    omega
  | literal _ => exact Nat.le_refl 0
  | name _ => exact Nat.le_refl 0
  | paren _ ih => exact Nat.le_succ_of_le ih

end Derives

/-- What is read from a text is derived from its tokens before the end marker. -/
theorem exists_derives_of_parse {source : String} {e : Expr} (h : parse source = .ok e) :
  ∃ body last, tokenize source = .ok (body ++ [⟨.finish, last⟩])
    ∧ (∀ t ∈ body, t.token ≠ .finish) ∧ body.length ≤ 1023
    ∧ ∃ d ≤ 64, Derives (.chain .or) (body.map Lexeme.token) e d
  := by
  obtain ⟨tokens, rest, found, short, taken, ended⟩ := parse_eq_ok_iff.mp h
  obtain ⟨body, last, rfl, clean⟩ := tokenize_finish found
  obtain ⟨front, d, tokens, lt, derived⟩ := reads_whole.sound taken
  obtain rfl := front_eq_body tokens clean derived.finish_not_mem ended
  rw [List.length_append, List.length_singleton] at short
  exact ⟨front, last, found, clean, by omega, d, Nat.le_of_lt_succ lt, derived⟩

end Instrumentation.Condition

namespace Instrumentation.Predicate

open Condition

/-- The expression of a condition has at most one node for each token but the end marker. So it has
at most 1023 nodes, and no path has more. On every path, whether it leads to a leaf or not, at most
64 branches lead to the operand of a prefix operator or to the position of an item. -/
theorem expression_bounded {source : String} {p : Predicate} (compiled : compile source = .ok p) :
  (∃ body last, tokenize source = .ok (body ++ [⟨.finish, last⟩])
    ∧ (∀ t ∈ body, t.token ≠ .finish) ∧ p.expression.size ≤ body.length)
    ∧ p.expression.size ≤ 1023 ∧ p.expression.height ≤ 1023
    ∧ ∀ path e, p.expression.follow? path = some e →
      path.length < p.expression.height ∧ path.countP Branch.nests ≤ 64
  := by
  obtain ⟨e, read, made⟩ := bind_eq_ok.mp compiled
  obtain rfl := Except.ok.inj made
  obtain ⟨body, last, found, clean, short, d, le, derived⟩ := exists_derives_of_parse read
  have nodes : e.size ≤ body.length := by
    rw [← List.length_map]
    exact derived.size_le
  have size : e.size ≤ 1023 := Nat.le_trans nodes short
  refine ⟨⟨body, last, found, clean, nodes⟩, size, Nat.le_trans e.height_le_size size, ?_⟩
  intro path x leads
  constructor
  · have lower := Expr.height_le_of_follow leads
    exact Nat.lt_of_lt_of_le (Nat.lt_add_of_pos_left x.height_pos) lower
  · calc path.countP Branch.nests
      _ ≤ x.nesting + path.countP Branch.nests := Nat.le_add_left ..
      _ ≤ e.nesting := Expr.nesting_le_of_follow leads
      _ ≤ d := derived.nesting_le
      _ ≤ 64 := le

/-- An item negated a number of times. -/
def negated : Nat → Expr
  | 0 => .index (.var "flags") (.var "i")
  | n + 1 => .unary .not (negated n)

/-- The condition that negates an item a number of times. -/
def ofNegated (n : Nat) : Predicate where
  source := String.ofList (List.replicate n '!') ++ "flags[i]"
  expression := negated n

/-- The path to the position of the item. -/
def innermost (n : Nat) : List Branch := List.replicate n .operand ++ [.position]

/-- Each negation is a branch on the way to the position. -/
theorem follow_innermost (n : Nat) :
  (negated n).follow? (innermost n) = some (.var "i")
  := by
  induction n with
  | zero => rfl
  | succ n ih => exact ih

/-- An item negated 63 times is nested as deeply as may be. -/
theorem expression_bounded_negated :
  compile (ofNegated 63).source = .ok (ofNegated 63)
    ∧ (ofNegated 63).expression.follow? (innermost 63) = some (.var "i")
    ∧ (∃ body last, tokenize (ofNegated 63).source = .ok (body ++ [⟨.finish, last⟩])
      ∧ (∀ t ∈ body, t.token ≠ .finish) ∧ (ofNegated 63).expression.size ≤ body.length)
    ∧ (ofNegated 63).expression.size ≤ 1023 ∧ (ofNegated 63).expression.height ≤ 1023
    ∧ (innermost 63).length < (ofNegated 63).expression.height
    ∧ (innermost 63).countP Branch.nests ≤ 64 ∧ (innermost 63).countP Branch.nests = 64
  := by
  have compiled : compile (ofNegated 63).source = .ok (ofNegated 63) := by cbv
  have leads : (ofNegated 63).expression.follow? (innermost 63) = some (.var "i") :=
    follow_innermost 63
  obtain ⟨tokens, size, height, paths⟩ := expression_bounded compiled
  obtain ⟨shorter, bounded⟩ := paths _ _ leads
  exact ⟨compiled, leads, tokens, size, height, shorter, bounded, by decide⟩

end Instrumentation.Predicate
