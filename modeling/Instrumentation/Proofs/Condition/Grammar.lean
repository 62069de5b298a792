import Instrumentation.Condition.Expression
import Instrumentation.Condition.Token
import Mathlib.Tactic.Common

/-!
# The grammar of conditions

An operator of two operands has a precedence, and the operators of one precedence form chains that
group to the left. The operands of a chain are chains of the next precedence, and those of the
last one take prefix operators, then members and items, then literals, names and parentheses.

A derivation also counts the prefix operators, brackets and parentheses around the innermost part
of its expression. It does not mention how a text is read.
-/

namespace Instrumentation.Condition

/-- The precedences of the operators of two operands, the one that binds least first. -/
inductive Precedence where
  /-- Disjunction. -/
  | or
  /-- Conjunction. -/
  | and
  /-- Equality and inequality. -/
  | equality
  /-- The four comparisons. -/
  | comparison
  /-- Sum and difference. -/
  | additive
  /-- Product, quotient and remainder. -/
  | multiplicative

namespace BinaryOp

/-- The precedence of an operator. -/
def precedence : BinaryOp → Precedence
  | or => .or
  | and => .and
  | eq | ne => .equality
  | lt | le | gt | ge => .comparison
  | add | sub => .additive
  | mul | div | rem => .multiplicative

/-- The token of an operator. -/
def token : BinaryOp → Token
  | or => .or
  | and => .and
  | eq => .eq
  | ne => .ne
  | lt => .lt
  | le => .le
  | gt => .gt
  | ge => .ge
  | add => .plus
  | sub => .minus
  | mul => .star
  | div => .slash
  | rem => .percent

end BinaryOp

/-- The value that a token writes out, if it does. -/
def Token.literal? : Token → Option Json
  | int n => some (Json.ofNat n)
  | float x => some (Json.ofFloat x)
  | str s => some (.string s)
  | yes => some (.bool true)
  | no => some (.bool false)
  | nothing => some .null
  | _ => none

/-- The forms of expressions. -/
inductive Rank where
  /-- A chain of operands between the operators of a precedence. -/
  | chain (p : Precedence)
  /-- An expression behind prefix operators. -/
  | prefixed
  /-- An expression with members and items taken from it. -/
  | postfixed
  /-- A literal, a name, or an expression in parentheses. -/
  | primary

/-- The form of the operands of a chain. -/
def Precedence.operand : Precedence → Rank
  | or => .chain .and
  | and => .chain .equality
  | equality => .chain .comparison
  | comparison => .chain .additive
  | additive => .chain .multiplicative
  | multiplicative => .prefixed

/-- The derivations of an expression from tokens. The number counts the prefix operators, brackets
and parentheses on the path that has most of them. -/
inductive Derives : Rank → List Token → Expr → Nat → Prop
  /-- A single operand. -/
  | operand {p : Precedence} {ts : List Token} {e : Expr} {d : Nat}
      (h : Derives p.operand ts e d) :
    Derives (.chain p) ts e d
  /-- One more operand, behind an operator. -/
  | binary {p : Precedence} {ts us : List Token} {l r : Expr} {d d' : Nat} (op : BinaryOp)
      (own : op.precedence = p) (left : Derives (.chain p) ts l d)
      (right : Derives p.operand us r d') :
    Derives (.chain p) (ts ++ op.token :: us) (.binary op l r) (max d d')
  /-- A negation. -/
  | not {ts : List Token} {e : Expr} {d : Nat} (h : Derives .prefixed ts e d) :
    Derives .prefixed (.not :: ts) (.unary .not e) (d + 1)
  /-- An opposite. -/
  | neg {ts : List Token} {e : Expr} {d : Nat} (h : Derives .prefixed ts e d) :
    Derives .prefixed (.minus :: ts) (.unary .neg e) (d + 1)
  /-- No prefix operator. -/
  | postfixed {ts : List Token} {e : Expr} {d : Nat} (h : Derives .postfixed ts e d) :
    Derives .prefixed ts e d
  /-- No member and no item. -/
  | primary {ts : List Token} {e : Expr} {d : Nat} (h : Derives .primary ts e d) :
    Derives .postfixed ts e d
  /-- A member. -/
  | member {ts : List Token} {e : Expr} {d : Nat} (name : String)
      (base : Derives .postfixed ts e d) :
    Derives .postfixed (ts ++ [.dot, .ident name]) (.member e name) d
  /-- An item. -/
  | index {ts us : List Token} {e i : Expr} {d d' : Nat} (base : Derives .postfixed ts e d)
      (position : Derives (.chain .or) us i d') :
    Derives .postfixed (ts ++ .lbracket :: (us ++ [.rbracket])) (.index e i) (max d (d' + 1))
  /-- A literal. -/
  | literal {t : Token} {v : Json} (h : t.literal? = some v) :
    Derives .primary [t] (.literal v) 0
  /-- A name. -/
  | name (name : String) :
    Derives .primary [.ident name] (.var name) 0
  /-- An expression in parentheses. -/
  | paren {ts : List Token} {e : Expr} {d : Nat} (h : Derives (.chain .or) ts e d) :
    Derives .primary (.lparen :: (ts ++ [.rparen])) e (d + 1)

namespace Derives

variable {rank : Rank} {ts : List Token} {e : Expr} {d : Nat}

/-- The end marker is part of no expression. -/
theorem finish_not_mem (h : Derives rank ts e d) :
  .finish ∉ ts
  := by
  induction h with
  | operand _ ih => exact ih
  | binary op _ _ _ left right =>
    have mark : Token.finish ≠ op.token := by cases op <;> simp [BinaryOp.token]
    simp [left, right, mark]
  | not _ ih => simp [ih]
  | neg _ ih => simp [ih]
  | postfixed _ ih => exact ih
  | primary _ ih => exact ih
  | member name _ ih => simp [ih]
  | index _ _ base position => simp [base, position]
  | @literal t v h =>
    rw [List.mem_singleton]
    rintro rfl
    cases h
  | name => simp
  | paren _ ih => simp [ih]

/-- An expression without prefix operator starts with none. -/
theorem exists_first (h : Derives rank ts e d) (outer : rank = .postfixed ∨ rank = .primary) :
  ∃ t us, ts = t :: us ∧ t ≠ .not ∧ t ≠ .minus
  := by
  induction h with
  | operand _ _ => simp at outer
  | binary _ _ _ _ _ _ => simp at outer
  | not _ _ => simp at outer
  | neg _ _ => simp at outer
  | postfixed _ _ => simp at outer
  | primary _ ih => apply ih (.inr rfl)
  | member name _ ih =>
    obtain ⟨t, us, rfl, first⟩ := ih (.inl rfl)
    exact ⟨t, _, rfl, first⟩
  | index _ _ ih _ =>
    obtain ⟨t, us, rfl, first⟩ := ih (.inl rfl)
    exact ⟨t, _, rfl, first⟩
  | @literal t v h =>
    use t, [], rfl
    constructor
    · rintro rfl
      cases h
    · rintro rfl
      cases h
  | name name => exact ⟨.ident name, [], rfl, by simp⟩
  | paren _ _ => exact ⟨.lparen, _, rfl, by simp⟩

end Derives

end Instrumentation.Condition
