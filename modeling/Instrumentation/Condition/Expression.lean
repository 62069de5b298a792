import Instrumentation.Json.Printer

/-!
# Expressions

The trees that conditions denote. A tree that leads to a value has a path text, by which
messages name it.
-/

namespace Instrumentation.Condition

/-- The operators of one operand. -/
inductive UnaryOp where
  /-- The negation of a truth value. -/
  | not
  /-- The opposite of a number. -/
  | neg
deriving DecidableEq, Inhabited

/-- The operators of two operands. -/
inductive BinaryOp where
  /-- Disjunction. -/
  | or
  /-- Conjunction. -/
  | and
  /-- Equality. -/
  | eq
  /-- Inequality. -/
  | ne
  /-- Less. -/
  | lt
  /-- At most. -/
  | le
  /-- Greater. -/
  | gt
  /-- At least. -/
  | ge
  /-- Sum, and concatenation of texts. -/
  | add
  /-- Difference. -/
  | sub
  /-- Product. -/
  | mul
  /-- Quotient. -/
  | div
  /-- Remainder. -/
  | rem
deriving DecidableEq, Inhabited

/-- The mark of an operator. -/
def BinaryOp.symbol : BinaryOp → String
  | or => "||"
  | and => "&&"
  | eq => "=="
  | ne => "!="
  | lt => "<"
  | le => "<="
  | gt => ">"
  | ge => ">="
  | add => "+"
  | sub => "-"
  | mul => "*"
  | div => "/"
  | rem => "%"

/-- An expression. -/
inductive Expr where
  /-- A value written out. -/
  | literal (v : Json)
  /-- A captured value by its bare name. -/
  | var (name : String)
  /-- A member of a value. -/
  | member (base : Expr) (name : String)
  /-- An item of a value, by position or by key. -/
  | index (base position : Expr)
  /-- An operator applied to one operand. -/
  | unary (op : UnaryOp) (operand : Expr)
  /-- An operator applied to two operands. -/
  | binary (op : BinaryOp) (left right : Expr)
deriving Inhabited

/-- The path text of an expression. -/
def Expr.path : Expr → String
  | literal v => v.compress
  | var name => name
  | member base name => base.path ++ "." ++ name
  | index base _ => base.path ++ "[..]"
  | unary _ _ => "(..)"
  | binary _ _ _ => "(..)"

end Instrumentation.Condition
