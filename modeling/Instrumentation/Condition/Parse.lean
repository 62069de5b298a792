import Instrumentation.Condition.Expression
import Instrumentation.Condition.Lexeme

/-!
# Reading expressions

The operators of two operands stand on six levels, each a chain that groups to the left; the
lowest level is disjunction. Below them stand the prefix operators, then member access and
indexing, then literals, names and parentheses.

Parentheses, brackets and prefix operators may be nested up to a budget, and a text may have so
many tokens. The reader recurses on the budget and runs through each chain on the tokens that
are left.
-/

namespace Instrumentation.Condition

/-- The most enclosing parentheses, brackets and prefix operators. -/
def maxNesting : Nat := 64

/-- The most tokens of a text, with the end marker. -/
def maxTokens : Nat := 1024

/-- A reader of an expression at the front of a list of tokens, which the end marker ends. -/
abbrev Reader := List Lexeme → Except ConditionError (Expr × List Lexeme)

/-- The place of the first token. -/
def here : List Lexeme → Nat
  | [] => 0
  | t :: _ => t.offset

/-- The tokens that continue a chain, with their operators. -/
abbrev Level := Token → Option BinaryOp

/-- Disjunction. -/
def orLevel : Level
  | .or => some .or
  | _ => none

/-- Conjunction. -/
def andLevel : Level
  | .and => some .and
  | _ => none

/-- Equality and inequality. -/
def equalityLevel : Level
  | .eq => some .eq
  | .ne => some .ne
  | _ => none

/-- The four comparisons. -/
def comparisonLevel : Level
  | .lt => some .lt
  | .le => some .le
  | .gt => some .gt
  | .ge => some .ge
  | _ => none

/-- Sum and difference. -/
def additiveLevel : Level
  | .plus => some .add
  | .minus => some .sub
  | _ => none

/-- Product, quotient and remainder. -/
def multiplicativeLevel : Level
  | .star => some .mul
  | .slash => some .div
  | .percent => some .rem
  | _ => none

/-- The levels, the one that binds least first. -/
def levels : List Level :=
  [orLevel, andLevel, equalityLevel, comparisonLevel, additiveLevel, multiplicativeLevel]

/-- The rest of a chain after its first operands. The fuel bounds the number of tokens. -/
def chainRest (level : Level) (operand : Reader) :
    Nat → Expr → List Lexeme → Except ConditionError (Expr × List Lexeme)
  | 0, left, ts => .ok (left, ts)
  | _ + 1, left, [] => .ok (left, [])
  | fuel + 1, left, t :: ts =>
    match level t.token with
    | none => .ok (left, t :: ts)
    | some op => do
      let (right, rest) ← operand ts
      chainRest level operand fuel (.binary op left right) rest

/-- A chain of operands between the operators of a level, grouped to the left. -/
def chain (level : Level) (operand : Reader) : Reader := fun ts => do
  let (left, rest) ← operand ts
  chainRest level operand rest.length left rest

/-- An expression of any level over operands of the highest. -/
def expression (operand : Reader) : Reader := levels.foldr chain operand

/-- The failure to go one nesting deeper. -/
def tooDeep : Reader := fun ts => .error (.malformed (here ts) "expression nested too deeply")

/-- The tokens after an expected one. -/
def expect (token : Token) (mark : String) :
    List Lexeme → Except ConditionError (List Lexeme)
  | [] => .error (.malformed 0 ("expected " ++ mark))
  | t :: ts =>
    if t.token = token then .ok ts else .error (.malformed t.offset ("expected " ++ mark))

/-- A literal, a name, or an expression in parentheses. -/
def primary (inner : Reader) : Reader
  | [] => .error (.malformed 0 "unexpected end of expression")
  | t :: ts =>
    match t.token with
    | .int n => .ok (.literal (Json.ofNat n), ts)
    | .float x => .ok (.literal (Json.ofFloat x), ts)
    | .str s => .ok (.literal (.string s), ts)
    | .yes => .ok (.literal (.bool true), ts)
    | .no => .ok (.literal (.bool false), ts)
    | .nothing => .ok (.literal .null, ts)
    | .ident name => .ok (.var name, ts)
    | .lparen => do
      let (e, rest) ← inner ts
      return (e, ← expect .rparen "')'" rest)
    | .finish => .error (.malformed t.offset "unexpected end of expression")
    | other => .error (.malformed t.offset ("unexpected token " ++ other.describe))

/-- The members and items taken from an expression. The fuel bounds the number of tokens. -/
def accesses (inner : Reader) :
    Nat → Expr → List Lexeme → Except ConditionError (Expr × List Lexeme)
  | 0, e, ts => .ok (e, ts)
  | _ + 1, e, [] => .ok (e, [])
  | fuel + 1, e, t :: ts =>
    match t.token with
    | .dot =>
      match ts with
      | ⟨.ident name, _⟩ :: rest => accesses inner fuel (.member e name) rest
      | ts => .error (.malformed (here ts) "expected member name after '.'")
    | .lbracket => do
      let (position, rest) ← inner ts
      let rest ← expect .rbracket "']'" rest
      accesses inner fuel (.index e position) rest
    | _ => .ok (e, t :: ts)

/-- A primary expression with the members and items taken from it. -/
def postfixed (inner : Reader) : Reader := fun ts => do
  let (e, rest) ← primary inner ts
  accesses inner rest.length e rest

/-- An operand of the highest level. Prefix operators, parentheses and brackets each take one
from the budget. -/
def operand : Nat → Reader
  | 0, ts =>
    match ts with
    | ⟨.not, _⟩ :: rest => tooDeep rest
    | ⟨.minus, _⟩ :: rest => tooDeep rest
    | ts => postfixed tooDeep ts
  | budget + 1, ts =>
    match ts with
    | ⟨.not, _⟩ :: rest => do
      let (e, rest) ← operand budget rest
      return (.unary .not e, rest)
    | ⟨.minus, _⟩ :: rest => do
      let (e, rest) ← operand budget rest
      return (.unary .neg e, rest)
    | ts => postfixed (expression (operand budget)) ts

/-- The expression that a text denotes. -/
def parse (source : String) : Except ConditionError Expr := do
  let tokens ← tokenize source
  if maxTokens < tokens.length then
    throw (.malformed 0
      ("expression longer than " ++ String.ofList (Decimal.digits maxTokens) ++ " tokens"))
  let (e, rest) ← expression (operand maxNesting) tokens
  match rest with
  | [] => return e
  | ⟨.finish, _⟩ :: _ => return e
  | t :: _ => throw (.malformed t.offset ("unexpected token " ++ t.token.describe))

end Instrumentation.Condition
