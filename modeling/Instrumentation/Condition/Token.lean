import Instrumentation.Decimal.Shortest
import Instrumentation.Text.Quoted

/-!
# Tokens of conditions

The words, literals and marks of a condition, and how messages show them.
-/

namespace Instrumentation.Condition

/-- A token. -/
inductive Token where
  /-- A whole number of the signed 64-bit range. -/
  | int (n : Nat)
  /-- Any other number. -/
  | float (x : Float)
  /-- A quoted text. -/
  | str (s : String)
  /-- A name. -/
  | ident (name : String)
  /-- The word for truth. -/
  | yes
  /-- The word for falsehood. -/
  | no
  /-- The word for the empty value. -/
  | nothing
  /-- Conjunction. -/
  | and
  /-- Disjunction. -/
  | or
  /-- Negation. -/
  | not
  /-- Equality. -/
  | eq
  /-- Inequality. -/
  | ne
  /-- Less. -/
  | lt
  /-- At most. -/
  | le
  /-- Greater. -/
  | gt
  /-- At least. -/
  | ge
  /-- Sum. -/
  | plus
  /-- Difference, or the opposite. -/
  | minus
  /-- Product. -/
  | star
  /-- Quotient. -/
  | slash
  /-- Remainder. -/
  | percent
  /-- Opening parenthesis. -/
  | lparen
  /-- Closing parenthesis. -/
  | rparen
  /-- Opening bracket. -/
  | lbracket
  /-- Closing bracket. -/
  | rbracket
  /-- The dot before a member. -/
  | dot
  /-- The end of the text. -/
  | finish
deriving DecidableEq, Inhabited

namespace Token

/-- Doubles in messages are written out for leading powers of ten from -4 to 15, and with an
exponent that has no plus sign otherwise. Of two numerals equally near, the greater one is
taken. -/
def numerals : Decimal.Layout := { tie := .up, outFrom := -4, outBelow := 16, plus := false }

/-- A token as messages show it. -/
def describe : Token → String
  | int n => "Int(" ++ String.ofList (Decimal.digits n) ++ ")"
  | float x => "Float(" ++ (if x.isFinite then Decimal.ofFloat numerals x else "inf") ++ ")"
  | str s => "Str(" ++ Text.quoted s ++ ")"
  | ident name => "Ident(" ++ Text.quoted name ++ ")"
  | yes => "True"
  | no => "False"
  | nothing => "Null"
  | and => "And"
  | or => "Or"
  | not => "Not"
  | eq => "Eq"
  | ne => "Ne"
  | lt => "Lt"
  | le => "Le"
  | gt => "Gt"
  | ge => "Ge"
  | plus => "Plus"
  | minus => "Minus"
  | star => "Star"
  | slash => "Slash"
  | percent => "Percent"
  | lparen => "LParen"
  | rparen => "RParen"
  | lbracket => "LBracket"
  | rbracket => "RBracket"
  | dot => "Dot"
  | finish => "Eof"

end Token

/-- A token with the byte offset at which it starts. -/
structure Lexeme where
  /-- The token. -/
  token : Token
  /-- The offset of its first byte. -/
  offset : Nat
deriving DecidableEq, Inhabited

end Instrumentation.Condition
