import Instrumentation.Condition.Evaluation
import Instrumentation.Condition.Parse

/-!
# Predicates

A condition read once and evaluated on every hit. Its value has to be a truth value.
-/

namespace Instrumentation

/-- A condition that was read. -/
structure Predicate where
  /-- The text that it was read from. -/
  source : String
  /-- What the text denotes. -/
  expression : Condition.Expr
deriving Inhabited

namespace Predicate

/-- The predicate of a text. -/
def compile (source : String) : Except ConditionError Predicate := do
  let expression ← Condition.parse source
  return { source, expression }

/-- The truth of a predicate in a frame. -/
def evaluate (p : Predicate) (f : Frame) : Except ConditionError Bool := do
  let v ← Condition.evaluate f p.expression
  Condition.truth v

/-- A predicate as it is shown. -/
def describe (p : Predicate) : String := "CompiledPredicate(" ++ Text.quoted p.source ++ ")"

end Predicate

end Instrumentation
