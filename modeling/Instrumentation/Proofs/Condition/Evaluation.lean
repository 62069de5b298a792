import Instrumentation.Condition
import Mathlib

/-!
# What an expression reads of a frame

A frame is read through its bindings only: of each name that occurs as a variable, the captured
value, or else the scope that the name is the root of. The way of a member access past the binding,
straight into the scope of an unshadowed root, leads to the same value. So frames with the same
bindings for the names of an expression cannot be told apart by it, neither by its value nor by its
failure.
-/

namespace Instrumentation

namespace Condition

/-- The names that occur in an expression as variables. -/
def Expr.names : Expr → List String
  | literal _ => []
  | var name => [name]
  | member base _ => base.names
  | index base position => base.names ++ position.names
  | unary _ operand => operand.names
  | binary _ left right => left.names ++ right.names

variable {f g : Frame}

/-- An unshadowed root is bound to its scope. -/
theorem binding?_of_rootScope {name : String} {s : Scope}
    (root : rootScope? f (.var name) = some s) :
  binding? f name = some (.object (f.scope s))
  := by
  rw [rootScope?] at root
  split at root
  next => cases root
  next unshadowed =>
    have unbound : f.resolve? name = none := by simpa using unshadowed
    rw [binding?, unbound, root]
    rfl

/-- A member of an unshadowed root is that of its scope, so that every member is looked up in the
value of its base. -/
theorem evaluate_member (f : Frame) (base : Expr) (name : String) :
  evaluate f (.member base name)
    = (do
        let v ← evaluate f base
        found (.member base name) (v.member? name))
  := by
  rw [evaluate]
  split
  next s root =>
    cases base with
    | var x =>
      rw [evaluate, binding?_of_rootScope root]
      rfl
    | literal | member | index | unary | binary => cases root
  next => rfl

/-- Every operator but conjunction and disjunction is applied to the values of its operands. -/
theorem evaluate_binary {op : BinaryOp} {l r : Expr} {v w : Json} (strict : op ≠ .and ∧ op ≠ .or)
    (left : evaluate f l = .ok v) (right : evaluate f r = .ok w) :
  evaluate f (.binary op l r) = apply op v w
  := by
  cases op with
  | and => exact absurd rfl strict.1
  | or => exact absurd rfl strict.2
  | eq | ne | lt | le | gt | ge | add | sub | mul | div | rem =>
    simp only [evaluate, left, right]
    rfl

/-- Frames with the same bindings for the names of an expression give it the same value, or the
same failure. -/
theorem evaluate_congr {e : Expr} (same : ∀ name ∈ e.names, binding? f name = binding? g name) :
  evaluate f e = evaluate g e
  := by
  induction e with
  | literal v => rfl
  | var name => rw [evaluate, evaluate, same name List.mem_cons_self]
  | member base name ih => rw [evaluate_member, evaluate_member, ih same]
  | index base position ihb ihp =>
    obtain ⟨inBase, inPosition⟩ := List.forall_mem_append.mp same
    rw [evaluate, evaluate, ihb inBase, ihp inPosition]
  | unary op operand ih =>
    cases op with
    | not => rw [evaluate, evaluate, ih same]
    | neg => rw [evaluate, evaluate, ih same]
  | binary op left right ihl ihr =>
    obtain ⟨inLeft, inRight⟩ := List.forall_mem_append.mp same
    -- conjunction and disjunction have clauses of their own, for they may leave the right side out
    cases op with
    | and => rw [evaluate, evaluate, ihl inLeft, ihr inRight]
    | or => rw [evaluate, evaluate, ihl inLeft, ihr inRight]
    | eq | ne | lt | le | gt | ge | add | sub | mul | div | rem =>
      simp only [evaluate, ihl inLeft, ihr inRight]

/-- A name has the same binding in frames in which it leads to the same captured value, and in which
the scope is the same that it is the root of, if it is one. -/
theorem binding?_congr {name : String} (value : f.resolve? name = g.resolve? name)
    (scope : ∀ s, Scope.ofRoot? name = some s → f.scope s = g.scope s) :
  binding? f name = binding? g name
  := by
  rw [binding?, binding?, value]
  cases g.resolve? name with
  | some v => rfl
  | none =>
    cases root : Scope.ofRoot? name with
    | none => rfl
    | some s => simp only [Option.map_some, scope s root]

end Condition

/-- A predicate sees only the names that it mentions. Frames in which each of them leads to the same
captured value, or to none, and in which the scopes are the same whose roots are among them, are
judged alike: by the same truth value, or by the same failure. -/
theorem Predicate.sees_names_only {p : Predicate} {f g : Frame}
    (values : ∀ name ∈ p.expression.names, f.resolve? name = g.resolve? name)
    (scopes : ∀ name ∈ p.expression.names, ∀ s, Scope.ofRoot? name = some s
      → f.scope s = g.scope s) :
  p.evaluate f = p.evaluate g
  := by
  have same : Condition.evaluate f p.expression = Condition.evaluate g p.expression := by
    apply Condition.evaluate_congr
    intro name mem
    exact Condition.binding?_congr (values name mem) (scopes name mem)
  rw [evaluate, evaluate, same]

/-- A frame with a total, a flag and something more. -/
def Frame.ofOrder (more : Bool) : Frame :=
  ((empty.put .locals "total" (.ofNat 7)).put .fields "flagged" (.bool false)).put .locals "more"
    (.bool more)

/-- What is read of the condition `total > 5 && !fields.flagged`. -/
def Predicate.ofOrder : Predicate where
  source := "total > 5 && !fields.flagged"
  expression :=
    .binary .and (.binary .gt (.var "total") (.literal (.ofNat 5)))
      (.unary .not (.member (.var "fields") "flagged"))

/-- A predicate that mentions a variable and a scope does not see another variable. -/
theorem Predicate.sees_names_only_order :
  compile "total > 5 && !fields.flagged" = .ok ofOrder
    ∧ (Frame.ofOrder true).resolve? "more" ≠ (Frame.ofOrder false).resolve? "more"
    ∧ (∀ name ∈ ofOrder.expression.names,
        (Frame.ofOrder true).resolve? name = (Frame.ofOrder false).resolve? name)
    ∧ (∀ name ∈ ofOrder.expression.names, ∀ s, Scope.ofRoot? name = some s
        → (Frame.ofOrder true).scope s = (Frame.ofOrder false).scope s)
    ∧ ofOrder.evaluate (.ofOrder true) = ofOrder.evaluate (.ofOrder false)
    ∧ ofOrder.evaluate (.ofOrder true) = .ok true
  := by
  have values : ∀ name ∈ ofOrder.expression.names,
      (Frame.ofOrder true).resolve? name = (Frame.ofOrder false).resolve? name := by
    change ∀ name ∈ ["total", "fields"], _
    simp only [List.forall_mem_cons, List.not_mem_nil, false_implies, implies_true, and_true]
    exact ⟨rfl, rfl⟩
  have scopes : ∀ name ∈ ofOrder.expression.names, ∀ s, Scope.ofRoot? name = some s →
      (Frame.ofOrder true).scope s = (Frame.ofOrder false).scope s := by
    change ∀ name ∈ ["total", "fields"], _
    simp only [List.forall_mem_cons, List.not_mem_nil, false_implies, implies_true, and_true]
    constructor
    · rintro s ⟨⟩
    · rintro s ⟨⟩
      rfl
  have differ : (Frame.ofOrder true).resolve? "more" ≠ (Frame.ofOrder false).resolve? "more" := by
    change some (Json.bool true) ≠ some (Json.bool false)
    simp
  exact ⟨by cbv, differ, values, scopes, sees_names_only values scopes, by cbv⟩

end Instrumentation
