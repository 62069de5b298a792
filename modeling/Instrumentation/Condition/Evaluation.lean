import Instrumentation.Binary64
import Instrumentation.Condition.Expression
import Instrumentation.Error
import Instrumentation.Frame

/-!
# Values of expressions

An expression is evaluated against a captured frame. A name that leads to no value is an
error, and so is an operator on values it does not apply to. Integers of the signed 64-bit range
are added, compared and so on exactly; any other pair of numbers is taken as two doubles, and so
is an exact result out of range.
-/

namespace Instrumentation.Condition

/-- The type of a value as messages name it. -/
def typeName : Json → String
  | .null => "null"
  | .bool _ => "boolean"
  | .number _ => "number"
  | .string _ => "string"
  | .array _ => "array"
  | .object _ => "object"

/-- A truth value. -/
def truth : Json → Except ConditionError Bool
  | .bool b => .ok b
  | v => .error (.notBoolean (typeName v))

/-- The failure of an operator to apply to two values. -/
def mismatch (op : BinaryOp) (l r : Json) : ConditionError :=
  .typeMismatch op.symbol (typeName l) (typeName r)

/-- The signed 64-bit range. -/
def isSigned (z : Int) : Bool := -9223372036854775808 ≤ z && z < 9223372036854775808

/-- The opposite of a number. -/
def negate (n : Number) : Json :=
  match n.signed? with
  | some z => if isSigned (-z) then Json.ofInt (-z) else Json.ofFloat (-n.toFloat)
  | none => Json.ofFloat (-n.toFloat)

/-- Equality of values: numbers by what they stand for, other values by shape and leaves. -/
def looselyEqual : Json → Json → Bool
  | .number m, .number n =>
    match m.signed?, n.signed? with
    | some x, some y => x == y
    | _, _ => m.toFloat == n.toFloat
  | l, r => l.equiv r

/-- The order of two doubles. -/
def orderFloats (x y : Float) : Ordering :=
  if x < y then .lt else if x == y then .eq else .gt

/-- The order of two numbers or of two texts. -/
def order? : Json → Json → Option Ordering
  | .number m, .number n =>
    match m.signed?, n.signed? with
    | some x, some y => some (compare x y)
    | _, _ => some (orderFloats m.toFloat n.toFloat)
  | .string s, .string t => some (compare s t)
  | _, _ => none

/-- The exact result of an arithmetic operator on two integers, if it is in range. Quotient
and remainder truncate toward zero; the remainder is exact when the quotient is. -/
def integral? (op : BinaryOp) (x y : Int) : Option Int :=
  let inRange (z : Int) : Option Int := if isSigned z then some z else none
  match op with
  | .add => inRange (x + y)
  | .sub => inRange (x - y)
  | .mul => inRange (x * y)
  | .div => inRange (Int.tdiv x y)
  | .rem => (inRange (Int.tdiv x y)).map fun _ => Int.tmod x y
  | _ => none

/-- The result of an arithmetic operator on two doubles. -/
def approximate (op : BinaryOp) (x y : Float) : Float :=
  match op with
  | .add => x + y
  | .sub => x - y
  | .mul => x * y
  | .div => x / y
  | _ => truncatingRemainder x y

/-- A quotient or a remainder. -/
def BinaryOp.divides : BinaryOp → Bool
  | .div => true
  | .rem => true
  | _ => false

/-- The result of an arithmetic operator on two doubles, unless it is no number. -/
def doubles (op : BinaryOp) (x y : Float) : Except ConditionError Json :=
  if op.divides && y == 0.0 then .error .divisionByZero
  else
    let z := approximate op x y
    if z.isFinite then .ok (Json.ofFloat z) else .error (.nonFinite op.symbol)

/-- The result of an arithmetic operator. -/
def arithmetic (op : BinaryOp) (l r : Json) : Except ConditionError Json :=
  match l, r with
  | .number m, .number n =>
    match m.signed?, n.signed? with
    | some x, some y =>
      if op.divides && y == 0 then .error .divisionByZero
      else
        match integral? op x y with
        | some z => .ok (Json.ofInt z)
        | none => doubles op m.toFloat n.toFloat
    | _, _ => doubles op m.toFloat n.toFloat
  | l, r => .error (mismatch op l r)

/-- A value as part of a text: a text as it is, any other value in its JSON form. -/
def display : Json → String
  | .string s => s
  | v => v.compress

/-- A sum of numbers, or the concatenation of a text with any value. -/
def add (l r : Json) : Except ConditionError Json :=
  match l, r with
  | .string s, v => .ok (.string (s ++ display v))
  | v, .string s => .ok (.string (display v ++ s))
  | .number m, .number n => arithmetic .add (.number m) (.number n)
  | l, r => .error (mismatch .add l r)

/-- The outcome of a comparison. -/
def comparison (op : BinaryOp) (o : Ordering) : Bool :=
  match op with
  | .lt => o = .lt
  | .le => o ≠ .gt
  | .gt => o = .gt
  | _ => o ≠ .lt

/-- An operator applied to the values of its operands. -/
def apply (op : BinaryOp) (l r : Json) : Except ConditionError Json :=
  match op with
  | .eq => .ok (.bool (looselyEqual l r))
  | .ne => .ok (.bool (!looselyEqual l r))
  | .lt | .le | .gt | .ge =>
    match order? l r with
    | some o => .ok (.bool (comparison op o))
    | none => .error (mismatch op l r)
  | .add => add l r
  | .sub | .mul | .div | .rem => arithmetic op l r
  | .and | .or => .error (mismatch op l r)

/-- The value of a bare name: a captured value, or else the scope that it is the root of. -/
def binding? (f : Frame) (name : String) : Option Json :=
  match f.resolve? name with
  | some v => some v
  | none => (Scope.ofRoot? name).map fun s => .object (f.scope s)

/-- The scope that an expression is the root of, unless a captured value has its name. -/
def rootScope? (f : Frame) : Expr → Option Scope
  | .var name => if (f.resolve? name).isSome then none else Scope.ofRoot? name
  | _ => none

/-- A value by its position in an array or by its key in an object. -/
def lookUp? (base : Json) : Json → Option Json
  | .number n => n.index?.bind base.item?
  | .string k => base.member? k
  | _ => none

/-- A value that was looked for, or the failure to find what `e` leads to. -/
def found (e : Expr) : Option Json → Except ConditionError Json
  | some v => .ok v
  | none => .error (.undefinedVariable e.path)

/-- The value of an expression in a frame. -/
def evaluate (f : Frame) : Expr → Except ConditionError Json
  | .literal v => .ok v
  | .var name => found (.var name) (binding? f name)
  | .member base name =>
    match rootScope? f base with
    | some s => found (.member base name) ((f.scope s).get? name)
    | none => do
      let v ← evaluate f base
      found (.member base name) (v.member? name)
  | .index base position => do
    let p ← evaluate f position
    let v ← evaluate f base
    found (.index base position) (lookUp? v p)
  | .unary .not e => do
    let v ← evaluate f e
    let b ← truth v
    return .bool !b
  | .unary .neg e => do
    match ← evaluate f e with
    | .number n => return negate n
    | v => throw (.typeMismatch "-" "number" (typeName v))
  | .binary .and l r => do
    let v ← evaluate f l
    if ← truth v then
      let w ← evaluate f r
      let b ← truth w
      return .bool b
    else return .bool false
  | .binary .or l r => do
    let v ← evaluate f l
    if ← truth v then return .bool true
    else
      let w ← evaluate f r
      let b ← truth w
      return .bool b
  | .binary op l r => do
    let v ← evaluate f l
    let w ← evaluate f r
    apply op v w

end Instrumentation.Condition
