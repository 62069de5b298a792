import Instrumentation.Dict

/-!
# JSON values

A number is one of the integers that fit a signed or an unsigned word of 64 bits, or a finite
double; an integer and a double are never the same value. The members of an object are a
dictionary in key order.

Two values are equivalent when they have the same shape and equal leaves. Doubles are compared
as numbers there, so that zero and its negative are equivalent.
-/

namespace Instrumentation

/-- An integer of the signed or of the unsigned 64-bit range. -/
structure Integer where
  /-- The integer. -/
  val : Int
  /-- The signed range bounds it below. -/
  le_val : -9223372036854775808 ≤ val
  /-- The unsigned range bounds it above. -/
  val_lt : val < 18446744073709551616
deriving DecidableEq

/-- A double that is a number. -/
structure Finite where
  /-- The double. -/
  val : Float
  /-- It is neither infinite nor undefined. -/
  isFinite_val : val.isFinite = true
deriving DecidableEq

/-- A number of a JSON document. -/
inductive Number where
  /-- An integer. -/
  | integer (n : Integer)
  /-- A number with a fraction or an exponent, or an integer out of range. -/
  | double (x : Finite)
deriving DecidableEq

/-- A JSON value. -/
inductive Json where
  /-- The empty value. -/
  | null
  /-- A truth value. -/
  | bool (b : Bool)
  /-- A number. -/
  | number (n : Number)
  /-- A text. -/
  | string (s : String)
  /-- A sequence. -/
  | array (items : List Json)
  /-- Named values. -/
  | object (members : Dict Json)
deriving Inhabited

namespace Integer

instance : Inhabited Integer := ⟨0, by decide, by decide⟩

/-- The integer, if it is in range. -/
def ofInt? (z : Int) : Option Integer :=
  if h : -9223372036854775808 ≤ z ∧ z < 18446744073709551616 then some ⟨z, h.1, h.2⟩ else none

/-- A word of 32 bits. -/
def ofUInt32 (n : UInt32) : Integer :=
  ⟨n.toNat, by omega, by have := n.toNat_lt; omega⟩

/-- A word of 64 bits. -/
def ofUInt64 (n : UInt64) : Integer :=
  ⟨n.toNat, by omega, by have := n.toNat_lt; omega⟩

/-- The integer, if it is in the signed range. -/
def signed? (n : Integer) : Option Int :=
  if n.val < 9223372036854775808 then some n.val else none

end Integer

namespace Finite

instance : Inhabited Finite := ⟨0.0, by decide⟩

/-- The double, if it is finite. -/
def ofFloat? (x : Float) : Option Finite :=
  if h : x.isFinite = true then some ⟨x, h⟩ else none

end Finite

namespace Number

instance : Inhabited Number := ⟨.integer default⟩

/-- The number as an integer of the signed range. -/
def signed? : Number → Option Int
  | integer n => n.signed?
  | double _ => none

/-- The number as a position in a sequence. -/
def index? : Number → Option Nat
  | integer n => if 0 ≤ n.val then some n.val.toNat else none
  | double _ => none

/-- The double nearest to the number. -/
def toFloat : Number → Float
  | integer n => Float.ofInt n.val
  | double x => x.val

/-- Two numbers of the same kind and value. -/
def equiv : Number → Number → Bool
  | integer m, integer n => m.val == n.val
  | double x, double y => x.val == y.val
  | _, _ => false

end Number

namespace Json

/-- The number `z`, or nothing if no number holds it. -/
def ofInt (z : Int) : Json :=
  match Integer.ofInt? z with
  | some n => number (.integer n)
  | none => null

/-- A whole number. -/
def ofNat (n : Nat) : Json := ofInt n

/-- A word of 32 bits. -/
def ofUInt32 (n : UInt32) : Json := number (.integer (.ofUInt32 n))

/-- A word of 64 bits. -/
def ofUInt64 (n : UInt64) : Json := number (.integer (.ofUInt64 n))

/-- A double, or nothing if it is not finite. -/
def ofFloat (x : Float) : Json :=
  match Finite.ofFloat? x with
  | some y => number (.double y)
  | none => null

/-- A text, or nothing. -/
def ofText? : Option String → Json
  | some s => string s
  | none => null

/-- The object of the listed members. -/
def ofMembers (ms : List (String × Json)) : Json := object (Dict.ofList ms)

/-- A member of an object. -/
def member? : Json → String → Option Json
  | object ms, k => ms.get? k
  | _, _ => none

/-- An item of an array. -/
def item? : Json → Nat → Option Json
  | array xs, i => xs[i]?
  | _, _ => none

mutual

/-- Two values of the same shape with equal leaves. -/
def equiv : Json → Json → Bool
  | null, null => true
  | bool a, bool b => a == b
  | number m, number n => m.equiv n
  | string s, string t => s == t
  | array xs, array ys => equivItems xs ys
  | object ⟨ms⟩, object ⟨ns⟩ => equivMembers ms ns
  | _, _ => false
termination_by structural v => v

/-- Two sequences of equivalent values. -/
def equivItems : List Json → List Json → Bool
  | [], [] => true
  | x :: xs, y :: ys => equiv x y && equivItems xs ys
  | _, _ => false
termination_by structural xs => xs

/-- Two chains of equivalent members. -/
def equivMembers {low low' : Option String} : Chain Json low → Chain Json low' → Bool
  | .nil, .nil => true
  | .cons j _ x ms, .cons k _ y ns => j == k && equiv x y && equivMembers ms ns
  | _, _ => false
termination_by structural ms => ms

end

end Json

end Instrumentation
