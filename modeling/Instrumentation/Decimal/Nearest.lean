import Instrumentation.Decimal

/-!
# Doubles read from decimals

Two readings of a decimal. The nearest double is exact; the scaled reading keeps the leading
64 bits of the coefficient and multiplies or divides by powers of ten in double arithmetic.
-/

namespace Instrumentation.Decimal

/-- The double nearest to a decimal, infinite if it is too large. -/
def nearest (coefficient : Nat) (places : Nat) : Float :=
  Float.ofScientific coefficient true places

/-- The double `10 ^ n`, for `n` up to 308. -/
def tenTo (n : Nat) : Float := Float.ofScientific 1 false n

/-- A double divided by `10 ^ n`, in steps that stay within the powers of ten that are
doubles. Nothing is left to do once it is zero. -/
def divideTen (x : Float) (n : Nat) : Float :=
  if n ≤ 308 then x / tenTo n
  else if x == 0 then x
  else divideTen (x / tenTo 308) (n - 308)
termination_by n

/-- A coefficient below 2^64 scaled by a power of ten, and nothing if it is too large. -/
def scaled? (coefficient : Nat) (exponent : Int) : Option Float :=
  let x := Float.ofNat coefficient
  if exponent < 0 then some (divideTen x exponent.natAbs)
  else if x == 0 then some x
  else if exponent ≤ 308 then
    let y := x * tenTo exponent.natAbs
    if y.isFinite then some y else none
  else none

end Instrumentation.Decimal
