import Instrumentation.Power

/-!
# Doubles taken apart

A finite double is a sign, a mantissa below 2^53 and a power of two. The remainder of two
doubles is computed on these parts, where it is exact.
-/

namespace Instrumentation

/-- The number `mantissa * 2 ^ exponent`, negated if `negative`. -/
structure Binary64 where
  /-- The sign bit. -/
  negative : Bool
  /-- The significand as a whole number. -/
  mantissa : Nat
  /-- The power of two it is scaled by. -/
  exponent : Int
deriving DecidableEq, Inhabited

namespace Binary64

/-- The exponent of the subnormal doubles, the least of all. -/
def leastExponent : Int := -1074

/-- The weight of the leading bit of a mantissa, which the bits of a double leave out. -/
def leadingBit : Nat := 4503599627370496

/-- The weight of the sign among the bits of a double. -/
def signBit : Nat := 9223372036854775808

/-- The parts of a finite double. -/
def ofFloat (x : Float) : Binary64 :=
  let bits := x.toBits.toNat
  let field : Nat := bits / leadingBit % 2048
  let fraction : Nat := bits % leadingBit
  { negative := signBit ≤ bits
    mantissa := if field = 0 then fraction else leadingBit + fraction
    exponent := if field = 0 then leastExponent else (field : Int) - 1075 }

/-- The double with these parts, for a mantissa below 2^53 that needs no rounding. -/
def toFloat (b : Binary64) : Float :=
  let shift := min (52 - b.mantissa.log2) (b.exponent - leastExponent).toNat
  let mantissa := b.mantissa * powerOfTwo shift
  let exponent := b.exponent - shift
  let magnitude :=
    if mantissa < leadingBit then mantissa
    else (exponent + 1075).toNat * leadingBit + (mantissa - leadingBit)
  Float.ofBits (UInt64.ofNat (magnitude + if b.negative then signBit else 0))

/-- The remainder of the division of `a` by `b` that truncates: it has the sign of `a` and
is smaller than `b`. -/
def remainder (a b : Binary64) : Binary64 :=
  let exponent := min a.exponent b.exponent
  let scaled (c : Binary64) : Nat := c.mantissa * powerOfTwo (c.exponent - exponent).toNat
  { negative := a.negative, mantissa := scaled a % scaled b, exponent }

end Binary64

/-- The remainder of the truncating division of two finite doubles, the second not zero. -/
def truncatingRemainder (x y : Float) : Float :=
  (Binary64.remainder (Binary64.ofFloat x) (Binary64.ofFloat y)).toFloat

end Instrumentation
