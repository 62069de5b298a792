/-!
# Decimal numerals

A positive decimal numeral is a coefficient and a power of ten. A layout says which numeral
stands for a number midway between two, where a numeral is written out and where it takes an
exponent.
-/

namespace Instrumentation

/-- The number `coefficient * 10 ^ exponent`. -/
structure Decimal where
  /-- The significant digits as a whole number. -/
  coefficient : Nat
  /-- The power of ten they are scaled by. -/
  exponent : Int
deriving DecidableEq, Inhabited

namespace Decimal

/-- The digits of a number, the most significant first. -/
def digits (n : Nat) : List Char := Nat.toDigits 10 n

/-- The numeral without trailing zeros in its coefficient. -/
def stripZeros (d : Decimal) : Decimal :=
  if h : d.coefficient ≠ 0 ∧ d.coefficient % 10 = 0 then
    stripZeros ⟨d.coefficient / 10, d.exponent + 1⟩
  else d
termination_by d.coefficient
decreasing_by omega

/-- Which of the two numerals next to a number is taken when both are equally near. -/
inductive Tie where
  /-- The one with an even last digit. -/
  | even
  /-- The greater one. -/
  | up
deriving DecidableEq

/-- The choice between the coefficient `below` and the next one, for a number midway. -/
def Tie.pick : Tie → Nat → Nat
  | even, below => below + below % 2
  | up, below => below + 1

/-- How numbers are written: which of two equally near numerals is taken, which leading
exponents are written out, and whether a positive exponent has a sign. -/
structure Layout where
  /-- The choice between two numerals equally near. -/
  tie : Tie
  /-- The least power of ten of a leading digit that is written out. -/
  outFrom : Int
  /-- The least greater power that takes an exponent again. -/
  outBelow : Int
  /-- The sign before a positive exponent. -/
  plus : Bool
deriving DecidableEq

/-- Digits with a point after the first `places` of them, and a digit on both sides. -/
def pointed (ds : List Char) (places : Int) : List Char :=
  if places ≤ 0 then '0' :: '.' :: (List.replicate (-places).toNat '0' ++ ds)
  else
    let n := places.toNat
    if ds.length ≤ n then ds ++ List.replicate (n - ds.length) '0' ++ ['.', '0']
    else ds.take n ++ '.' :: ds.drop n

/-- Digits with a point after the first, if more follow. -/
def scientific : List Char → List Char
  | [] => []
  | [c] => [c]
  | c :: cs => c :: '.' :: cs

/-- A signed whole number, with the sign of a positive one if `plus`. -/
def signed (plus : Bool) (z : Int) : List Char :=
  if z < 0 then '-' :: digits z.natAbs
  else if plus then '+' :: digits z.natAbs
  else digits z.natAbs

/-- The numeral in a layout. -/
def render (layout : Layout) (d : Decimal) : List Char :=
  let ds := digits d.coefficient
  let lead := d.exponent + ds.length - 1
  if layout.outFrom ≤ lead ∧ lead < layout.outBelow then pointed ds (lead + 1)
  else scientific ds ++ 'e' :: signed layout.plus lead

end Decimal

end Instrumentation
