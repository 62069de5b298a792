import Instrumentation.Binary64
import Instrumentation.Decimal

/-!
# The shortest decimal that reads back

Among the decimals that round to a given double, the ones with the fewest digits are found,
and of those the nearest; a layout settles a tie. For each number of digits only the two
neighbours of the value on that decimal grid have to be tried.
-/

namespace Instrumentation.Decimal

/-- A positive value with the reals that round to it, all over one denominator. -/
structure Window where
  /-- The value. -/
  value : Nat
  /-- The lower end. -/
  low : Nat
  /-- The upper end. -/
  high : Nat
  /-- The denominator of the three. -/
  unit : Nat
  /-- The two ends round to the value as well. -/
  closed : Bool

/-- The reals that round to a positive double. Below a power of two the doubles lie twice
as close as above it. -/
def Window.ofParts (b : Binary64) : Window :=
  let scale := powerOfTwo (b.exponent - 2).toNat
  let uneven := b.mantissa == Binary64.leadingBit && b.exponent != Binary64.leastExponent
  let step := if uneven then 1 else 2
  { value := 4 * b.mantissa * scale
    low := (4 * b.mantissa - step) * scale
    high := (4 * b.mantissa + 2) * scale
    unit := powerOfTwo (2 - b.exponent).toNat
    closed := b.mantissa % 2 = 0 }

/-- The fraction `num / den` lies between the ends of the window. -/
def Window.admits (w : Window) (num den : Nat) : Bool :=
  let low := w.low * den
  let high := w.high * den
  let x := num * w.unit
  if w.closed then low ≤ x && x ≤ high else low < x && x < high

/-- The power of ten of the leading digit of the value. -/
def Window.lead (w : Window) : Int :=
  if w.unit ≤ w.value then (digits (w.value / w.unit)).length - 1
  else -(digits ((w.unit + w.value - 1) / w.value - 1)).length

/-- The best numeral on the grid of the multiples of `10 ^ exponent`, if one lies in the
window: the nearer neighbour of the value, or the one that `tie` takes of two equally near. -/
def Window.onGrid (tie : Tie) (w : Window) (exponent : Int) : Option Decimal :=
  let up := powerOfTen exponent.toNat
  let down := powerOfTen (-exponent).toNat
  let below := w.value * down / (w.unit * up)
  let reads (c : Nat) : Bool := w.admits (c * up) down
  let rest := 2 * (w.value * down - below * (w.unit * up))
  let nearer :=
    if rest < w.unit * up then below
    else if rest = w.unit * up then tie.pick below
    else below + 1
  if reads below && reads (below + 1) then some ⟨nearer, exponent⟩
  else if reads below then some ⟨below, exponent⟩
  else if reads (below + 1) then some ⟨below + 1, exponent⟩
  else none

/-- The most digits that a double can need. -/
def mostDigits : Nat := 17

/-- The shortest decimal that reads back as a positive double, and of several the nearest. -/
def shortest (tie : Tie) (b : Binary64) : Decimal :=
  let w := Window.ofParts b
  let lead := w.lead
  match (List.range mostDigits).findSome? fun (n : Nat) => w.onGrid tie (lead - n) with
  | some d => d.stripZeros
  | none => ⟨b.mantissa, 0⟩

/-- A finite double in a layout, with a sign for the negative ones, zero included. -/
def ofFloat (layout : Layout) (x : Float) : String :=
  let b := Binary64.ofFloat x
  let body := if b.mantissa = 0 then ['0', '.', '0'] else render layout (shortest layout.tie b)
  String.ofList (if b.negative then '-' :: body else body)

end Instrumentation.Decimal
