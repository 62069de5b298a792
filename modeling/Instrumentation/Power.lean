/-!
# Powers

The powers of the two bases in which numbers are written and stored.
-/

namespace Instrumentation

/-- A power of two. -/
def powerOfTwo (n : Nat) : Nat := Nat.pow 2 n

/-- A power of ten. -/
def powerOfTen (n : Nat) : Nat := Nat.pow 10 n

end Instrumentation
