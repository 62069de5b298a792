import Mathlib
import Instrumentation.Binary64

/-!
# Rounding

The whole number nearest to a ratio, and rounding to a double as taking such a number: what is left
of a ratio after the bits that fit is kept in a round bit and a sticky bit, and these tell how the
rest compares with half a unit.
-/

namespace Instrumentation

/-- The whole number nearest to the ratio of `a` to `b`, of two equally near the even one. -/
def nearestRatio (a b : Nat) : Nat :=
  if 2 * (a % b) < b then a / b
  else if b < 2 * (a % b) then a / b + 1
  else a / b + a / b % 2

variable {a a' b k n : Nat}

/-- It is at least the quotient. -/
theorem div_le_nearestRatio (a b : Nat) :
  a / b ≤ nearestRatio a b
  := by
  rw [nearestRatio]
  split_ifs <;> omega

/-- It is at most the quotient and one. -/
theorem nearestRatio_le (a b : Nat) :
  nearestRatio a b ≤ a / b + 1
  := by
  rw [nearestRatio]
  split_ifs <;> omega

/-- A ratio may be reduced. -/
theorem nearestRatio_mul_right (pos : 0 < k) (a b : Nat) :
  nearestRatio (a * k) (b * k) = nearestRatio a b
  := by
  have double : 2 * (a % b * k) = 2 * (a % b) * k := (Nat.mul_assoc ..).symm
  rw [nearestRatio, nearestRatio, Nat.mul_mod_mul_right, Nat.mul_div_mul_right _ _ pos, double]
  simp only [Nat.mul_lt_mul_right pos]

/-- A whole number is nearest to itself. -/
theorem nearestRatio_of_dvd (pos : 0 < b) (n : Nat) :
  nearestRatio (n * b) b = n
  := by
  rw [nearestRatio, Nat.mul_mod_left, Nat.mul_div_cancel _ pos, if_pos (by omega)]

/-- A greater ratio has a nearest number that is not smaller. -/
theorem nearestRatio_mono (le : a ≤ a') (b : Nat) :
  nearestRatio a b ≤ nearestRatio a' b
  := by
  rcases (Nat.div_le_div_right le : a / b ≤ a' / b).lt_or_eq with less | same
  · calc
      nearestRatio a b ≤ a / b + 1 := nearestRatio_le a b
      _ ≤ a' / b := less
      _ ≤ nearestRatio a' b := div_le_nearestRatio a' b
  · have rest : a % b ≤ a' % b := by
      have parts := Nat.div_add_mod a b
      have parts' := Nat.div_add_mod a' b
      rw [same] at parts
      omega
    simp only [nearestRatio, same]
    split_ifs <;> omega

/-- An even number is reached from half a unit below. -/
theorem le_nearestRatio_iff (even : n % 2 = 0) (pos : 0 < b) :
  n ≤ nearestRatio a b ↔ 2 * (n * b) ≤ 2 * a + b
  := by
  have parts : a / b * b + a % b = a := Nat.div_add_mod' a b
  have small : a % b < b := Nat.mod_lt a pos
  rcases Nat.lt_trichotomy n (a / b + 1) with below | rfl | above
  · have reached : n ≤ nearestRatio a b :=
      (Nat.le_of_lt_succ below).trans (div_le_nearestRatio a b)
    have scaled : n * b ≤ a / b * b := Nat.mul_le_mul_right b (Nat.le_of_lt_succ below)
    exact iff_of_true reached (by omega)
  · have scaled : (a / b + 1) * b = a / b * b + b := Nat.succ_mul _ b
    rw [scaled, nearestRatio]
    split_ifs <;> omega
  · have missed : nearestRatio a b < n := (nearestRatio_le a b).trans_lt above
    have scaled : (a / b + 2) * b ≤ n * b := Nat.mul_le_mul_right b above
    rw [Nat.add_mul] at scaled
    exact iff_of_false (Nat.not_le.mpr missed) (by omega)

namespace Binary64

open Float.Model (Format UnpackedFloat totalExponent)
open Float.Model.UnpackedFloat (ExtendedMantissa Accuracy Sign)

/-! ### Mantissas with a round bit and a sticky bit -/

/-- The mantissa and its bits are what is seen of the ratio of `a` to `b`: the quotient, whether
half a unit is left, and whether something more or less than that is left. -/
structure Represents (em : ExtendedMantissa) (a b : Nat) : Prop where
  /-- The quotient. -/
  mantissa : em.mantissa = a / b
  /-- Half a unit is left. -/
  half : em.roundBit = true ↔ b ≤ 2 * (a % b)
  /-- Neither nothing nor just half a unit is left. -/
  more : em.stickyBit = true ↔ 2 * (a % b) ≠ 0 ∧ 2 * (a % b) ≠ b

namespace Represents

variable {em : ExtendedMantissa} {a b : Nat}

/-- A whole number. -/
theorem exact (a : Nat) :
  Represents (.ofMantissaAndAccuracy a .exact) a 1
  := by
  constructor <;> simp [ExtendedMantissa.ofMantissaAndAccuracy, Nat.mod_one]

/-- A quotient, with the accuracy that the remainder tells. -/
theorem quotient (pos : 0 < b) (a : Nat) :
  Represents (.ofMantissaAndAccuracy (a / b) (UnpackedFloat.accuracyOfFraction (a % b) b)) a b
  := by
  rw [UnpackedFloat.accuracyOfFraction]
  split
  next none =>
    constructor <;> simp [ExtendedMantissa.ofMantissaAndAccuracy, none]
    omega
  next some =>
    rcases order : compare (2 * (a % b)) b
    · have less := Nat.compare_eq_lt.mp order
      constructor <;> simp [ExtendedMantissa.ofMantissaAndAccuracy]
      all_goals omega
    · have same := Nat.compare_eq_eq.mp order
      constructor <;> simp [ExtendedMantissa.ofMantissaAndAccuracy]
      all_goals omega
    · have greater := Nat.compare_eq_gt.mp order
      constructor <;> simp [ExtendedMantissa.ofMantissaAndAccuracy]
      all_goals omega

/-- Half a ratio. -/
theorem shiftRightOne (h : Represents em a b) (pos : 0 < b) :
  Represents em.shiftRightOne a (b * 2)
  := by
  have small : a % b < b := Nat.mod_lt a pos
  have rest : a % (b * 2) = a % b + b * (a / b % 2) := Nat.mod_mul
  obtain ⟨mantissa, half, more⟩ := h
  constructor
  · change em.mantissa / 2 = _
    rw [mantissa, Nat.div_div_eq_div_mul]
  · change (em.mantissa % 2 != 0) = true ↔ _
    rw [rest, mantissa]
    rcases Nat.mod_two_eq_zero_or_one (a / b) with even | odd
    · simp [even]
      omega
    · simp [odd]
      omega
  · change (em.roundBit || em.stickyBit) = true ↔ _
    rw [Bool.or_eq_true, half, more, rest]
    rcases Nat.mod_two_eq_zero_or_one (a / b) with even | odd
    · rw [even]
      omega
    · rw [odd]
      omega

/-- A ratio divided by a power of two. -/
theorem shiftRight (h : Represents em a b) (pos : 0 < b) (n : Nat) :
  Represents (em >>> n) a (b * 2 ^ n)
  := by
  change Represents (Nat.repeat ExtendedMantissa.shiftRightOne n em) a (b * 2 ^ n)
  induction n with
  | zero => simpa [Nat.repeat] using h
  | succ n ih =>
    rw [Nat.repeat, Nat.pow_succ, ← Nat.mul_assoc]
    exact ih.shiftRightOne (Nat.mul_pos pos (Nat.two_pow_pos n))

/-- What is rounded is the number nearest to the ratio. -/
theorem roundedMantissa_eq (h : Represents em a b) :
  em.roundedMantissa = nearestRatio a b
  := by
  obtain ⟨mantissa, half, more⟩ := h
  obtain ⟨m, half_, more_⟩ := em
  rw [nearestRatio, ExtendedMantissa.roundedMantissa]
  cases half_ <;> cases more_ <;>
    simp only [Bool.false_eq_true, false_iff, true_iff] at mantissa half more <;>
    simp only [ExtendedMantissa.accuracy, Accuracy.roundToNearestEven] <;>
    split_ifs <;> omega

end Represents

/-! ### Rounding -/

/-- The double with a mantissa and an exponent, which is zero if the mantissa is. -/
def ofParts (s : Sign) (m : Nat) (e : Int) : UnpackedFloat :=
  if h : m = 0 then .zero s else .finite s m e (Nat.pos_of_ne_zero h)

/-- The exponent with which a number is rounded whose mantissa need not be small. -/
def roundedExponent (m : Nat) (e : Int) : Int := max (m.log2 + e - 52) leastExponent

/-- It is the exponent at which the format aims. -/
theorem targetExponent_eq (m : Nat) (e : Int) :
  Format.binary64.targetExponent (totalExponent m e) = roundedExponent m e
  := by
  simp only [Format.targetExponent, totalExponent, Format.mantissaBits, Format.minExponent,
    roundedExponent, leastExponent]
  norm_num
  omega

/-- The first step of rounding. -/
theorem shiftToTargetExponent_eq {m : Nat} {e : Int} (le : e ≤ roundedExponent m e)
    (accuracy : Accuracy) :
  UnpackedFloat.shiftToTargetExponent .binary64 m e accuracy
    = (ExtendedMantissa.ofMantissaAndAccuracy m accuracy >>> (roundedExponent m e - e).toNat,
      roundedExponent m e)
  := by
  rw [UnpackedFloat.shiftToTargetExponent, targetExponent_eq, UnpackedFloat.shiftToExponent]
  congr 1
  omega

/-- A mantissa that is small enough is not shifted. -/
theorem shiftToTargetExponent_of_lt {m : Nat} {e : Int} (small : m < 2 ^ 53)
    (least : leastExponent ≤ e) :
  UnpackedFloat.shiftToTargetExponent .binary64 m e .exact = (⟨m, false, false⟩, e)
  := by
  have bits : m.log2 ≤ 52 := by
    by_cases zero : m = 0
    · rw [zero]
      decide
    · exact Nat.le_of_lt_succ ((Nat.log2_lt zero).mpr small)
  have stays : (roundedExponent m e - e).toNat = 0 := by
    rw [roundedExponent]
    omega
  rw [UnpackedFloat.shiftToTargetExponent, targetExponent_eq, UnpackedFloat.shiftToExponent, stays]
  simp [HShiftRight.hShiftRight, Nat.repeat, ExtendedMantissa.ofMantissaAndAccuracy]

/-- A mantissa that has overflowed is halved. -/
theorem shiftToTargetExponent_overflown {e : Int} (least : leastExponent ≤ e) :
  UnpackedFloat.shiftToTargetExponent .binary64 (2 ^ 53) e .exact = (⟨2 ^ 52, false, false⟩, e + 1)
  := by
  have step : roundedExponent (2 ^ 53) e = e + 1 := by
    rw [roundedExponent, Nat.log2_two_pow]
    omega
  rw [shiftToTargetExponent_eq (by omega), step]
  have once : (e + 1 - e).toNat = 1 := by omega
  rw [once]
  rfl

/-- A mantissa that is shifted as the format asks leaves at most 53 bits. -/
theorem div_lt_of_roundedExponent (m : Nat) (e : Int) :
  m / 2 ^ (roundedExponent m e - e).toNat < 2 ^ 53
  := by
  have shift : m.log2 ≤ 52 + (roundedExponent m e - e).toNat := by
    rw [roundedExponent]
    omega
  refine Nat.div_lt_of_lt_mul ?_
  rw [Nat.mul_comm, ← Nat.pow_add]
  calc
    m < 2 ^ (m.log2 + 1) := Nat.lt_log2_self
    _ ≤ 2 ^ (53 + (roundedExponent m e - e).toNat) := Nat.pow_le_pow_right (by decide) (by omega)

/-- It leaves 53 bits unless the exponent is the least one. -/
theorem le_div_of_roundedExponent {m : Nat} {e : Int} (le : e ≤ roundedExponent m e)
    (above : leastExponent < roundedExponent m e) :
  2 ^ 52 ≤ m / 2 ^ (roundedExponent m e - e).toNat
  := by
  have shift : m.log2 = 52 + (roundedExponent m e - e).toNat := by
    rw [roundedExponent] at le above ⊢
    omega
  have some : m ≠ 0 := by
    rintro rfl
    rw [Nat.log2_zero] at shift
    omega
  rw [Nat.le_div_iff_mul_le (Nat.two_pow_pos _), ← Nat.pow_add, ← shift]
  exact Nat.log2_self_le some

section

variable {s : Sign} {m a b : Nat} {e : Int} {accuracy : Accuracy}

/-- What is divided is the mantissa. -/
theorem Represents.div_eq (h : Represents (.ofMantissaAndAccuracy m accuracy) a b) :
  a / b = m
  := by
  rw [← h.mantissa]
  rcases accuracy with _ | (_ | _ | _) <;> rfl

/-- The rounded mantissa takes at most 53 bits, or is the next number. -/
theorem Represents.nearestRatio_le (h : Represents (.ofMantissaAndAccuracy m accuracy) a b) :
  nearestRatio a (b * 2 ^ (roundedExponent m e - e).toNat) ≤ 2 ^ 53
  := by
  refine (Instrumentation.nearestRatio_le _ _).trans ?_
  rw [← Nat.div_div_eq_div_mul, h.div_eq]
  exact div_lt_of_roundedExponent m e

/-- The rounded mantissa takes 53 bits unless the exponent is the least one. -/
theorem Represents.le_nearestRatio (h : Represents (.ofMantissaAndAccuracy m accuracy) a b)
    (le : e ≤ roundedExponent m e) (above : leastExponent < roundedExponent m e) :
  2 ^ 52 ≤ nearestRatio a (b * 2 ^ (roundedExponent m e - e).toNat)
  := by
  refine le_trans ?_ (div_le_nearestRatio _ _)
  rw [← Nat.div_div_eq_div_mul, h.div_eq]
  exact le_div_of_roundedExponent le above

/-- Rounding takes the mantissa nearest to the ratio that it represents, and halves it if it has
overflowed. -/
theorem roundWithAccuracy_eq (h : Represents (.ofMantissaAndAccuracy m accuracy) a b) (pos : 0 < b)
    (le : e ≤ roundedExponent m e) (s : Sign) :
  UnpackedFloat.roundWithAccuracy .binary64 s m e accuracy
    = let t := roundedExponent m e
      let rounded := nearestRatio a (b * 2 ^ (t - e).toNat)
      if rounded = 2 ^ 53 then ofParts s (2 ^ 52) (t + 1) else ofParts s rounded t
  := by
  have shifted := h.shiftRight pos (roundedExponent m e - e).toNat
  have least : leastExponent ≤ roundedExponent m e := le_max_right _ _
  have bounded := h.nearestRatio_le (e := e)
  rw [UnpackedFloat.roundWithAccuracy, shiftToTargetExponent_eq le]
  dsimp only
  rw [shifted.roundedMantissa_eq]
  generalize nearestRatio a (b * 2 ^ (roundedExponent m e - e).toNat) = rounded at bounded
  by_cases overflown : rounded = 2 ^ 53
  · rw [if_pos overflown, overflown, shiftToTargetExponent_overflown least]
    rfl
  · rw [if_neg overflown, shiftToTargetExponent_of_lt (by omega) least]
    rfl

end

end Binary64

end Instrumentation
