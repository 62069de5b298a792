import Instrumentation.Proofs.Binary64.Value

/-!
# The doubles nearest to integers

An integer is rounded to 53 significant bits when it becomes a double, and two doubles that come
from integers are ordered as the rounded integers.
-/

namespace Instrumentation

/-- The whole number nearest to `n` that takes at most 53 significant bits, of two equally near the
one with an even mantissa. -/
def nearestNat (n : Nat) : Nat := nearestRatio n (2 ^ (n.log2 - 52)) * 2 ^ (n.log2 - 52)

/-- The integer nearest to `z` that takes at most 53 significant bits. -/
def nearestInt (z : Int) : Int := if z < 0 then -(nearestNat z.natAbs) else nearestNat z.natAbs

variable {n n' : Nat} {z w : Int}

/-- A number of at most 53 bits is its own. -/
theorem nearestNat_of_lt (small : n < 2 ^ 53) :
  nearestNat n = n
  := by
  have bits : n.log2 - 52 = 0 := by
    by_cases zero : n = 0
    · rw [zero, Nat.log2_zero]
    · have := (Nat.log2_lt zero).mpr small
      omega
  have whole := nearestRatio_of_dvd Nat.one_pos n
  rw [Nat.mul_one] at whole
  rw [nearestNat, bits, Nat.pow_zero, Nat.mul_one, whole]

/-- It has no more bits, or is the next number. -/
theorem nearestNat_le (n : Nat) :
  nearestNat n ≤ 2 ^ (n.log2 + 1)
  := by
  by_cases small : n < 2 ^ 53
  · rw [nearestNat_of_lt small]
    exact Nat.lt_log2_self.le
  · have bits : 53 ≤ n.log2 := (Nat.le_log2 (by omega)).mpr (Nat.le_of_not_lt small)
    have split : 2 ^ (n.log2 + 1) = 2 ^ 53 * 2 ^ (n.log2 - 52) := by
      rw [← Nat.pow_add]
      congr 1
      omega
    have quotient : n / 2 ^ (n.log2 - 52) < 2 ^ 53 := by
      rw [Nat.div_lt_iff_lt_mul (Nat.two_pow_pos _), ← split]
      exact Nat.lt_log2_self
    rw [split]
    exact Nat.mul_le_mul_right _ ((nearestRatio_le _ _).trans quotient)

/-- It has no fewer bits. -/
theorem le_nearestNat (some : n ≠ 0) :
  2 ^ n.log2 ≤ nearestNat n
  := by
  by_cases small : n < 2 ^ 53
  · rw [nearestNat_of_lt small]
    exact Nat.log2_self_le some
  · have bits : 53 ≤ n.log2 := (Nat.le_log2 some).mpr (Nat.le_of_not_lt small)
    have split : 2 ^ n.log2 = 2 ^ 52 * 2 ^ (n.log2 - 52) := by
      rw [← Nat.pow_add]
      congr 1
      omega
    have quotient : 2 ^ 52 ≤ n / 2 ^ (n.log2 - 52) := by
      rw [Nat.le_div_iff_mul_le (Nat.two_pow_pos _), ← split]
      exact Nat.log2_self_le some
    rw [split]
    exact Nat.mul_le_mul_right _ (quotient.trans (div_le_nearestRatio _ _))

/-- A greater number has a nearest one that is not smaller. -/
theorem nearestNat_mono (le : n ≤ n') :
  nearestNat n ≤ nearestNat n'
  := by
  by_cases some : n = 0
  · rw [some, nearestNat_of_lt (by decide)]
    exact Nat.zero_le _
  have some' : n' ≠ 0 := by omega
  have bits : n.log2 ≤ n'.log2 := (Nat.le_log2 some').mpr ((Nat.log2_self_le some).trans le)
  rcases bits.lt_or_eq with fewer | same
  · calc
      nearestNat n ≤ 2 ^ (n.log2 + 1) := nearestNat_le n
      _ ≤ 2 ^ n'.log2 := Nat.pow_le_pow_right (by decide) fewer
      _ ≤ nearestNat n' := le_nearestNat some'
  · rw [nearestNat, nearestNat, same]
    exact Nat.mul_le_mul_right _ (nearestRatio_mono le _)

/-- A greater integer has a nearest one that is not smaller. -/
theorem nearestInt_mono (le : z ≤ w) :
  nearestInt z ≤ nearestInt w
  := by
  rw [nearestInt, nearestInt]
  split_ifs
  · have mono : nearestNat w.natAbs ≤ nearestNat z.natAbs := nearestNat_mono (by omega)
    omega
  · omega
  · omega
  · have mono : nearestNat z.natAbs ≤ nearestNat w.natAbs := nearestNat_mono (by omega)
    omega

namespace Binary64

open Float.Model (Format UnpackedFloat)
open Float.Model.UnpackedFloat (Sign pack unpack)

variable {q : Nat} {m : Nat} {e : Int} {x : UnpackedFloat} {s : Sign}

/-- Scaling by a power of two adds bits. -/
theorem log2_mul_two_pow (some : n ≠ 0) (q : Nat) :
  (n * 2 ^ q).log2 = n.log2 + q
  := by
  have scaled : n * 2 ^ q ≠ 0 := Nat.mul_ne_zero some (Nat.two_pow_pos q).ne'
  rw [Nat.log2_eq_iff scaled, Nat.add_right_comm, Nat.pow_add, Nat.pow_add]
  exact ⟨Nat.mul_le_mul_right _ (Nat.log2_self_le some),
    Nat.mul_lt_mul_of_pos_right Nat.lt_log2_self (Nat.two_pow_pos q)⟩

/-- A scale does not change the exponent with which a number is rounded. -/
theorem roundedExponent_scaled (some : n ≠ 0) (e : Int) (q : Nat) :
  roundedExponent (n * 2 ^ q) (e - q) = roundedExponent n e
  := by
  rw [roundedExponent, roundedExponent, log2_mul_two_pow some]
  congr 1
  omega

/-- The exponent with which a whole number is rounded. -/
theorem roundedExponent_whole (n : Nat) :
  roundedExponent n 0 = n.log2 - 52
  := by
  rw [roundedExponent, leastExponent]
  omega

/-- A whole number, written with a scale that leaves enough bits, is rounded to the number of 53
bits that is nearest. -/
theorem holds_scaled (some : n ≠ 0) (enough : 52 - n.log2 ≤ q) (s : Sign) :
  Holds (UnpackedFloat.roundWithAccuracy .binary64 s (n * 2 ^ q) (0 - q) .exact) s
    (units (nearestNat n) 0)
  := by
  have exponent : roundedExponent (n * 2 ^ q) (0 - q) = n.log2 - 52 := by
    rw [roundedExponent_scaled some, roundedExponent_whole]
  have holds := roundWithAccuracy_holds (Represents.exact (n * 2 ^ q)) Nat.one_pos
    (by rw [exponent]; omega) s
  suffices same : units (nearestRatio (n * 2 ^ q) (1 * 2 ^ ((n.log2 : Int) - 52 - (0 - q)).toNat))
      (n.log2 - 52) = units (nearestNat n) 0 by
    rwa [exponent, same] at holds
  rw [units, units, leastExponent, Nat.one_mul]
  by_cases few : n.log2 ≤ 52
  · obtain ⟨r, rfl⟩ : ∃ r, q = 52 - n.log2 + r := ⟨q - (52 - n.log2), by omega⟩
    have rest : ((n.log2 : Int) - 52 - (0 - (52 - n.log2 + r : Nat))).toNat = r := by omega
    have exponent : (0 - -1074 : Int).toNat
        = 52 - n.log2 + ((n.log2 : Int) - 52 - -1074).toNat := by omega
    have small : n < 2 ^ 53 := (Nat.log2_lt some).mp (by omega)
    rw [rest, Nat.pow_add, ← Nat.mul_assoc, nearestRatio_of_dvd (Nat.two_pow_pos r), exponent,
      Nat.pow_add, ← Nat.mul_assoc, nearestNat_of_lt small]
  · have cut : ((n.log2 : Int) - 52 - (0 - q)).toNat = n.log2 - 52 + q := by omega
    have exponent : ((n.log2 : Int) - 52 - -1074).toNat
        = n.log2 - 52 + (0 - -1074 : Int).toNat := by omega
    rw [cut, Nat.pow_add, nearestRatio_mul_right (Nat.two_pow_pos q), exponent, Nat.pow_add,
      ← Nat.mul_assoc, nearestNat]

/-- A whole number is rounded to the number of 53 bits that is nearest. -/
theorem holds_ofNat (n : Nat) :
  Holds (UnpackedFloat.ofNat .binary64 n) .positive (units (nearestNat n) 0)
  := by
  by_cases some : n = 0
  · have none : units (nearestNat 0) 0 = 0 := by
      rw [nearestNat_of_lt (by decide), units, Nat.zero_mul]
    rw [some, none]
    exact .zero .positive
  · have shift : ((0 : Int) - roundedExponent n 0).toNat = 52 - n.log2 := by
      rw [roundedExponent_whole]
      omega
    have positive : compare (n : Int) 0 = .gt := Int.compare_eq_gt.mpr (by omega)
    rw [UnpackedFloat.ofNat, UnpackedFloat.ofInt, UnpackedFloat.normalize, positive]
    simp only [UnpackedFloat.round, UnpackedFloat.decreaseExponent, targetExponent_eq,
      Int.toNat_natCast, shift, Nat.shiftLeft_eq]
    exact holds_scaled some (Nat.le_refl _) .positive

/-- A double is rounded with its own exponent. -/
theorem Canonical.roundedExponent_eq (h : Canonical m e) (some : m ≠ 0) :
  roundedExponent m e = e
  := by
  obtain ⟨bits, least, full⟩ := h
  have most : m.log2 < 53 := (Nat.log2_lt some).mpr bits
  rw [roundedExponent]
  rcases full with same | large
  · omega
  · have := (Nat.le_log2 some).mpr large
    omega

/-- A double times one. -/
theorem holds_mul_one (h : Holds x s n) :
  Holds (UnpackedFloat.mul .binary64 x (.finite .positive (2 ^ 52) (-52) (by decide))) s n
  := by
  have sign : s * Sign.positive = s := by cases s <;> rfl
  rcases h.zero_or_finite with ⟨rfl, rfl⟩ | ⟨m, e, positive, _, canonical, rfl, rfl⟩
  · rw [UnpackedFloat.mul, sign]
    exact h
  · have some : m ≠ 0 := positive.ne'
    have exponent : roundedExponent (m * 2 ^ 52) (e - (52 : Nat)) = e := by
      rw [roundedExponent_scaled some, canonical.roundedExponent_eq some]
    have holds := roundWithAccuracy_holds (Represents.exact (m * 2 ^ 52)) Nat.one_pos
      (by rw [exponent]; omega) s
    have cut : (e - (e - (52 : Nat))).toNat = 52 := by omega
    rw [exponent, cut, Nat.one_mul, nearestRatio_of_dvd (Nat.two_pow_pos 52)] at holds
    rw [UnpackedFloat.mul, sign]
    exact holds

/-! ### Integers as doubles -/

/-- The number that a double is. -/
def IsFloat (x : Float) (s : Sign) (n : Nat) : Prop := Holds x.toModel.unpack s n

/-- A finite double is a number. -/
theorem exists_isFloat {x : Float} (finite : x.isFinite = true) :
  ∃ s n, IsFloat x s n
  := exists_holds_unpack finite

/-- Numbers that fit are kept. -/
theorem isFloat_pack (h : Holds x s n) (within : n < overflow) :
  IsFloat (.ofModel (.pack x)) s n
  := by
  have kept := h.unpack_pack
  rw [if_pos within] at kept
  change Holds (unpack .binary64 (pack .binary64 x)) s n
  rwa [kept]

/-- The nearest number is a double. -/
theorem units_nearestNat_lt (small : n < 2 ^ 64) :
  units (nearestNat n) 0 < overflow
  := by
  have most : nearestNat n < 2 ^ 65 := by
    by_cases zero : n = 0
    · rw [zero, nearestNat_of_lt (by decide)]
      decide
    · have bits : n.log2 + 1 < 65 := Nat.succ_lt_succ ((Nat.log2_lt zero).mpr small)
      exact (nearestNat_le n).trans_lt (Nat.pow_lt_pow_right (by decide) bits)
  exact units_lt_overflow most (by decide)

/-- A machine word as a double. -/
theorem isFloat_toUInt64 (small : n < 2 ^ 53) :
  IsFloat n.toUInt64.toFloat .positive (units n 0)
  := by
  have word : n.toUInt64.toNat = n := Nat.mod_eq_of_lt (by omega)
  have holds := holds_ofNat n
  have within := units_nearestNat_lt (n := n) (by omega)
  rw [nearestNat_of_lt small] at holds within
  change IsFloat (.ofModel (.pack (.ofNat .binary64 n.toUInt64.toNat))) _ _
  rw [word]
  exact isFloat_pack holds within

/-- A whole number as a double. -/
theorem isFloat_ofNat (small : n < 2 ^ 64) :
  IsFloat (Float.ofNat n) .positive (units (nearestNat n) 0)
  := by
  by_cases few : n < 2 ^ 53
  · have fast : Float.ofNat n = n.toUInt64.toFloat * 1.0 := dif_pos ⟨few, by decide⟩
    have within := units_nearestNat_lt small
    have product := holds_mul_one (isFloat_toUInt64 few)
    rw [nearestNat_of_lt few] at within ⊢
    rw [fast]
    exact isFloat_pack product within
  · have slow : Float.ofNat n = .ofModel (.pack (.ofScientific .binary64 n 0)) :=
      dif_neg (fun both => few both.1)
    have some : n ≠ 0 := by omega
    have within := units_nearestNat_lt small
    have product := holds_scaled (q := 53) some (by omega) .positive
    rw [slow]
    refine isFloat_pack ?_ within
    have range : ¬(0 : Int) < -(2 ^ Format.binary64.exponentBits + n.log2) := by
      change ¬(0 : Int) < -(2048 + n.log2)
      omega
    rw [UnpackedFloat.ofScientific, dif_neg some, if_neg (by decide), if_neg range,
      if_pos (Int.le_refl 0), UnpackedFloat.mul]
    simp only [Nat.shiftLeft_eq, Int.toNat_zero, Nat.pow_zero, Nat.mul_one]
    exact product

/-- The sign of an integer. -/
def signOf (z : Int) : Sign := if z < 0 then .negative else .positive

/-- An integer as a double. -/
theorem isFloat_ofInt (small : z.natAbs < 2 ^ 64) :
  IsFloat (Float.ofInt z) (signOf z) (units (nearestNat z.natAbs) 0)
  := by
  rcases z with n | n
  · exact isFloat_ofNat small
  · have opposite := (isFloat_ofNat small).neg
    rw [signOf, if_pos (Int.negSucc_lt_zero n)]
    exact isFloat_pack opposite (units_nearestNat_lt small)

/-- The units of an integer, with its sign. -/
theorem apply_signOf (z : Int) :
  (signOf z).apply (units (nearestNat z.natAbs) 0) = nearestInt z * (units 1 0 : Nat)
  := by
  have scaled : units (nearestNat z.natAbs) 0 = nearestNat z.natAbs * units 1 0 := by
    rw [units, units, Nat.one_mul]
  rw [signOf, nearestInt, scaled]
  generalize units 1 0 = unit
  split_ifs
  · exact ((Int.neg_mul _ _).trans (congrArg Neg.neg (Int.natCast_mul _ _).symm)).symm
  · exact Int.natCast_mul _ _

/-- Two integers as doubles are ordered as the nearest numbers. -/
theorem compare_ofInt (small : z.natAbs < 2 ^ 64) (small' : w.natAbs < 2 ^ 64) :
  (Float.ofInt z).toModel.compare (Float.ofInt w).toModel
    = some (compare (nearestInt z) (nearestInt w))
  := by
  rw [Float.Model.compare, (isFloat_ofInt small).compare_eq (isFloat_ofInt small'), apply_signOf,
    apply_signOf]
  have scale : (0 : Int) < (units 1 0 : Nat) := by
    rw [units, Nat.one_mul]
    exact Int.natCast_pos.mpr (Nat.two_pow_pos _)
  rw [Int.compare_eq_ite_lt, Int.compare_eq_ite_lt]
  simp only [Int.mul_lt_mul_right scale]

end Binary64

end Instrumentation
