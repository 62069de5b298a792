import Mathlib.Tactic.IntervalCases
import Instrumentation.Decimal.Nearest
import Instrumentation.Proofs.Binary64.Integer

/-!
# Decimals that are finite as doubles

The double nearest to a decimal is finite just if the decimal is below the middle between the
greatest double and the next number that 53 bits could hold. Small decimals are divided as doubles,
which are then exact, and all others are divided as whole numbers.
-/

namespace Instrumentation

namespace Binary64

open Float.Model (Format UnpackedFloat)
open Float.Model.UnpackedFloat (Sign pack unpack)

variable {m m' : Nat} {e e' : Int}

/-- The exponent at which a quotient aims. -/
def quotientExponent (m : Nat) (e : Int) (m' : Nat) (e' : Int) : Int :=
  min (e - e') (max (m.log2 + e - m'.log2 - e' - 53) leastExponent)

/-- The quotient has enough bits at that exponent. -/
theorem quotientExponent_le (some : m ≠ 0) (some' : 0 < m') (e e' : Int) :
  let t := quotientExponent m e m' e'
  t ≤ roundedExponent (m * 2 ^ (e - e' - t).toNat / m') t
  := by
  intro t
  by_cases lowest : t ≤ leastExponent
  · exact lowest.trans (le_max_right _ _)
  have aim : t ≤ m.log2 + e - m'.log2 - e' - 53 := by
    have : t = min (e - e') (max (m.log2 + e - m'.log2 - e' - 53) leastExponent) := rfl
    omega
  have shift : m'.log2 + 53 ≤ m.log2 + (e - e' - t).toNat := by
    have : t ≤ e - e' := min_le_left _ _
    omega
  have large : 2 ^ 52 ≤ m * 2 ^ (e - e' - t).toNat / m' := by
    rw [Nat.le_div_iff_mul_le some']
    calc
      2 ^ 52 * m' ≤ 2 ^ 52 * 2 ^ (m'.log2 + 1) := Nat.mul_le_mul_left _ Nat.lt_log2_self.le
      _ = 2 ^ (m'.log2 + 53) := by rw [← Nat.pow_add, Nat.add_comm 52]
      _ ≤ 2 ^ (m.log2 + (e - e' - t).toNat) := Nat.pow_le_pow_right (by decide) shift
      _ = 2 ^ m.log2 * 2 ^ (e - e' - t).toNat := Nat.pow_add ..
      _ ≤ m * 2 ^ (e - e' - t).toNat := Nat.mul_le_mul_right _ (Nat.log2_self_le some)
  have bits : 52 ≤ (m * 2 ^ (e - e' - t).toNat / m').log2 := (Nat.le_log2 (by omega)).mpr large
  rw [roundedExponent]
  omega

/-- A quotient of two doubles is finite just if it is below the middle between the greatest double
and the next number. -/
theorem isFinite_div_iff {s s' : Sign} (some : 0 < m) (some' : 0 < m')
    (least : leastExponent ≤ e - e') :
  (unpack .binary64 (pack .binary64
      (UnpackedFloat.div .binary64 (.finite s m e some) (.finite s' m' e' some')))).isFinite = true
    ↔ units m (e - e') < midway * m'
  := by
  have aim : min (e - e') (Format.binary64.targetExponent
      (Float.Model.totalExponent m e - Float.Model.totalExponent m' e'))
        = quotientExponent m e m' e' := by
    rw [quotientExponent, leastExponent]
    simp only [Format.targetExponent, Float.Model.totalExponent, Format.mantissaBits,
      Format.minExponent]
    norm_num
    omega
  have low : leastExponent ≤ quotientExponent m e m' e' := le_min least (le_max_right _ _)
  have high : quotientExponent m e m' e' ≤ e - e' := min_le_left _ _
  have enough := quotientExponent_le some.ne' some' e e'
  simp only [UnpackedFloat.div, UnpackedFloat.divCore, aim, Nat.shiftLeft_eq]
  generalize quotientExponent m e m' e' = t at *
  have quotient := Represents.quotient some' (m * 2 ^ (e - e' - t).toNat)
  have scale : t = e - e' - (e - e' - t).toNat := by omega
  have scaled : units (m * 2 ^ (e - e' - t).toNat) t = units m (e - e') := by
    conv_lhs => arg 2; rw [scale]
    exact units_scaled m (scale ▸ low)
  rw [isFinite_round_iff quotient some' enough low, scaled]

/-- A whole number divided by another one is finite just if it is below that middle. -/
theorem units_whole_lt_iff (n m : Nat) :
  units n 0 < midway * m ↔ n < (2 ^ 54 - 1) * 2 ^ 970 * m
  := by
  have split : midway = (2 ^ 54 - 1) * 2 ^ 970 * 2 ^ (0 - leastExponent).toNat := by
    have sum : 970 + (0 - leastExponent).toNat = unitBits - 54 := rfl
    rw [midway, Nat.mul_assoc, ← Nat.pow_add, sum]
  rw [units, split, Nat.mul_right_comm, Nat.mul_lt_mul_right (Nat.two_pow_pos _)]

/-- The exponent of a whole number. -/
theorem Canonical.exponent_bounds {n k : Nat} (h : Canonical m e) (some : 0 < n)
    (whole : units m e = units n 0) (few : n < 2 ^ k) :
  -53 < e ∧ e < k
  := by
  obtain ⟨bits, least, -⟩ := h
  have exact := le_units some 0
  have units_pos : 0 < units m e := by
    rw [whole]
    exact Nat.mul_pos some (Nat.two_pow_pos _)
  have positive : 0 < m := Nat.pos_of_mul_pos_right units_pos
  have own := le_units positive e
  constructor
  · by_contra low
    have fewer : 53 + (e - leastExponent).toNat ≤ (0 - leastExponent).toNat := by
      rw [leastExponent] at *
      omega
    have less : units m e < 2 ^ (0 - leastExponent).toNat :=
      (units_lt bits e).trans_le (Nat.pow_le_pow_right (by decide) fewer)
    omega
  · by_contra high
    have more : k + (0 - leastExponent).toNat ≤ (e - leastExponent).toNat := by
      rw [leastExponent] at *
      omega
    have less : units n 0 < 2 ^ (e - leastExponent).toNat :=
      (units_lt few 0).trans_le (Nat.pow_le_pow_right (by decide) more)
    omega

end Binary64

namespace Decimal

open Binary64
open Float.Model (Format UnpackedFloat)

/-- The number from which on decimals are rounded to infinity: the middle between the greatest
double and the next number that 53 bits could hold. -/
def limit : Nat := (2 ^ 54 - 1) * 2 ^ 970

/-- The limit is not small. -/
theorem le_limit :
  2 ^ 63 ≤ limit
  := by
  have power : 2 ^ 10 ≤ 2 ^ 970 := by gcongr <;> decide
  calc
    2 ^ 63 ≤ (2 ^ 54 - 1) * 2 ^ 10 := by decide
    _ ≤ limit := Nat.mul_le_mul_left _ power

/-- The limit is positive. -/
theorem limit_pos :
  0 < limit
  := lt_of_lt_of_le (by decide) le_limit

variable {c p : Nat}

/-- The powers of ten by which small decimals are divided are whole numbers as doubles. -/
theorem power_eq (within : p < Float.exactlyRepresentablePowersOfTen.size) :
  Float.exactlyRepresentablePowersOfTen[p] = .ofModel (.pack (.ofNat .binary64 (10 ^ p)))
  := by
  have all : ∀ q : Fin 23, Float.exactlyRepresentablePowersOfTen[q.val]
      = .ofModel (.pack (.ofNat .binary64 (10 ^ q.val))) := by decide +kernel
  exact all ⟨p, within⟩

/-- A power of ten by which a small decimal is divided. -/
theorem isFloat_power (within : p < Float.exactlyRepresentablePowersOfTen.size) :
  ∃ n, 0 < n ∧ n < 2 ^ 75 ∧
    IsFloat Float.exactlyRepresentablePowersOfTen[p] .positive (units n 0)
  := by
  have some : 10 ^ p ≠ 0 := (Nat.pow_pos (by decide)).ne'
  have small : 10 ^ p < 2 ^ 74 := by
    calc
      10 ^ p ≤ 10 ^ 22 := Nat.pow_le_pow_right (by decide) (Nat.le_of_lt_succ within)
      _ < 2 ^ 74 := by decide
  have bits : (10 ^ p).log2 < 74 := (Nat.log2_lt some).mpr small
  have bounded : nearestNat (10 ^ p) < 2 ^ 75 :=
    (nearestNat_le _).trans_lt (Nat.pow_lt_pow_right (by decide) (by omega))
  refine ⟨nearestNat (10 ^ p), (Nat.two_pow_pos _).trans_le (le_nearestNat some), bounded, ?_⟩
  rw [power_eq within]
  exact isFloat_pack (holds_ofNat _) (units_lt_overflow bounded (by decide))

/-- A quotient of doubles is taken apart. -/
theorem isFinite_div (x y : Float) :
  (x / y).isFinite = (UnpackedFloat.unpack .binary64 (UnpackedFloat.pack .binary64
    (UnpackedFloat.div .binary64 x.toModel.unpack y.toModel.unpack))).isFinite
  := rfl

/-- A small decimal is finite. -/
theorem isFinite_fast (small : c < 2 ^ 53) (few : p ≤ 22) :
  (nearest c p).isFinite = true
  := by
  have within : p < Float.exactlyRepresentablePowersOfTen.size := Nat.lt_succ_of_le few
  have fast : nearest c p = c.toUInt64.toFloat / Float.exactlyRepresentablePowersOfTen[p] :=
    dif_pos ⟨small, few⟩
  obtain ⟨n, some', bounded', power⟩ := isFloat_power within
  rcases Holds.zero_or_finite power with
    ⟨none, -⟩ | ⟨m', e', positive', _, canonical', whole', parts'⟩
  · exact absurd none (Nat.mul_pos some' (Nat.two_pow_pos _)).ne'
  rw [fast, isFinite_div, parts']
  rcases Holds.zero_or_finite (isFloat_toUInt64 small) with
    ⟨-, zero⟩ | ⟨m, e, positive, some, canonical, whole, parts⟩
  · rw [zero]
    exact (Holds.zero .positive).isFinite_iff.mpr (Nat.two_pow_pos _)
  · obtain ⟨low, high⟩ := canonical.exponent_bounds (Nat.pos_of_mul_pos_right some) whole small
    obtain ⟨low', high'⟩ := canonical'.exponent_bounds some' whole' bounded'
    rw [parts, isFinite_div_iff positive positive' (by rw [leastExponent]; omega)]
    have few : 53 + (e - e' - leastExponent).toNat ≤ unitBits - 54 := by
      rw [leastExponent, unitBits]
      omega
    calc
      units m (e - e') < 2 ^ (53 + (e - e' - leastExponent).toNat) := units_lt canonical.bits _
      _ ≤ 2 ^ (unitBits - 54) := Nat.pow_le_pow_right (by decide) few
      _ ≤ midway := Nat.le_mul_of_pos_left _ (by decide)
      _ ≤ midway * m' := Nat.le_mul_of_pos_right _ positive'

/-- A decimal with very many places is below the limit. -/
theorem lt_limit_of_log2 (many : c.log2 < p) :
  c < limit * 10 ^ p
  := by
  calc
    c < 2 ^ (c.log2 + 1) := Nat.lt_log2_self
    _ ≤ 2 ^ p := Nat.pow_le_pow_right (by decide) many
    _ ≤ 10 ^ p := Nat.pow_le_pow_left (by decide) p
    _ ≤ limit * 10 ^ p := Nat.le_mul_of_pos_left _ limit_pos

/-- Another decimal is finite just if it is below the limit. -/
theorem isFinite_slow (c p : Nat) :
  (Float.ofModel (.ofScientific c (Int.negOfNat p))).isFinite = true ↔ c < limit * 10 ^ p
  := by
  have packed : (Float.ofModel (.ofScientific c (Int.negOfNat p))).isFinite
      = (UnpackedFloat.unpack .binary64 (UnpackedFloat.pack .binary64
          (UnpackedFloat.ofScientific .binary64 c (Int.negOfNat p)))).isFinite := rfl
  have zero : (UnpackedFloat.unpack .binary64 (UnpackedFloat.pack .binary64
      (.zero .positive))).isFinite = true :=
    (Holds.zero .positive).isFinite_iff.mpr (Nat.two_pow_pos _)
  have range : (2 : Int) ^ Format.binary64.exponentBits = 2048 := by decide
  have exponent : Int.negOfNat p = -(p : Int) := Int.negOfNat_eq
  have power : (-(-(p : Int))).toNat = p := by omega
  rw [packed, exponent, UnpackedFloat.ofScientific, range]
  by_cases none : c = 0
  · rw [dif_pos none, none]
    exact iff_of_true zero (Nat.mul_pos limit_pos (Nat.pow_pos (by decide)))
  rw [dif_neg none, if_neg (by omega)]
  have positive : 0 < c := Nat.pos_of_ne_zero none
  split_ifs with tiny whole
  · exact iff_of_true zero (lt_limit_of_log2 (by omega))
  · obtain rfl : p = 0 := by omega
    have exponent : roundedExponent (c * 2 ^ 53) (0 - (53 : Nat)) = c.log2 - 52 := by
      rw [roundedExponent_scaled none, roundedExponent_whole]
    have product := isFinite_round_iff (Represents.exact (c * 2 ^ 53)) Nat.one_pos
      (by rw [exponent]; omega) (by decide) .positive
    rw [units_scaled c (by decide), units_whole_lt_iff] at product
    rw [UnpackedFloat.mul, limit, Nat.pow_zero, ← product]
    simp only [Nat.shiftLeft_eq, Int.neg_zero, Int.natCast_zero, Int.toNat_zero, Nat.pow_zero,
      Nat.mul_one]
    rfl
  · rw [isFinite_div_iff, power, Int.sub_self, units_whole_lt_iff, limit]
    decide

/-- The double nearest to a decimal is finite just if the decimal is below the limit. -/
theorem isFinite_nearest_iff (c p : Nat) :
  (nearest c p).isFinite = true ↔ c < limit * 10 ^ p
  := by
  by_cases fast : c < 2 ^ 53 ∧ p ≤ 22
  · refine iff_of_true (isFinite_fast fast.1 fast.2) ?_
    calc
      c < 2 ^ 63 := by omega
      _ ≤ limit := le_limit
      _ ≤ limit * 10 ^ p := Nat.le_mul_of_pos_right _ (Nat.pow_pos (by decide))
  · have slow : nearest c p = .ofModel (.ofScientific c (Int.negOfNat p)) := dif_neg fast
    rw [slow, isFinite_slow]

end Decimal

end Instrumentation
