import Instrumentation.Proofs.Binary64.Rounding

/-!
# The values of doubles

Every finite double is a whole number of units of the least positive one.
-/

namespace Instrumentation.Binary64

open Float.Model (Format UnpackedFloat)
open Float.Model.UnpackedFloat (Sign pack unpack packComponents unpackSign unpackMantissa
  unpackExponent unpackMantissa_packComponents unpackExponent_packComponents)

/-- The parts of a double: the mantissa takes at most 53 bits, and fewer only with the least
exponent. -/
structure Canonical (m : Nat) (e : Int) : Prop where
  /-- At most 53 bits. -/
  bits : m < 2 ^ 53
  /-- The least exponent. -/
  least : leastExponent ≤ e
  /-- Fewer bits with the least exponent only. -/
  full : e = leastExponent ∨ 2 ^ 52 ≤ m

/-- A number in units of the least positive double. -/
def units (m : Nat) (e : Int) : Nat := m * 2 ^ (e - leastExponent).toNat

/-- How many bits the units of a double take. -/
def unitBits : Nat := 2098

/-- The units from which on a number is no double. -/
def overflow : Nat := 2 ^ unitBits

/-- The rounded number that is so many units, without a bound for its exponent. -/
def Holds (x : UnpackedFloat) (s : Sign) (n : Nat) : Prop :=
  ∃ m e, Canonical m e ∧ x = ofParts s m e ∧ units m e = n

variable {s s' : Sign} {m m' n n' : Nat} {e e' : Int} {x x' : UnpackedFloat}

/-- How many bits the units of a number take at most. -/
theorem units_lt {k : Nat} (bits : m < 2 ^ k) (e : Int) :
  units m e < 2 ^ (k + (e - leastExponent).toNat)
  := by
  rw [units, Nat.pow_add]
  exact Nat.mul_lt_mul_of_pos_right bits (Nat.two_pow_pos _)

/-- How many bits the units of a number take at least. -/
theorem le_units (some : 0 < m) (e : Int) :
  2 ^ (e - leastExponent).toNat ≤ units m e
  := Nat.le_mul_of_pos_left _ some

/-- Numbers written with another scale have the same units. -/
theorem units_scaled (m : Nat) {e : Int} {q : Nat} (least : leastExponent ≤ e - q) :
  units (m * 2 ^ q) (e - q) = units m e
  := by
  have sum : (e - leastExponent).toNat = q + (e - q - leastExponent).toNat := by omega
  rw [units, units, sum, Nat.pow_add, Nat.mul_assoc]

/-- A number with few bits is not too large. -/
theorem units_lt_overflow {k : Nat} (bits : m < 2 ^ k)
    (few : k + (e - leastExponent).toNat ≤ unitBits) :
  units m e < overflow
  := (units_lt bits e).trans_le (Nat.pow_le_pow_right (by decide) few)

/-- A number with many bits and a great exponent is too large. -/
theorem overflow_le_units (large : 2 ^ 52 ≤ m) (above : 971 < e) :
  overflow ≤ units m e
  := by
  have many : unitBits ≤ 52 + (e - leastExponent).toNat := by
    rw [unitBits, leastExponent]
    omega
  calc
    2 ^ unitBits ≤ 2 ^ (52 + (e - leastExponent).toNat) := Nat.pow_le_pow_right (by decide) many
    _ = 2 ^ 52 * 2 ^ (e - leastExponent).toNat := Nat.pow_add ..
    _ ≤ m * 2 ^ (e - leastExponent).toNat := Nat.mul_le_mul_right _ large

namespace Canonical

/-- Only exponents up to 971 are those of doubles. -/
theorem units_lt_overflow_iff (h : Canonical m e) :
  units m e < overflow ↔ m = 0 ∨ e ≤ 971
  := by
  obtain ⟨bits, least, full⟩ := h
  rw [leastExponent] at least full
  by_cases within : e ≤ 971
  · refine iff_of_true (units_lt_overflow bits ?_) (.inr within)
    rw [unitBits, leastExponent]
    omega
  · have large : 2 ^ 52 ≤ m := full.resolve_left (by omega)
    have above : 971 < e := Int.not_le.mp within
    exact iff_of_false (Nat.not_lt.mpr (overflow_le_units large above)) (by omega)

/-- A greater exponent makes a greater number. -/
theorem units_lt_units (h : Canonical m e) (h' : Canonical m' e') (less : e < e') :
  units m e < units m' e'
  := by
  have large : 2 ^ 52 ≤ m' := h'.full.resolve_left (by have := h.least; omega)
  have bits := h.bits
  have least := h.least
  rw [units, units]
  obtain ⟨k, next⟩ : ∃ k, (e' - leastExponent).toNat = (e - leastExponent).toNat + (k + 1) :=
    ⟨(e' - e - 1).toNat, by omega⟩
  rw [next, Nat.pow_add, ← Nat.mul_assoc, Nat.mul_right_comm]
  refine Nat.mul_lt_mul_of_pos_right ?_ (Nat.two_pow_pos _)
  calc
    m < 2 ^ 52 * 2 ^ 1 := bits
    _ ≤ m' * 2 ^ (k + 1) := Nat.mul_le_mul large (Nat.pow_le_pow_right (by decide) (by omega))

/-- Numbers are ordered as their exponents, and those with the same exponent as their mantissas. -/
theorem compare_units (h : Canonical m e) (h' : Canonical m' e') :
  compare (units m e) (units m' e') = (compare e e').then (compare m m')
  := by
  rcases lt_trichotomy e e' with less | rfl | greater
  · rw [Int.compare_eq_lt.mpr less, Nat.compare_eq_lt.mpr (h.units_lt_units h' less)]
    rfl
  · simp only [units, Int.compare_eq_eq.mpr, Ordering.eq_then, Nat.compare_eq_ite_lt,
      Nat.mul_lt_mul_right (Nat.two_pow_pos _)]
  · rw [Int.compare_eq_gt.mpr greater, Nat.compare_eq_gt.mpr (h'.units_lt_units h greater)]
    rfl

end Canonical

/-! ### Doubles as bits -/

/-- The sign of packed components. -/
theorem unpackSign_packComponents {format : Format} (s : Sign)
    (exponent : BitVec format.exponentBits)
    (mantissa : BitVec format.mantissaBitsWithoutImplicit) :
  Sign.ofBitVec (unpackSign (packComponents format s exponent mantissa)) = s
  := by
  have sign : unpackSign (packComponents format s exponent mantissa) = s.toBitVec := by
    refine BitVec.eq_of_getLsbD_eq fun i small => ?_
    obtain rfl : i = 0 := by omega
    simp [unpackSign, packComponents, BitVec.getLsbD_append, BitVec.getElem_append]
  rw [sign]
  cases s <;> rfl

/-- A mantissa with its leading bit. -/
theorem toNat_leading (mantissa : BitVec 52) :
  (1#1 ++ mantissa).toNat = 2 ^ 52 + mantissa.toNat
  := by
  rw [BitVec.toNat_append, ← Nat.shiftLeft_add_eq_or_of_lt mantissa.isLt]
  rfl

/-- The number that packed components stand for. -/
theorem unpack_packComponents (s : Sign) (exponent : BitVec 11) (mantissa : BitVec 52) :
  unpack .binary64 (packComponents .binary64 s exponent mantissa)
    = if exponent = -1#11 then
        if mantissa = 0#52 then .infinity s else .notANumber
      else if exponent = 0#11 then ofParts s mantissa.toNat leastExponent
      else ofParts s (2 ^ 52 + mantissa.toNat) (exponent.toNat - 1075)
  := by
  have leading := toNat_leading mantissa
  rw [unpack]
  simp only [unpackMantissa_packComponents, unpackExponent_packComponents,
    unpackSign_packComponents]
  split_ifs with special noFraction zero noFraction
  · rfl
  · rfl
  · rw [noFraction]
    rfl
  · have some : mantissa.toNat ≠ 0 := fun none => noFraction (BitVec.eq_of_toNat_eq none)
    rw [ofParts, dif_neg some, zero]
    rfl
  · rw [ofParts, dif_neg (by omega)]
    congr 1

/-- The exponent of a number is packed with its bias. -/
theorem exponentBias_add_mantissaBits :
  (Format.binary64.exponentBias + Format.binary64.mantissaBitsWithoutImplicit : Int) = 1075
  := by decide

/-- A number without a leading bit is kept. -/
theorem unpack_pack_subnormal (some : 0 < m) (few : m < 2 ^ 52) (s : Sign) :
  unpack .binary64 (pack .binary64 (.finite s m leastExponent some))
    = .finite s m leastExponent some
  := by
  have bits : m.log2 + 1 ≠ Format.binary64.mantissaBits := by
    have := (Nat.log2_lt some.ne').mpr few
    change m.log2 + 1 ≠ 53
    omega
  have mantissa : (BitVec.ofNat 52 m).toNat = m := Nat.mod_eq_of_lt few
  have parts : ofParts s m leastExponent = .finite s m leastExponent some := dif_neg some.ne'
  rw [pack, Int.add_assoc, exponentBias_add_mantissaBits, if_neg (by decide), if_neg bits,
    unpack_packComponents, mantissa, ← parts]
  rfl

/-- A number with a leading bit and an exponent of doubles is kept. -/
theorem unpack_pack_normal (bits : m < 2 ^ 53) (normal : 2 ^ 52 ≤ m) (some : 0 < m)
    (least : leastExponent ≤ e) (within : e ≤ 971) (s : Sign) :
  unpack .binary64 (pack .binary64 (.finite s m e some)) = .finite s m e some
  := by
  rw [leastExponent] at least
  have all : m.log2 + 1 = Format.binary64.mantissaBits := by
    have below := (Nat.log2_lt some.ne').mpr bits
    have above := (Nat.le_log2 some.ne').mpr normal
    change m.log2 + 1 = 53
    omega
  have mantissa : (BitVec.ofNat 52 m).toNat = m - 2 ^ 52 := by
    rw [BitVec.toNat_ofNat]
    omega
  have exponent : (BitVec.ofNat 11 (e + 1075).toNat).toNat = (e + 1075).toNat :=
    Nat.mod_eq_of_lt (by omega)
  have notAll : BitVec.ofNat 11 (e + 1075).toNat ≠ -1#11 := by
    refine fun same => absurd (congrArg BitVec.toNat same) ?_
    rw [exponent]
    change _ ≠ 2047
    omega
  have notNone : BitVec.ofNat 11 (e + 1075).toNat ≠ 0#11 := by
    refine fun same => absurd (congrArg BitVec.toNat same) ?_
    rw [exponent]
    change _ ≠ 0
    omega
  have parts : ofParts s m e = .finite s m e some := dif_neg some.ne'
  rw [pack, Int.add_assoc, exponentBias_add_mantissaBits, if_neg (by simp only; omega), if_pos all,
    unpack_packComponents, if_neg notAll, if_neg notNone, mantissa, exponent, ← parts,
    Nat.add_sub_of_le normal]
  congr 1
  omega

/-- A number with too great an exponent is made infinite. -/
theorem unpack_pack_large (some : 0 < m) (large : 971 < e) (s : Sign) :
  unpack .binary64 (pack .binary64 (.finite s m e some)) = .infinity s
  := by
  rw [pack, Int.add_assoc, exponentBias_add_mantissaBits, if_pos (by simp only; omega)]
  exact unpack_packComponents s (-1#11) 0#52

/-- Packing keeps the number, and makes one that is too large infinite. -/
theorem unpack_pack (h : Canonical m e) (s : Sign) :
  unpack .binary64 (pack .binary64 (ofParts s m e))
    = if units m e < overflow then ofParts s m e else .infinity s
  := by
  rw [if_congr h.units_lt_overflow_iff rfl rfl]
  by_cases zero : m = 0
  · subst zero
    exact unpack_packComponents s 0#11 0#52
  have some : 0 < m := Nat.pos_of_ne_zero zero
  have parts : ofParts s m e = .finite s m e some := dif_neg zero
  rw [parts]
  by_cases within : e ≤ 971
  · rw [if_pos (.inr within)]
    rcases lt_or_ge m (2 ^ 52) with subnormal | normal
    · obtain rfl : e = leastExponent := h.full.resolve_right (by omega)
      exact unpack_pack_subnormal some subnormal s
    · exact unpack_pack_normal h.bits normal some h.least within s
  · rw [if_neg (by omega)]
    exact unpack_pack_large some (Int.not_le.mp within) s

/-! ### The number that a double is -/

/-- Whole numbers are ordered as natural numbers. -/
theorem compare_natCast (a b : Nat) :
  compare (a : Int) (b : Int) = compare a b
  := by
  rw [Nat.compare_eq_ite_lt, Int.compare_eq_ite_lt]
  simp only [Int.ofNat_lt]

/-- Opposite numbers have the opposite order. -/
theorem compare_neg_natCast (a b : Nat) :
  compare (-(a : Int)) (-(b : Int)) = (compare a b).swap
  := by
  rw [Nat.compare_swap, Nat.compare_eq_ite_lt, Int.compare_eq_ite_lt]
  simp only [Int.neg_lt_neg_iff, Int.ofNat_lt]

namespace Holds

/-- Canonical parts are the number that they say. -/
theorem ofParts (h : Canonical m e) (s : Sign) :
  Holds (ofParts s m e) s (units m e)
  := ⟨m, e, h, rfl, rfl⟩

/-- Nothing. -/
theorem zero (s : Sign) :
  Holds (.zero s) s 0
  := ⟨0, leastExponent, ⟨by decide, le_refl _, .inl rfl⟩, rfl, by rw [units, Nat.zero_mul]⟩

/-- Canonical parts that are not nothing are the number that they say. -/
theorem finite (h : Canonical m e) (s : Sign) (positive : 0 < m) :
  Holds (.finite s m e positive) s (units m e)
  := by
  have parts : Binary64.ofParts s m e = .finite s m e positive := dif_neg positive.ne'
  exact ⟨m, e, h, parts.symm, rfl⟩

/-- Packing keeps the number, and makes one that is too large infinite. -/
theorem unpack_pack (h : Holds x s n) :
  unpack .binary64 (pack .binary64 x) = if n < overflow then x else .infinity s
  := by
  obtain ⟨m, e, canonical, rfl, rfl⟩ := h
  exact Binary64.unpack_pack canonical s

/-- A double is finite if its units are not too many. -/
theorem isFinite_iff (h : Holds x s n) :
  (unpack .binary64 (pack .binary64 x)).isFinite = true ↔ n < overflow
  := by
  rw [h.unpack_pack]
  obtain ⟨m, e, canonical, rfl, rfl⟩ := h
  split_ifs with within
  · refine iff_of_true ?_ within
    rw [Binary64.ofParts]
    split <;> rfl
  · exact iff_of_false Bool.false_ne_true within

/-- Nothing is zero, and anything else has parts. -/
theorem zero_or_finite (h : Holds x s n) :
  (n = 0 ∧ x = .zero s) ∨
    ∃ m e positive, 0 < n ∧ Canonical m e ∧ units m e = n ∧ x = .finite s m e positive
  := by
  obtain ⟨m, e, canonical, rfl, rfl⟩ := h
  by_cases zero : m = 0
  · exact .inl ⟨by rw [zero, units, Nat.zero_mul], dif_pos zero⟩
  · have positive : 0 < m := Nat.pos_of_ne_zero zero
    exact .inr ⟨m, e, positive, Nat.mul_pos positive (Nat.two_pow_pos _), canonical, rfl,
      dif_neg zero⟩

/-- The opposite number. -/
theorem neg (h : Holds x s n) :
  Holds x.neg (-s) n
  := by
  obtain ⟨m, e, canonical, rfl, rfl⟩ := h
  refine ⟨m, e, canonical, ?_, rfl⟩
  rw [Binary64.ofParts, Binary64.ofParts]
  split <;> rfl

/-- Doubles are ordered as the numbers that they are. -/
theorem compare_eq (h : Holds x s n) (h' : Holds x' s' n') :
  x.compare x' = some (compare (s.apply n) (s'.apply n'))
  := by
  rcases h.zero_or_finite with ⟨rfl, rfl⟩ | ⟨m, e, _, some, canonical, rfl, rfl⟩ <;>
  rcases h'.zero_or_finite with ⟨rfl, rfl⟩ | ⟨m', e', _, some', canonical', rfl, rfl⟩
  case inl.inl => cases s <;> cases s' <;> rfl
  case inr.inr =>
    have parts := canonical.compare_units canonical'
    cases s <;> cases s' <;> simp only [UnpackedFloat.compare, ← parts, Sign.apply]
    case positive.positive => rw [compare_natCast]
    case negative.negative => rw [compare_neg_natCast]
    case negative.positive => rw [Int.compare_eq_lt.mpr (by omega)]
    case positive.negative => rw [Int.compare_eq_gt.mpr (by omega)]
  all_goals
    cases s <;> cases s' <;> simp only [UnpackedFloat.compare, Sign.apply]
  all_goals
    first
    | rw [Int.compare_eq_lt.mpr (by omega)]
    | rw [Int.compare_eq_gt.mpr (by omega)]

end Holds

/-- Bits that are neither infinite nor undefined are a number. -/
theorem exists_holds_unpack {b : BitVec 64} (finite : (unpack .binary64 b).isFinite = true) :
  ∃ s n, Holds (unpack .binary64 b) s n
  := by
  have few : (@unpackMantissa .binary64 b).toNat < 2 ^ 52 := BitVec.isLt _
  have leading := toNat_leading (@unpackMantissa .binary64 b)
  rw [unpack] at finite ⊢
  rw [exponentBias_add_mantissaBits]
  split_ifs at finite ⊢ with special noFraction zero noFraction
  · cases finite
  · cases finite
  · exact ⟨_, _, .zero _⟩
  · have exponent : ((@unpackExponent .binary64 b).toNat : Int) = 0 := by
      rw [zero]
      rfl
    rw [exponent]
    exact ⟨_, _, .finite ⟨by omega, le_refl _, .inl rfl⟩ _ _⟩
  · have exponent : (@unpackExponent .binary64 b).toNat ≠ 0 :=
      fun none => zero (BitVec.eq_of_toNat_eq none)
    have least : leastExponent ≤ (@unpackExponent .binary64 b).toNat - 1075 := by
      rw [leastExponent]
      omega
    exact ⟨_, _, .finite ⟨by omega, least, .inr (by omega)⟩ _ _⟩

/-! ### Rounding to a double -/

section

variable {a b : Nat} {accuracy : Float.Model.UnpackedFloat.Accuracy}

/-- The rounded number: the mantissa nearest to a ratio, with the exponent for it. -/
theorem roundWithAccuracy_holds (h : Represents (.ofMantissaAndAccuracy m accuracy) a b)
    (pos : 0 < b) (le : e ≤ roundedExponent m e) (s : Sign) :
  Holds (UnpackedFloat.roundWithAccuracy .binary64 s m e accuracy) s
    (units (nearestRatio a (b * 2 ^ (roundedExponent m e - e).toNat)) (roundedExponent m e))
  := by
  have least : leastExponent ≤ roundedExponent m e := le_max_right _ _
  have most := h.nearestRatio_le (e := e)
  have full : roundedExponent m e = leastExponent ∨
      2 ^ 52 ≤ nearestRatio a (b * 2 ^ (roundedExponent m e - e).toNat) :=
    least.eq_or_lt.imp Eq.symm (h.le_nearestRatio le)
  rw [roundWithAccuracy_eq h pos le]
  dsimp only
  generalize roundedExponent m e = t at least most full ⊢
  generalize nearestRatio a (b * 2 ^ (t - e).toNat) = rounded at most full
  by_cases overflown : rounded = 2 ^ 53
  · have halved : units (2 ^ 52) (t + 1) = units rounded t := by
      have next : (t + 1 - leastExponent).toNat = (t - leastExponent).toNat + 1 := by omega
      rw [units, units, overflown, next, Nat.pow_succ' (n := (t - leastExponent).toNat),
        ← Nat.mul_assoc]
      rfl
    have canonical : Canonical (2 ^ 52) (t + 1) :=
      ⟨by decide, by omega, .inr (Nat.le_refl _)⟩
    simpa only [if_pos overflown, ← halved] using Holds.ofParts canonical s
  · have canonical : Canonical rounded t := ⟨by omega, least, full⟩
    simpa only [if_neg overflown] using Holds.ofParts canonical s

/-- The units midway between the greatest double and the next number, from which on numbers are
rounded to infinity. -/
def midway : Nat := (2 ^ 54 - 1) * 2 ^ (unitBits - 54)

/-- A ratio of at most 53 bits is below the middle if its exponent is not the greatest. -/
theorem units_lt_midway {t : Int} (pos : 0 < b) (bits : a / b < 2 ^ 53) (below : t < 971) :
  units a t < midway * b
  := by
  have few : a < (2 ^ 54 - 1) * b := by
    have := (Nat.div_lt_iff_lt_mul pos).mp bits
    omega
  have bounded : 2 ^ (t - leastExponent).toNat ≤ 2 ^ (unitBits - 54) :=
    Nat.pow_le_pow_right (by decide) (by rw [unitBits, leastExponent]; omega)
  rw [units, midway, Nat.mul_right_comm]
  calc
    a * 2 ^ (t - leastExponent).toNat ≤ a * 2 ^ (unitBits - 54) := Nat.mul_le_mul_left a bounded
    _ < (2 ^ 54 - 1) * b * 2 ^ (unitBits - 54) :=
      Nat.mul_lt_mul_of_pos_right few (Nat.two_pow_pos _)

/-- A ratio of 53 bits is not below the middle if its exponent is greater than the greatest. -/
theorem midway_le_units {t : Int} (pos : 0 < b) (large : 2 ^ 52 ≤ a / b) (above : 971 < t) :
  midway * b ≤ units a t
  := by
  have many : 2 ^ 52 * b ≤ a := (Nat.le_div_iff_mul_le pos).mp large
  have quadruple : (2 ^ 54 - 1) * b ≤ 2 ^ 52 * b * 2 ^ 2 := by omega
  have sum : 2 + (unitBits - 54) = unitBits - 52 := rfl
  have bounded : 2 ^ (unitBits - 52) ≤ 2 ^ (t - leastExponent).toNat :=
    Nat.pow_le_pow_right (by decide) (by rw [unitBits, leastExponent]; omega)
  rw [units, midway, Nat.mul_right_comm]
  calc
    (2 ^ 54 - 1) * b * 2 ^ (unitBits - 54) ≤ 2 ^ 52 * b * (2 ^ 2 * 2 ^ (unitBits - 54)) := by
      rw [← Nat.mul_assoc]
      exact Nat.mul_le_mul_right _ quadruple
    _ = 2 ^ 52 * b * 2 ^ (unitBits - 52) := by
      rw [← Nat.pow_add, sum]
    _ ≤ a * 2 ^ (t - leastExponent).toNat := Nat.mul_le_mul many bounded

/-- With the greatest exponent of doubles, the nearest mantissa is not too large just if the ratio
is below the middle. -/
theorem units_nearestRatio_greatest (pos : 0 < b) :
  units (nearestRatio a b) 971 < overflow ↔ units a 971 < midway * b
  := by
  have exponent : (971 - leastExponent).toNat = unitBits - 54 + 1 := rfl
  have whole : 2 ^ unitBits = 2 ^ 53 * (2 * 2 ^ (unitBits - 54)) := by
    rw [← Nat.pow_succ', ← Nat.pow_add]
    congr 1
  have reached := le_nearestRatio_iff (n := 2 ^ 53) (a := a) (by decide) pos
  rw [units, units, midway, overflow, Nat.mul_right_comm, exponent, Nat.pow_succ', whole,
    Nat.mul_lt_mul_right (by positivity), ← Nat.mul_assoc a,
    Nat.mul_lt_mul_right (Nat.two_pow_pos _)]
  omega

/-- The mantissa nearest to a ratio is that of a finite double just if the ratio is below the
middle. -/
theorem units_nearestRatio_lt_iff {t : Int} (pos : 0 < b) (bits : a / b < 2 ^ 53)
    (full : leastExponent < t → 2 ^ 52 ≤ a / b) :
  units (nearestRatio a b) t < overflow ↔ units a t < midway * b
  := by
  rcases lt_trichotomy t 971 with below | rfl | above
  · have most : nearestRatio a b < 2 ^ 54 :=
      ((nearestRatio_le a b).trans bits).trans_lt (by decide)
    refine iff_of_true (units_lt_overflow most ?_) (units_lt_midway pos bits below)
    rw [unitBits, leastExponent]
    omega
  · exact units_nearestRatio_greatest pos
  · have large : 2 ^ 52 ≤ a / b := full (by rw [leastExponent]; omega)
    exact iff_of_false
      (Nat.not_lt.mpr (overflow_le_units (large.trans (div_le_nearestRatio a b)) above))
      (Nat.not_lt.mpr (midway_le_units pos large above))

/-- A number is rounded to a finite double just if it is below the middle between the greatest
double and the next number. -/
theorem isFinite_round_iff (h : Represents (.ofMantissaAndAccuracy m accuracy) a b) (pos : 0 < b)
    (le : e ≤ roundedExponent m e) (least : leastExponent ≤ e) (s : Sign) :
  (unpack .binary64 (pack .binary64
      (UnpackedFloat.roundWithAccuracy .binary64 s m e accuracy))).isFinite = true
    ↔ units a e < midway * b
  := by
  have quotient : a / (b * 2 ^ (roundedExponent m e - e).toNat)
      = m / 2 ^ (roundedExponent m e - e).toNat := by
    rw [← Nat.div_div_eq_div_mul, h.div_eq]
  have scaled : units a (roundedExponent m e)
      = units a e * 2 ^ (roundedExponent m e - e).toNat := by
    have sum : (roundedExponent m e - leastExponent).toNat
        = (e - leastExponent).toNat + (roundedExponent m e - e).toNat := by omega
    rw [units, units, sum, Nat.pow_add, Nat.mul_assoc]
  rw [(roundWithAccuracy_holds h pos le s).isFinite_iff,
    units_nearestRatio_lt_iff (Nat.mul_pos pos (Nat.two_pow_pos _))
      (quotient ▸ div_lt_of_roundedExponent m e)
      (fun above => quotient ▸ le_div_of_roundedExponent le above),
    scaled, ← Nat.mul_assoc, Nat.mul_lt_mul_right (Nat.two_pow_pos _)]

end

end Instrumentation.Binary64
