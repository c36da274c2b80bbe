import Mathlib
import ScriptBridge.Numeral.Decimal

/-!
# Doubles nearest to integers

A double has 53 binary digits, so an integer with more of them is rounded when it becomes a double,
of two equally near ones to the even one. `nearestDouble` is the integer the double stands for. The
conversions of words into doubles and back, and the comparison of the doubles, are those of
`nearestDouble`.
-/

namespace ScriptBridge.Numeral

open Float.Model Float.Model.UnpackedFloat

/-! ## The nearest double -/

/-- How far apart the doubles at a number are, which have 53 binary digits. -/
def doubleSpacing (size : Nat) : Nat :=
  2 ^ (size.log2 - 52)

/-- A number rounded to a multiple of the spacing, of two equally near ones to the even multiple. -/
def roundTo (spacing size : Nat) : Nat :=
  let below := size / spacing
  let rest := size % spacing
  if 2 * rest < spacing then below
  else if 2 * rest = spacing then below + below % 2
  else below + 1

def nearestSize (size : Nat) : Nat :=
  roundTo (doubleSpacing size) size * doubleSpacing size

/-- The integer that the double nearest to an integer stands for. -/
def nearestDouble (value : Int) : Int :=
  if value < 0 then -nearestSize value.natAbs else nearestSize value.natAbs

/-- An integer that is a double itself: its binary form has 53 digits and only zeros behind them. -/
def IsDouble (value : Int) : Prop :=
  ∃ significand exponent : Nat, significand < 2 ^ 53 ∧ value.natAbs = significand * 2 ^ exponent

theorem roundTo_one (size : Nat) : roundTo 1 size = size := by
  simp [roundTo, Nat.mod_one]

/-- A number of 53 or more digits has 53 of them in front of the spacing. -/
theorem spacing_bounds
    {size : Nat}
    (large : 52 ≤ size.log2) :
    2 ^ 52 * doubleSpacing size ≤ size ∧ size < 2 ^ 53 * doubleSpacing size := by
  have digits : 2 ^ 52 * doubleSpacing size = 2 ^ size.log2 := by
    rw [doubleSpacing, ← pow_add, Nat.add_sub_cancel' large]
  have nonzero : size ≠ 0 := by
    intro zero
    simp [zero] at large
  have lower : 2 ^ size.log2 ≤ size := Nat.log2_self_le nonzero
  have upper : size < 2 ^ (size.log2 + 1) := Nat.lt_log2_self
  rw [pow_succ] at upper
  omega

/-- Rounding a number of 53 or more digits keeps 53 of them, or carries over into one more. -/
theorem roundTo_bounds
    {size : Nat}
    (large : 52 ≤ size.log2) :
    2 ^ 52 ≤ roundTo (doubleSpacing size) size ∧ roundTo (doubleSpacing size) size ≤ 2 ^ 53 := by
  have spaced : 0 < doubleSpacing size := Nat.two_pow_pos _
  have bounds := spacing_bounds large
  have lower : 2 ^ 52 ≤ size / doubleSpacing size := (Nat.le_div_iff_mul_le spaced).mpr bounds.1
  have upper : size / doubleSpacing size < 2 ^ 53 := (Nat.div_lt_iff_lt_mul spaced).mpr bounds.2
  unfold roundTo
  simp only
  split
  · omega
  · split <;> omega

theorem nearestSize_eq_self
    {size : Nat}
    (small : size.log2 ≤ 52) :
    nearestSize size = size := by
  simp [nearestSize, doubleSpacing, Nat.sub_eq_zero_of_le small, roundTo_one]

/-- How far apart two numbers are. -/
def gap (size size' : Nat) : Nat :=
  ((size : Int) - size').natAbs

/-- No multiple of the spacing is nearer than the one that is rounded to. -/
theorem gap_roundTo_le
    {spacing : Nat}
    (positive : 0 < spacing)
    (size multiple : Nat) :
    gap size (roundTo spacing size * spacing) ≤ gap size (multiple * spacing) := by
  have parts := Nat.div_add_mod' size spacing
  have rest := Nat.mod_lt size positive
  have side : multiple * spacing ≤ size / spacing * spacing ∨
      size / spacing * spacing + spacing ≤ multiple * spacing := by
    rcases Nat.lt_or_ge (size / spacing) multiple with above | below
    · right
      rw [← Nat.succ_mul]
      exact Nat.mul_le_mul_right spacing above
    · left
      exact Nat.mul_le_mul_right spacing below
  have rounded :
      roundTo spacing size * spacing = size / spacing * spacing ∧
          2 * (size % spacing) ≤ spacing ∨
        roundTo spacing size * spacing = size / spacing * spacing + spacing ∧
          spacing ≤ 2 * (size % spacing) := by
    unfold roundTo
    simp only
    split
    · exact .inl ⟨rfl, by omega⟩
    · split
      · rcases Nat.mod_two_eq_zero_or_one (size / spacing) with even | odd
        · rw [even]
          exact .inl ⟨rfl, by omega⟩
        · rw [odd, Nat.succ_mul]
          exact .inr ⟨rfl, by omega⟩
      · rw [Nat.succ_mul]
        exact .inr ⟨rfl, by omega⟩
  unfold gap
  omega

/-- No double is nearer than the nearest one. -/
theorem gap_nearestSize_le
    (size : Nat)
    {significand : Nat}
    (digits : significand < 2 ^ 53)
    (exponent : Nat) :
    gap size (nearestSize size) ≤ gap size (significand * 2 ^ exponent) := by
  rcases Nat.le_total size.log2 52 with small | large
  · rw [nearestSize_eq_self small]
    simp [gap]
  · have spaced : 0 < doubleSpacing size := Nat.two_pow_pos _
    have nearest := gap_roundTo_le spaced size
    rcases Nat.lt_or_ge exponent (size.log2 - 52) with fine | coarse
    · -- All doubles with less spacing are below the power of two that is not above the number.
      have power := (spacing_bounds large).1
      have below : significand * 2 ^ exponent ≤ 2 ^ 52 * doubleSpacing size :=
        calc significand * 2 ^ exponent ≤ 2 ^ 53 * 2 ^ exponent :=
              Nat.mul_le_mul_right _ digits.le
          _ = 2 ^ 52 * 2 ^ (exponent + 1) := by ring
          _ ≤ 2 ^ 52 * doubleSpacing size :=
              Nat.mul_le_mul_left _ (Nat.pow_le_pow_right (by decide) fine)
      have farther :
          gap size (2 ^ 52 * doubleSpacing size) ≤ gap size (significand * 2 ^ exponent) := by
        unfold gap
        omega
      exact (nearest (2 ^ 52)).trans farther
    · have multiple : significand * 2 ^ exponent =
          significand * 2 ^ (exponent - (size.log2 - 52)) * doubleSpacing size := by
        rw [doubleSpacing, Nat.mul_assoc, ← pow_add, Nat.sub_add_cancel coarse]
      rw [multiple]
      exact nearest _

theorem isDouble_nearestDouble (value : Int) : IsDouble (nearestDouble value) := by
  have size : (nearestDouble value).natAbs = nearestSize value.natAbs := by
    unfold nearestDouble
    split <;> simp
  rcases Nat.lt_or_ge value.natAbs.log2 52 with small | large
  · have digits : value.natAbs < 2 ^ 53 :=
      calc value.natAbs < 2 ^ (value.natAbs.log2 + 1) := Nat.lt_log2_self
        _ ≤ 2 ^ 53 := Nat.pow_le_pow_right (by decide) (by omega)
    refine ⟨value.natAbs, 0, digits, ?_⟩
    rw [size, nearestSize_eq_self small.le]
    simp
  · have bounds := (roundTo_bounds large).2
    by_cases carries : roundTo (doubleSpacing value.natAbs) value.natAbs = 2 ^ 53
    · refine ⟨1, 53 + (value.natAbs.log2 - 52), by decide, ?_⟩
      rw [size, nearestSize, carries, Nat.one_mul, pow_add, doubleSpacing]
    · exact ⟨roundTo (doubleSpacing value.natAbs) value.natAbs, value.natAbs.log2 - 52,
        Nat.lt_of_le_of_ne bounds carries, size⟩

theorem nearestDouble_nearest
    (value : Int)
    {double : Int}
    (isDouble : IsDouble double) :
    (value - nearestDouble value).natAbs ≤ (value - double).natAbs := by
  obtain ⟨significand, exponent, digits, size⟩ := isDouble
  have nearest := gap_nearestSize_le value.natAbs digits exponent
  have below := gap_nearestSize_le value.natAbs (by decide : 0 < 2 ^ 53) 0
  rw [← size] at nearest
  unfold gap at nearest below
  unfold nearestDouble
  split <;> omega

theorem nearestDouble_mono {left right : Int} (le : left ≤ right) :
    nearestDouble left ≤ nearestDouble right := by
  have nearestLeft := nearestDouble_nearest left (isDouble_nearestDouble right)
  have nearestRight := nearestDouble_nearest right (isDouble_nearestDouble left)
  rcases Int.lt_or_eq_of_le le with less | rfl
  · omega
  · rfl

theorem nearestDouble_eq_self_iff {value : Int} : nearestDouble value = value ↔ IsDouble value := by
  constructor
  · intro same
    rw [← same]
    exact isDouble_nearestDouble value
  · intro isDouble
    have nearest := nearestDouble_nearest value isDouble
    omega

/-! ## Shifting out digits -/

/-- An exact number with binary digits shifted out. -/
def shiftedOut (size shift : Nat) : ExtendedMantissa :=
  (⟨size, false, false⟩ : ExtendedMantissa) >>> shift

theorem shiftedOut_succ (size shift : Nat) :
    shiftedOut size (shift + 1) = (shiftedOut size shift).shiftRightOne := rfl

theorem mantissa_shiftedOut (size shift : Nat) :
    (shiftedOut size shift).mantissa = size / 2 ^ shift := by
  induction shift with
  | zero => simp [shiftedOut, HShiftRight.hShiftRight, Nat.repeat]
  | succ shift inductionHypothesis =>
      rw [shiftedOut_succ, ExtendedMantissa.shiftRightOne, inductionHypothesis,
        Nat.div_div_eq_div_mul, pow_succ]

/-- The first residual digit tells whether the rest is at least half of the divisor. -/
theorem roundBit_shiftedOut (size shift : Nat) :
    (shiftedOut size shift).roundBit = true ↔ 2 ^ shift ≤ 2 * (size % 2 ^ shift) := by
  cases shift with
  | zero => simp [shiftedOut, HShiftRight.hShiftRight, Nat.repeat, Nat.mod_one]
  | succ shift =>
      have small : size % 2 ^ shift < 2 ^ shift := Nat.mod_lt size (Nat.two_pow_pos shift)
      rw [shiftedOut_succ, ExtendedMantissa.shiftRightOne, mantissa_shiftedOut, bne_iff_ne,
        Nat.mod_pow_succ, pow_succ]
      rcases Nat.mod_two_eq_zero_or_one (size / 2 ^ shift) with zero | one
      · rw [zero]
        omega
      · rw [one]
        omega

/-- The second one tells whether it is neither zero nor exactly half of it. -/
theorem stickyBit_shiftedOut (size shift : Nat) :
    (shiftedOut size shift).stickyBit = true ↔
      size % 2 ^ shift ≠ 0 ∧ 2 * (size % 2 ^ shift) ≠ 2 ^ shift := by
  induction shift with
  | zero => simp [shiftedOut, HShiftRight.hShiftRight, Nat.repeat, Nat.mod_one]
  | succ shift inductionHypothesis =>
      have small : size % 2 ^ shift < 2 ^ shift := Nat.mod_lt size (Nat.two_pow_pos shift)
      rw [shiftedOut_succ, ExtendedMantissa.shiftRightOne, Bool.or_eq_true, roundBit_shiftedOut,
        inductionHypothesis, Nat.mod_pow_succ, pow_succ]
      rcases Nat.mod_two_eq_zero_or_one (size / 2 ^ shift) with zero | one
      · rw [zero]
        omega
      · rw [one]
        omega

/-- Rounding to the nearest keeps a multiple of the spacing. -/
theorem roundedMantissa_shiftedOut (size shift : Nat) :
    (shiftedOut size shift).roundedMantissa = roundTo (2 ^ shift) size := by
  have roundBit := roundBit_shiftedOut size shift
  have stickyBit := stickyBit_shiftedOut size shift
  have mantissa := mantissa_shiftedOut size shift
  generalize shiftedOut size shift = shifted at *
  obtain ⟨below, half, more⟩ := shifted
  simp only at roundBit stickyBit mantissa
  subst mantissa
  have positive : 0 < 2 ^ shift := Nat.two_pow_pos shift
  unfold ExtendedMantissa.roundedMantissa roundTo
  cases half <;> cases more <;>
    simp only [ExtendedMantissa.accuracy, Accuracy.roundToNearestEven, Bool.false_eq_true, true_iff,
      false_iff] at *
  · rw [if_pos (by omega)]
  · rw [if_pos (by omega)]
  · rw [if_neg (by omega), if_pos (by omega)]
  · rw [if_neg (by omega), if_neg (by omega)]

/-! ## Rounding to 53 binary digits -/

theorem minExponent_binary64 : Format.binary64.minExponent = -1074 := by decide

theorem mantissaBits_binary64 : Format.binary64.mantissaBits = 53 := by decide

/-- Numbers of this size are not too small for the format. -/
theorem shiftToTargetExponent_eq
    {size : Nat}
    {exponent : Int}
    (large : -1074 ≤ size.log2 - 52 + exponent) :
    shiftToTargetExponent .binary64 size exponent .exact =
      (shiftedOut size (size.log2 - 52), exponent + (size.log2 - 52 : Nat)) := by
  have target : Format.binary64.targetExponent (totalExponent size exponent) =
      size.log2 - 52 + exponent := by
    simp only [Format.targetExponent, totalExponent, minExponent_binary64, mantissaBits_binary64]
    omega
  have shift : (Format.binary64.targetExponent (totalExponent size exponent) - exponent).toNat =
      size.log2 - 52 := by omega
  rw [shiftToTargetExponent, shiftToExponent, shift]
  rfl

/-- What the double of a positive integer consists of: 53 binary digits and an exponent. -/
structure IsDoubleOf (mantissa : Nat) (exponent : Int) (size : Nat) : Prop where
  lower : 2 ^ 52 ≤ mantissa
  upper : mantissa < 2 ^ 53
  least : -52 ≤ exponent
  greatest : exponent ≤ 12
  value : mantissa * 2 ^ (exponent + 52).toNat = size * 2 ^ 52

/-- Rounding a number of 53 or more digits gives 53 of them and an exponent. -/
theorem roundWithAccuracy_eq
    (sign : Sign)
    (size : Nat)
    (exponent : Int)
    (large : 52 ≤ size.log2)
    (least : -52 ≤ exponent) :
    ∃ (mantissa : Nat) (raised : Nat) (positive : 0 < mantissa),
      roundWithAccuracy .binary64 sign size exponent .exact =
          .finite sign mantissa (exponent + raised) positive ∧
        2 ^ 52 ≤ mantissa ∧ mantissa < 2 ^ 53 ∧ raised ≤ size.log2 - 52 + 1 ∧
        mantissa * 2 ^ raised =
          roundTo (2 ^ (size.log2 - 52)) size * 2 ^ (size.log2 - 52) := by
  obtain ⟨lower, upper⟩ := roundTo_bounds large
  rw [doubleSpacing] at lower upper
  have first : shiftToTargetExponent .binary64 size exponent .exact =
      (shiftedOut size (size.log2 - 52), exponent + (size.log2 - 52 : Nat)) :=
    shiftToTargetExponent_eq (by omega)
  have rounded := roundedMantissa_shiftedOut size (size.log2 - 52)
  generalize size.log2 - 52 = shift at *
  generalize roundTo (2 ^ shift) size = kept at *
  -- The second shift drops the zero at the end of what has been carried over into one more digit.
  by_cases carries : kept = 2 ^ 53
  · have digits : kept.log2 = 53 := by rw [carries, Nat.log2_two_pow]
    have second : shiftToTargetExponent .binary64 kept (exponent + shift) .exact =
        (shiftedOut kept 1, exponent + shift + 1) := by
      rw [shiftToTargetExponent_eq (by omega), digits]
      rfl
    have last : (shiftedOut kept 1).mantissa = 2 ^ 52 := by
      rw [mantissa_shiftedOut, carries]
      rfl
    refine ⟨2 ^ 52, shift + 1, by decide, ?_, le_refl _, by decide, le_refl _, ?_⟩
    · simp only [roundWithAccuracy, first, rounded, second, last]
      simp
      omega
    · rw [carries]
      ring
  · have digits : kept.log2 = 52 := (Nat.log2_eq_iff (by omega)).mpr ⟨lower, by omega⟩
    have second : shiftToTargetExponent .binary64 kept (exponent + shift) .exact =
        (shiftedOut kept 0, exponent + shift) := by
      rw [shiftToTargetExponent_eq (by omega), digits]
      simp
    have last : (shiftedOut kept 0).mantissa = kept := by
      rw [mantissa_shiftedOut]
      simp
    refine ⟨kept, shift, by omega, ?_, lower, by omega, by omega, rfl⟩
    · have nonzero : kept ≠ 0 := by omega
      simp only [roundWithAccuracy, first, rounded, second, last]
      simp [nonzero]

theorem log2_mul_two_pow
    {size : Nat}
    (positive : 0 < size)
    (shift : Nat) :
    (size * 2 ^ shift).log2 = size.log2 + shift := by
  induction shift with
  | zero => simp
  | succ shift inductionHypothesis =>
      have nonzero : size * 2 ^ shift ≠ 0 := Nat.mul_ne_zero positive.ne' (by simp)
      rw [pow_succ, ← Nat.mul_assoc, Nat.mul_comm _ 2, Nat.log2_two_mul nonzero,
        inductionHypothesis]
      omega

/-- A positive integer is rounded to the double nearest to it. -/
theorem round_eq
    (sign : Sign)
    (size : Nat)
    (positive : 0 < size)
    (bounded : size < 2 ^ 64) :
    ∃ (mantissa : Nat) (exponent : Int) (nonzero : 0 < mantissa),
      UnpackedFloat.round .binary64 sign size 0 = .finite sign mantissa exponent nonzero ∧
        IsDoubleOf mantissa exponent (nearestSize size) := by
  have target : Format.binary64.targetExponent (totalExponent size 0) = size.log2 - 52 := by
    simp only [Format.targetExponent, totalExponent, minExponent_binary64, mantissaBits_binary64]
    omega
  have decreased : decreaseExponent size 0 (size.log2 - 52) =
      (size * 2 ^ (52 - size.log2), -((52 - size.log2 : Nat) : Int)) := by
    have shift : (0 - ((size.log2 : Int) - 52)).toNat = 52 - size.log2 := by omega
    rw [decreaseExponent, shift, Nat.shiftLeft_eq, Int.zero_sub]
  have scaled := log2_mul_two_pow positive (52 - size.log2)
  have digits : size.log2 < 64 := (Nat.log2_lt positive.ne').mpr bounded
  obtain ⟨mantissa, raised, nonzero, rounded, lower, upper, raised_le, value⟩ :=
    roundWithAccuracy_eq sign (size * 2 ^ (52 - size.log2)) (-((52 - size.log2 : Nat) : Int))
      (by omega) (by omega)
  refine ⟨mantissa, -(52 - size.log2 : Nat) + raised, nonzero, ?_, lower, upper, ?_, ?_, ?_⟩
  · simp only [UnpackedFloat.round, target, decreased, rounded]
  · omega
  · omega
  · rw [scaled] at value
    rcases Nat.le_total size.log2 52 with few | many
    · have exponents : (-((52 - size.log2 : Nat) : Int) + raised + 52).toNat =
          raised + size.log2 := by omega
      rw [exponents, pow_add, ← Nat.mul_assoc, value, nearestSize_eq_self few,
        Nat.add_sub_cancel' few]
      simp [roundTo_one, Nat.mul_assoc, ← pow_add, Nat.sub_add_cancel few]
    · have exponents : (-((52 - size.log2 : Nat) : Int) + raised + 52).toNat = raised + 52 := by
        omega
      rw [Nat.sub_eq_zero_of_le many] at value
      rw [exponents, pow_add, ← Nat.mul_assoc, value]
      simp [nearestSize, doubleSpacing]

/-! ## Doubles as bits -/

/-- An unpacked number that is the double of an integer. -/
inductive Represents : UnpackedFloat → Int → Prop
  | zero : Represents (.zero .positive) 0
  | finite
      (sign : Sign)
      {mantissa size : Nat}
      {exponent : Int}
      (nonzero : 0 < mantissa)
      (double : IsDoubleOf mantissa exponent size) :
      Represents (.finite sign mantissa exponent nonzero) (sign.apply size)

theorem represents_ofInt
    {value : Int}
    (bounded : value.natAbs < 2 ^ 64) :
    Represents (.ofInt .binary64 value) (nearestDouble value) := by
  rcases Int.lt_trichotomy value 0 with negative | rfl | positive
  · obtain ⟨mantissa, exponent, nonzero, rounded, double⟩ :=
      round_eq .negative value.natAbs (by omega) bounded
    have order : compare value 0 = .lt := Int.compare_eq_lt.mpr negative
    have size : (-value).toNat = value.natAbs := by omega
    simp only [UnpackedFloat.ofInt, UnpackedFloat.normalize, order, size, rounded, nearestDouble, negative,
      if_true]
    exact .finite .negative nonzero double
  · exact .zero
  · obtain ⟨mantissa, exponent, nonzero, rounded, double⟩ :=
      round_eq .positive value.natAbs (by omega) bounded
    have order : compare value 0 = .gt := Int.compare_eq_gt.mpr positive
    have size : value.toNat = value.natAbs := by omega
    simp only [UnpackedFloat.ofInt, UnpackedFloat.normalize, order, size, rounded, nearestDouble,
      not_lt_of_gt positive, if_false]
    exact .finite .positive nonzero double

theorem exponentBias_binary64 : Format.binary64.exponentBias = 1023 := by decide

/-- The bits of the double of an integer tell all of it. -/
theorem Represents.unpack_pack
    {unpacked : UnpackedFloat}
    {value : Int}
    (represents : Represents unpacked value) :
    unpack .binary64 (pack .binary64 unpacked) = unpacked := by
  cases represents with
  | zero => rfl
  | @finite sign mantissa size exponent nonzero double =>
      have digits : mantissa.log2 = 52 :=
        (Nat.log2_eq_iff (by omega)).mpr ⟨double.lower, double.upper⟩
      have lower := double.lower
      have upper := double.upper
      have least := double.least
      have greatest := double.greatest
      obtain ⟨biased, exponent_eq⟩ : ∃ biased : Nat, exponent + 1075 = biased :=
        ⟨(exponent + 1075).toNat, by omega⟩
      have biased_eq : (exponent + 1023 + 52).toNat = biased := by omega
      have normal : pack .binary64 (.finite sign mantissa exponent nonzero) =
          packComponents .binary64 sign (BitVec.ofNat _ biased) (BitVec.ofNat _ mantissa) := by
        simp [UnpackedFloat.pack, exponentBias_binary64, mantissaBits_binary64, digits, biased_eq]
        omega
      have notLast : BitVec.ofNat 11 biased ≠ 2047#11 := by
        simp [← BitVec.toNat_inj]
        omega
      have notFirst : BitVec.ofNat 11 biased ≠ 0#11 := by
        simp [← BitVec.toNat_inj]
        omega
      have stored : (1#1 ++ BitVec.ofNat 52 mantissa).toNat = mantissa := by
        rw [BitVec.toNat_append, BitVec.toNat_ofNat, BitVec.toNat_ofNat,
          ← Nat.shiftLeft_add_eq_or_of_lt (Nat.mod_lt _ (by simp)), Nat.shiftLeft_eq]
        omega
      have restored : (biased % 2048 : Int) - 1075 = exponent := by omega
      simp [normal, UnpackedFloat.unpack, exponentBias_binary64, notLast, notFirst, stored,
        restored]

/-- The digits behind the point of the double of an integer are zero. -/
theorem IsDoubleOf.whole
    {mantissa size : Nat}
    {exponent : Int}
    (double : IsDoubleOf mantissa exponent size) :
    mantissa * 2 ^ exponent.toNat = size * 2 ^ (-exponent).toNat := by
  have least := double.least
  have value := double.value
  rcases Int.le_total 0 exponent with whole | fractional
  · have digits : (exponent + 52).toNat = exponent.toNat + 52 := by omega
    have none : (-exponent).toNat = 0 := by omega
    rw [digits, pow_add, ← Nat.mul_assoc] at value
    rw [none, Nat.eq_of_mul_eq_mul_right (by simp) value]
    simp
  · have digits : 52 = (-exponent).toNat + (exponent + 52).toNat := by omega
    have none : exponent.toNat = 0 := by omega
    rw [none, pow_zero, Nat.mul_one]
    refine Nat.eq_of_mul_eq_mul_right (Nat.two_pow_pos (exponent + 52).toNat) ?_
    rw [value, Nat.mul_assoc, ← pow_add, ← digits]

theorem Represents.toInt_eq
    {unpacked : UnpackedFloat}
    {value : Int}
    (represents : Represents unpacked value)
    (least greatest : Int) :
    unpacked.toInt least greatest = value := by
  cases represents with
  | zero => simp [UnpackedFloat.toInt]
  | @finite sign mantissa size exponent nonzero double =>
      have shifted : (0 - (exponent - exponent.toNat)).toNat = (-exponent).toNat := by omega
      have kept : (shiftedOut (mantissa <<< exponent.toNat) (-exponent).toNat).mantissa = size := by
        rw [mantissa_shiftedOut, Nat.shiftLeft_eq, double.whole, Nat.mul_div_cancel _ (by simp)]
      simp only [UnpackedFloat.toInt, roundToInt, decreaseExponent, shiftToExponent,
        Int.sub_zero, shifted]
      exact congrArg (fun size : Nat => sign.apply size) kept

/-- All doubles with a greater exponent are greater. -/
theorem IsDoubleOf.size_lt
    {mantissa size mantissa' size' : Nat}
    {exponent exponent' : Int}
    (double : IsDoubleOf mantissa exponent size)
    (double' : IsDoubleOf mantissa' exponent' size')
    (less : exponent < exponent') :
    size < size' := by
  have least := double.least
  have step : (exponent + 52).toNat + 1 ≤ (exponent' + 52).toNat := by omega
  have scaled : size * 2 ^ 52 < size' * 2 ^ 52 :=
    calc size * 2 ^ 52 = mantissa * 2 ^ (exponent + 52).toNat := double.value.symm
      _ < 2 ^ 53 * 2 ^ (exponent + 52).toNat :=
          Nat.mul_lt_mul_of_pos_right double.upper (Nat.two_pow_pos _)
      _ = 2 ^ 52 * 2 ^ ((exponent + 52).toNat + 1) := by ring
      _ ≤ 2 ^ 52 * 2 ^ (exponent' + 52).toNat :=
          Nat.mul_le_mul_left _ (Nat.pow_le_pow_right (by decide) step)
      _ ≤ mantissa' * 2 ^ (exponent' + 52).toNat := Nat.mul_le_mul_right _ double'.lower
      _ = size' * 2 ^ 52 := double'.value
  omega

theorem IsDoubleOf.positive
    {mantissa size : Nat}
    {exponent : Int}
    (double : IsDoubleOf mantissa exponent size) :
    0 < size := by
  have lower := double.lower
  have scaled : 0 < size * 2 ^ 52 := by
    rw [← double.value]
    exact Nat.mul_pos (by omega) (Nat.two_pow_pos _)
  omega

theorem compare_mul_right
    (left right : Nat)
    {factor : Nat}
    (positive : 0 < factor) :
    compare (left * factor) (right * factor) = compare left right := by
  simp only [Nat.compare_eq_ite_lt, Nat.mul_lt_mul_right positive]

/-- Doubles are compared by their exponents first, and then by their digits. -/
theorem IsDoubleOf.compare_eq
    {mantissa size mantissa' size' : Nat}
    {exponent exponent' : Int}
    (double : IsDoubleOf mantissa exponent size)
    (double' : IsDoubleOf mantissa' exponent' size') :
    (compare exponent exponent').then (compare mantissa mantissa') = compare size size' := by
  rcases Int.lt_trichotomy exponent exponent' with less | rfl | greater
  · have order : compare exponent exponent' = .lt := Int.compare_eq_lt.mpr less
    rw [order, Nat.compare_eq_lt.mpr (double.size_lt double' less)]
    rfl
  · have order : compare mantissa mantissa' = compare size size' := by
      rw [← compare_mul_right mantissa mantissa' (Nat.two_pow_pos (exponent + 52).toNat),
        double.value, double'.value, compare_mul_right size size' (Nat.two_pow_pos 52)]
    simp [order]
  · have order : compare exponent exponent' = .gt := Int.compare_eq_gt.mpr greater
    rw [order, Nat.compare_eq_gt.mpr (double'.size_lt double greater)]
    rfl

theorem compare_natCast (left right : Nat) :
    compare (left : Int) (right : Int) = compare left right := by
  simp only [Nat.compare_eq_ite_lt, Int.compare_eq_ite_lt, Int.ofNat_lt]

theorem compare_neg_natCast (left right : Nat) :
    compare (-left : Int) (-right : Int) = (compare left right).swap := by
  rw [Nat.compare_swap]
  simp [Nat.compare_eq_ite_lt, Int.compare_eq_ite_lt]

/-- Doubles of integers are compared as these. -/
theorem Represents.compare_eq
    {unpacked unpacked' : UnpackedFloat}
    {value value' : Int}
    (represents : Represents unpacked value)
    (represents' : Represents unpacked' value') :
    unpacked.compare unpacked' = some (compare value value') := by
  cases represents with
  | zero =>
      cases represents' with
      | zero => rfl
      | @finite sign _ size _ nonzero double =>
          have positive := double.positive
          cases sign
          · have order : compare (0 : Int) (-size) = .gt := Int.compare_eq_gt.mpr (by omega)
            simp [UnpackedFloat.compare, Sign.apply, order]
          · have order : compare (0 : Int) size = .lt := Int.compare_eq_lt.mpr (by omega)
            simp [UnpackedFloat.compare, Sign.apply, order]
  | @finite sign _ size _ nonzero double =>
      have positive := double.positive
      cases represents' with
      | zero =>
          cases sign
          · have order : compare (-size : Int) 0 = .lt := Int.compare_eq_lt.mpr (by omega)
            simp [UnpackedFloat.compare, Sign.apply, order]
          · have order : compare (size : Int) 0 = .gt := Int.compare_eq_gt.mpr (by omega)
            simp [UnpackedFloat.compare, Sign.apply, order]
      | @finite sign' _ size' _ nonzero' double' =>
          have positive' := double'.positive
          have digits := double.compare_eq double'
          cases sign <;> cases sign'
          · simp [UnpackedFloat.compare, Sign.apply, digits, compare_neg_natCast]
          · have order : compare (-size : Int) size' = .lt := Int.compare_eq_lt.mpr (by omega)
            simp [UnpackedFloat.compare, Sign.apply, order]
          · have order : compare (size : Int) (-size') = .gt := Int.compare_eq_gt.mpr (by omega)
            simp [UnpackedFloat.compare, Sign.apply, order]
          · simp [UnpackedFloat.compare, Sign.apply, digits, compare_natCast]

/-! ## Words as doubles -/

theorem represents_toModel (value : Int64) :
    Represents (floatOfWord value).toModel.unpack (nearestDouble value.toInt) := by
  have lower := value.le_toInt
  have upper := value.toInt_lt
  have represents : Represents (.ofInt .binary64 value.toInt) (nearestDouble value.toInt) :=
    represents_ofInt (by omega)
  have bits : (floatOfWord value).toModel.unpack = .ofInt .binary64 value.toInt :=
    represents.unpack_pack
  rw [bits]
  exact represents

/-- Back from the nearest double. -/
theorem wordOfFloat_floatOfWord (value : Int64) :
    wordOfFloat (floatOfWord value) = Int64.ofIntClamp (nearestDouble value.toInt) := by
  have represents := represents_toModel value
  exact congrArg Int64.ofIntClamp (represents.toInt_eq _ _)

/-- Words are compared as the nearest doubles. -/
theorem floatOfWord_le_iff (left right : Int64) :
    floatOfWord left ≤ floatOfWord right ↔
      nearestDouble left.toInt ≤ nearestDouble right.toInt := by
  have order := (represents_toModel left).compare_eq (represents_toModel right)
  have unfolded : floatOfWord left ≤ floatOfWord right ↔
      (floatOfWord left).toModel.unpack.le (floatOfWord right).toModel.unpack = true :=
    decide_eq_true_iff
  rw [unfolded, UnpackedFloat.le, order]
  simp [Int.isLE_compare]

theorem nearestDouble_of_word (value : Int64) :
    -2 ^ 63 ≤ nearestDouble value.toInt ∧ nearestDouble value.toInt ≤ 2 ^ 63 := by
  have least : nearestDouble (-2 ^ 63) = -2 ^ 63 :=
    nearestDouble_eq_self_iff.mpr ⟨1, 63, by decide, by decide⟩
  have greatest : nearestDouble (2 ^ 63) = 2 ^ 63 :=
    nearestDouble_eq_self_iff.mpr ⟨1, 63, by decide, by decide⟩
  rw [← least]
  nth_rewrite 2 [← greatest]
  exact ⟨nearestDouble_mono value.le_toInt, nearestDouble_mono value.toInt_lt.le⟩

/-- Through a double a word becomes the nearest one, or the greatest word if that is too large. -/
theorem toInt_wordOfFloat_floatOfWord (value : Int64) :
    (wordOfFloat (floatOfWord value)).toInt = min (nearestDouble value.toInt) (2 ^ 63 - 1) := by
  have bounds := nearestDouble_of_word value
  rw [wordOfFloat_floatOfWord]
  by_cases beyond : nearestDouble value.toInt = 2 ^ 63
  · rw [beyond]
    decide
  · rw [Int64.toInt_ofIntClamp]
    · omega
    · rw [Int64.toInt_minValue]
      omega
    · rw [Int64.toInt_maxValue]
      omega

theorem wordOfFloat_floatOfWord_eq_self_iff (value : Int64) :
    wordOfFloat (floatOfWord value) = value ↔
      IsDouble value.toInt ∨ value = Int64.maxValue := by
  have bounds := nearestDouble_of_word value
  have upper := value.toInt_lt
  have last : nearestDouble (2 ^ 63 - 1) = 2 ^ 63 := by decide
  rw [← nearestDouble_eq_self_iff, ← Int64.toInt_inj, ← Int64.toInt_inj,
    toInt_wordOfFloat_floatOfWord, Int64.toInt_maxValue]
  constructor
  · intro same
    omega
  · rintro (same | same)
    · omega
    · rw [same, last]
      decide

end ScriptBridge.Numeral
