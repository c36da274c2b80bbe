import Mathlib.Data.Int.Basic
import ScriptBridge.Proofs.Arithmetic.Operands

/-!
# Formulas over integers

Integers are divided toward zero, and the quotient and the remainder are corrected where the
remainder has the wrong sign. What comes out is division rounded down, with all steps inside of 64
bits. A formula of integers, variables that have integers, and the operators of arithmetic computes
the integer that its operators give, each wrapped around at 64 bits, unless it divides by zero.
-/

namespace ScriptBridge.Arithmetic

namespace Value

/-! ## Division rounded down -/

theorem toInt_eq_zero_iff (value : Int64) : value.toInt = 0 ↔ value = 0 :=
  Int64.toInt_inj (y := 0)

theorem lt_zero_iff (value : Int64) : value < 0 ↔ value.toInt < 0 :=
  Int64.lt_iff_toInt_lt

/-- One quotient does not fit: that of the least integer and minus one. -/
theorem toInt_div_of_fits
    {dividend divisor : Int64}
    (fits : ¬(dividend = Int64.minValue ∧ divisor = -1)) :
    (dividend / divisor).toInt = dividend.toInt.tdiv divisor.toInt := by
  by_cases least : dividend = Int64.minValue
  · exact Int64.toInt_div_of_ne_right dividend divisor fun isMinusOne => fits ⟨least, isMinusOne⟩
  · exact Int64.toInt_div_of_ne_left dividend divisor least

/-- The remainder toward zero is smaller than the divisor and has the sign of the dividend. -/
theorem tmod_bounds (dividend : Int) {divisor : Int} (nonzero : divisor ≠ 0) :
    (dividend.tmod divisor).natAbs < divisor.natAbs ∧
      (0 ≤ dividend → 0 ≤ dividend.tmod divisor) ∧ (dividend ≤ 0 → dividend.tmod divisor ≤ 0) := by
  refine ⟨?_, Int.tmod_nonneg divisor, ?_⟩
  · rw [Int.natAbs_tmod]
    exact Nat.mod_lt _ (Int.natAbs_pos.mpr nonzero)
  · intro negative
    have opposite := Int.tmod_nonneg divisor (a := -dividend) (by omega)
    rw [Int.neg_tmod] at opposite
    omega

/-- The law of division with a remainder that has the sign of the divisor. -/
structure IsFloorDivision (dividend divisor quotient remainder : Int) : Prop where
  sum : dividend = quotient * divisor + remainder
  sign : remainder = 0 ∨ (remainder < 0 ↔ divisor < 0)
  smaller : remainder.natAbs < divisor.natAbs

/-- Where the remainder toward zero has the wrong sign, it is too small by the divisor and the
quotient too large by one. -/
theorem isFloorDivision_corrected (dividend : Int) {divisor : Int} (nonzero : divisor ≠ 0) :
    let quotient := dividend.tdiv divisor
    let remainder := dividend.tmod divisor
    IsFloorDivision dividend divisor
      (if remainder ≠ 0 ∧ ¬(dividend < 0 ↔ divisor < 0) then quotient - 1 else quotient)
      (if remainder ≠ 0 ∧ ¬(remainder < 0 ↔ divisor < 0) then remainder + divisor
        else remainder) := by
  have bounds := tmod_bounds dividend nonzero
  have parts := Int.tdiv_mul_add_tmod dividend divisor
  generalize dividend.tdiv divisor = quotient at *
  generalize dividend.tmod divisor = remainder at *
  dsimp only
  by_cases exact : remainder = 0
  · simp only [exact, ne_eq, not_true_eq_false, false_and, if_false]
    exact ⟨by omega, .inl rfl, by omega⟩
  · have sameSign : dividend < 0 ↔ remainder < 0 := by omega
    by_cases corrects : remainder < 0 ↔ divisor < 0
    · rw [if_neg (by rw [sameSign]; exact fun wrong => wrong.2 corrects),
        if_neg fun wrong => wrong.2 corrects]
      exact ⟨by omega, .inr corrects, bounds.1⟩
    · rw [if_pos (by rw [sameSign]; exact ⟨exact, corrects⟩), if_pos ⟨exact, corrects⟩]
      refine ⟨?_, by omega, by omega⟩
      rw [Int.sub_mul]
      omega

theorem IsFloorDivision.eq_fdiv_fmod
    {dividend divisor quotient remainder : Int}
    (law : IsFloorDivision dividend divisor quotient remainder) :
    quotient = dividend.fdiv divisor ∧ remainder = dividend.fmod divisor := by
  obtain ⟨sum, sign, smaller⟩ := law
  rw [Int.mul_comm] at sum
  rcases Int.lt_trichotomy divisor 0 with negative | rfl | positive
  · obtain ⟨sameQuotient, sameRemainder⟩ :=
      (Int.fdiv_fmod_unique' (a := dividend) (r := remainder) (q := quotient) negative).mpr
        ⟨by omega, by omega, by omega⟩
    exact ⟨sameQuotient.symm, sameRemainder.symm⟩
  · simp at smaller
  · obtain ⟨sameQuotient, sameRemainder⟩ :=
      (Int.fdiv_fmod_unique (a := dividend) (r := remainder) (q := quotient) positive).mpr
        ⟨by omega, by omega, by omega⟩
    exact ⟨sameQuotient.symm, sameRemainder.symm⟩

section Words

variable {dividend divisor : Int64}

theorem decide_ne_decide_iff (value other : Int64) :
    decide (value < 0) ≠ decide (other < 0) ↔ ¬(value.toInt < 0 ↔ other.toInt < 0) := by
  simp [lt_zero_iff]

theorem mod_ne_zero_iff : dividend % divisor ≠ 0 ↔ dividend.toInt.tmod divisor.toInt ≠ 0 := by
  rw [Ne, Ne, ← toInt_eq_zero_iff, Int64.toInt_mod]

/-- A quotient that is corrected is not the least integer: the divisor is not one or minus one. -/
theorem toInt_quotient_sub_one
    (inexact : dividend % divisor ≠ 0)
    (nonzero : divisor ≠ 0) :
    (dividend / divisor - 1).toInt = (dividend / divisor).toInt - 1 := by
  have fits : ¬(dividend = Int64.minValue ∧ divisor = -1) := by
    rintro ⟨rfl, rfl⟩
    exact inexact (by decide)
  rw [Ne, ← toInt_eq_zero_iff] at nonzero
  have bounds := tmod_bounds dividend.toInt nonzero
  have lower := dividend.le_toInt
  have upper := dividend.toInt_lt
  have remainder := mod_ne_zero_iff.mp inexact
  have size : (dividend.toInt.tdiv divisor.toInt).natAbs ≤ dividend.toInt.natAbs / 2 := by
    rw [Int.natAbs_tdiv]
    exact Nat.div_le_div_left (by omega) (by decide)
  rw [Int64.toInt_sub, Int64.toInt_one, toInt_div_of_fits fits,
    Int.bmod_eq_of_le (by omega) (by omega)]

/-- A remainder that is corrected comes nearer to zero. -/
theorem toInt_remainder_add
    (nonzero : divisor ≠ 0)
    (differs : decide (dividend % divisor < 0) ≠ decide (divisor < 0)) :
    (dividend % divisor + divisor).toInt = (dividend % divisor).toInt + divisor.toInt := by
  rw [Ne, ← toInt_eq_zero_iff] at nonzero
  have bounds := tmod_bounds dividend.toInt nonzero
  have lower := divisor.le_toInt
  have upper := divisor.toInt_lt
  rw [decide_ne_decide_iff, Int64.toInt_mod] at differs
  rw [Int64.toInt_add, Int64.toInt_mod, Int.bmod_eq_of_le (by omega) (by omega)]

theorem toInt_floorQuotient
    (nonzero : divisor ≠ 0)
    (fits : ¬(dividend = Int64.minValue ∧ divisor = -1)) :
    (floorQuotient dividend divisor).toInt =
      if dividend.toInt.tmod divisor.toInt ≠ 0 ∧ ¬(dividend.toInt < 0 ↔ divisor.toInt < 0) then
        dividend.toInt.tdiv divisor.toInt - 1
      else dividend.toInt.tdiv divisor.toInt := by
  have corrected : dividend % divisor ≠ 0 ∧ decide (dividend < 0) ≠ decide (divisor < 0) ↔
      dividend.toInt.tmod divisor.toInt ≠ 0 ∧ ¬(dividend.toInt < 0 ↔ divisor.toInt < 0) := by
    rw [mod_ne_zero_iff, decide_ne_decide_iff]
  unfold floorQuotient
  by_cases corrects : dividend % divisor ≠ 0 ∧ decide (dividend < 0) ≠ decide (divisor < 0)
  · rw [if_pos corrects, if_pos (corrected.mp corrects), toInt_quotient_sub_one corrects.1 nonzero,
      toInt_div_of_fits fits]
  · rw [if_neg corrects, if_neg (mt corrected.mpr corrects)]
    exact toInt_div_of_fits fits

theorem toInt_floorRemainder (nonzero : divisor ≠ 0) :
    (floorRemainder dividend divisor).toInt =
      if dividend.toInt.tmod divisor.toInt ≠ 0 ∧
          ¬(dividend.toInt.tmod divisor.toInt < 0 ↔ divisor.toInt < 0) then
        dividend.toInt.tmod divisor.toInt + divisor.toInt
      else dividend.toInt.tmod divisor.toInt := by
  have corrected :
      dividend % divisor ≠ 0 ∧ decide (dividend % divisor < 0) ≠ decide (divisor < 0) ↔
        dividend.toInt.tmod divisor.toInt ≠ 0 ∧
          ¬(dividend.toInt.tmod divisor.toInt < 0 ↔ divisor.toInt < 0) := by
    rw [mod_ne_zero_iff, decide_ne_decide_iff, Int64.toInt_mod]
  unfold floorRemainder
  by_cases corrects :
      dividend % divisor ≠ 0 ∧ decide (dividend % divisor < 0) ≠ decide (divisor < 0)
  · rw [if_pos corrects, if_pos (corrected.mp corrects), toInt_remainder_add nonzero corrects.2,
      Int64.toInt_mod]
  · rw [if_neg corrects, if_neg (mt corrected.mpr corrects), Int64.toInt_mod]

/-- Except for the quotient that does not fit, division is exact. -/
theorem isFloorDivision
    (nonzero : divisor ≠ 0)
    (fits : ¬(dividend = Int64.minValue ∧ divisor = -1)) :
    IsFloorDivision dividend.toInt divisor.toInt (floorQuotient dividend divisor).toInt
      (floorRemainder dividend divisor).toInt := by
  rw [toInt_floorQuotient nonzero fits, toInt_floorRemainder nonzero]
  exact isFloorDivision_corrected dividend.toInt (mt (toInt_eq_zero_iff divisor).mp nonzero)

theorem floorQuotient_least : floorQuotient Int64.minValue (-1) = Int64.minValue := by decide

theorem floorRemainder_least : floorRemainder Int64.minValue (-1) = 0 := by decide

/-- The quotient is that of the integers rounded down, wrapped around in the one case where it does
not fit. -/
theorem floorQuotient_eq (nonzero : divisor ≠ 0) :
    floorQuotient dividend divisor = Int64.ofInt (dividend.toInt.fdiv divisor.toInt) := by
  by_cases fits : dividend = Int64.minValue ∧ divisor = -1
  · obtain ⟨rfl, rfl⟩ := fits
    decide
  · rw [← (isFloorDivision nonzero fits).eq_fdiv_fmod.1, Int64.ofInt_toInt]

theorem floorRemainder_eq (nonzero : divisor ≠ 0) :
    floorRemainder dividend divisor = Int64.ofInt (dividend.toInt.fmod divisor.toInt) := by
  by_cases fits : dividend = Int64.minValue ∧ divisor = -1
  · obtain ⟨rfl, rfl⟩ := fits
    decide
  · rw [← (isFloorDivision nonzero fits).eq_fdiv_fmod.2, Int64.ofInt_toInt]

end Words

end Value

/-! ## Operators on integers -/

/-- What an operator does with an integer, if it is one of integers only. -/
def UnaryOp.onInt? : UnaryOp → Option (Int → Int)
  | negate => some fun value => -value
  | complement => some fun value => -value - 1
  | keep | not => none

/-- What an operator of arithmetic does with two integers. Quotients are rounded down. -/
def BinaryOp.onInts? : BinaryOp → Option (Int → Int → Int)
  | add => some fun left right => left + right
  | subtract => some fun left right => left - right
  | multiply => some fun left right => left * right
  | divide => some Int.fdiv
  | modulo => some Int.fmod
  | _ => none

def BinaryOp.divides : BinaryOp → Bool
  | divide | modulo => true
  | _ => false

namespace Value

theorem applyUnary_int
    {operator : UnaryOp}
    {operation : Int → Int}
    (onInt : operator.onInt? = some operation)
    (value : Int64) :
    applyUnary operator (.int value) = .ok (.int (Int64.ofInt (operation value.toInt))) := by
  cases operator with
  | negate =>
      cases onInt
      rw [Int64.ofInt_neg, Int64.ofInt_toInt]
      rfl
  | complement =>
      cases onInt
      rw [Int64.ofInt_sub, Int64.ofInt_neg, Int64.ofInt_toInt]
      have complement : ~~~value = -value - 1 := Int64.not_eq_neg_add value
      show Except.ok (Value.int (~~~value)) = _
      rw [complement]
      rfl
  | keep => cases onInt
  | not => cases onInt

/-- The operators of arithmetic are exact up to a multiple of `2 ^ 64`. -/
theorem applyBinary_int
    {operator : BinaryOp}
    {operation : Int → Int → Int}
    (onInts : operator.onInts? = some operation)
    {left right : Int64}
    (nonzero : operator.divides = true → right ≠ 0) :
    applyBinary operator (.int left) (.int right) =
      .ok (.int (Int64.ofInt (operation left.toInt right.toInt))) := by
  cases operator <;> cases onInts
  · rw [Int64.ofInt_add, Int64.ofInt_toInt, Int64.ofInt_toInt]
    rfl
  · rw [Int64.ofInt_sub, Int64.ofInt_toInt, Int64.ofInt_toInt]
    rfl
  · rw [Int64.ofInt_mul, Int64.ofInt_toInt, Int64.ofInt_toInt]
    rfl
  · rw [← floorQuotient_eq (nonzero rfl)]
    exact if_neg (nonzero rfl)
  · rw [← floorRemainder_eq (nonzero rfl)]
    exact if_neg (nonzero rfl)

theorem applyBinary_zero
    {operator : BinaryOp}
    (divides : operator.divides = true)
    (left : Int64) :
    applyBinary operator (.int left) (.int 0) = .error .divisionByZero := by
  cases operator <;> first | rfl | cases divides

end Value

namespace Formula

variable {Key Host : Type}

/-! ## What a formula stands for -/

section

variable (machine : Machine Key Host)

/-- The text of an integer, or a reference to a variable that has such a text. -/
inductive IsInteger : Formula → Int64 → Prop where
  | literal {text : String} {value : Int64} :
      Numeral.readWord? text = some value → IsInteger (.literal text) value
  | reference {text name held : String} {value : Int64} :
      Refers text name → machine.valueOf? name = some held → Numeral.readWord? held = some value →
        IsInteger (.source text) value

/-- The operands are integers and the operators those of arithmetic. -/
inductive OverIntegers : Formula → Prop where
  | operand {formula : Formula} {value : Int64} :
      IsInteger machine formula value → OverIntegers formula
  | unary {operator : UnaryOp} {operand : Formula} :
      operator.onInt?.isSome = true → OverIntegers operand → OverIntegers (.unary operator operand)
  | binary {operator : BinaryOp} {left right : Formula} :
      operator.onInts?.isSome = true → OverIntegers left → OverIntegers right →
        OverIntegers (.binary operator left right)

/-- The integer that the operators give, each of them wrapped around at 64 bits; there is none if a
divisor is zero. -/
inductive Yields : Formula → Int64 → Prop where
  | operand {formula : Formula} {value : Int64} :
      IsInteger machine formula value → Yields formula value
  | unary {operator : UnaryOp} {operation : Int → Int} {operand : Formula} {value : Int64} :
      operator.onInt? = some operation → Yields operand value →
        Yields (.unary operator operand) (Int64.ofInt (operation value.toInt))
  | binary
      {operator : BinaryOp}
      {operation : Int → Int → Int}
      {left right : Formula}
      {leftValue rightValue : Int64} :
      operator.onInts? = some operation → Yields left leftValue → Yields right rightValue →
        (operator.divides = true → rightValue ≠ 0) →
          Yields (.binary operator left right)
            (Int64.ofInt (operation leftValue.toInt rightValue.toInt))

/-- One of the divisors that are evaluated has this value. Operands are evaluated from the left to
the right, as long as none divides by zero. -/
inductive EvaluatesDivisor (divisor : Int64) : Formula → Prop where
  | here {operator : BinaryOp} {left right : Formula} {dividend : Int64} :
      operator.divides = true → Yields machine left dividend → Yields machine right divisor →
        EvaluatesDivisor divisor (.binary operator left right)
  | unary {operator : UnaryOp} {operand : Formula} :
      operator.onInt?.isSome = true → EvaluatesDivisor divisor operand →
        EvaluatesDivisor divisor (.unary operator operand)
  | left {operator : BinaryOp} {left right : Formula} :
      operator.onInts?.isSome = true → EvaluatesDivisor divisor left →
        EvaluatesDivisor divisor (.binary operator left right)
  | right {operator : BinaryOp} {left right : Formula} {leftValue : Int64} :
      operator.onInts?.isSome = true → Yields machine left leftValue →
        EvaluatesDivisor divisor right → EvaluatesDivisor divisor (.binary operator left right)

end

variable {machine : Machine Key Host} {formula : Formula}

/-- Either all operators give an integer, or one of them divides by zero. -/
theorem OverIntegers.yields_or_divides (integral : OverIntegers machine formula) :
    (∃ value, Yields machine formula value) ∨ EvaluatesDivisor machine 0 formula := by
  induction integral with
  | operand isInteger => exact .inl ⟨_, .operand isInteger⟩
  | unary isArithmetic _ inductionHypothesis =>
      obtain ⟨operation, onInt⟩ := Option.isSome_iff_exists.mp isArithmetic
      rcases inductionHypothesis with ⟨value, yields⟩ | divides
      · exact .inl ⟨_, .unary onInt yields⟩
      · exact .inr (.unary isArithmetic divides)
  | @binary operator left right isArithmetic _ _ leftHypothesis rightHypothesis =>
      obtain ⟨operation, onInts⟩ := Option.isSome_iff_exists.mp isArithmetic
      rcases leftHypothesis with ⟨leftValue, yieldsLeft⟩ | divides
      · rcases rightHypothesis with ⟨rightValue, yieldsRight⟩ | divides
        · by_cases byZero : operator.divides = true ∧ rightValue = 0
          · obtain ⟨divides, rfl⟩ := byZero
            exact .inr (.here divides yieldsLeft yieldsRight)
          · exact .inl ⟨_, .binary onInts yieldsLeft yieldsRight fun divides isZero =>
              byZero ⟨divides, isZero⟩⟩
        · exact .inr (.right isArithmetic yieldsLeft divides)
      · exact .inr (.left isArithmetic divides)

/-! ## Evaluation -/

theorem compute_binary_of_onInts
    {operator : BinaryOp}
    (isArithmetic : operator.onInts?.isSome = true)
    (left right : Formula)
    (eval : Evaluator Key Host) :
    (Formula.binary operator left right).compute eval = (do
      let leftValue ← left.compute eval
      let rightValue ← right.compute eval
      ofOperation (Value.applyBinary operator leftValue rightValue)) := by
  have notEither : operator ≠ .either := by
    rintro rfl
    cases isArithmetic
  have notBoth : operator ≠ .both := by
    rintro rfl
    cases isArithmetic
  exact compute_binary notEither notBoth left right eval

variable (host : HostCommands Key Host) (fuel : Nat)

theorem IsInteger.run_compute {value : Int64} (isInteger : IsInteger machine formula value) :
    (formula.compute (evaluator host (fuel + 1))).run.run machine =
      (.ok (.int value), machine) := by
  cases isInteger with
  | literal spells =>
      rw [compute, Value.ofText, spells]
      rfl
  | reference refers held spells =>
      rw [run_compute_source refers held, Value.ofText, spells]

/-- A formula that stands for an integer computes it and changes nothing. -/
theorem Yields.run_compute {value : Int64} (yields : Yields machine formula value) :
    (formula.compute (evaluator host (fuel + 1))).run.run machine =
      (.ok (.int value), machine) := by
  induction yields with
  | operand isInteger => exact isInteger.run_compute host fuel
  | unary onInt _ inductionHypothesis =>
      rw [compute, Conduct.run_bind, inductionHypothesis]
      dsimp only
      rw [Value.applyUnary_int onInt]
      rfl
  | binary onInts _ _ nonzero leftHypothesis rightHypothesis =>
      have isArithmetic := Option.isSome_iff_exists.mpr ⟨_, onInts⟩
      rw [compute_binary_of_onInts isArithmetic, Conduct.run_bind, leftHypothesis]
      dsimp only
      rw [Conduct.run_bind, rightHypothesis]
      dsimp only
      rw [Value.applyBinary_int onInts nonzero]
      rfl

/-- A divisor that is zero ends the evaluation where it stands. -/
theorem EvaluatesDivisor.run_compute (divides : EvaluatesDivisor machine 0 formula) :
    (formula.compute (evaluator host (fuel + 1))).run.run machine =
      (.error (.error "divide by zero"), machine) := by
  induction divides with
  | @here operator left right dividend divides yieldsLeft yieldsRight =>
      have isArithmetic : operator.onInts?.isSome = true := by
        cases operator <;> first | rfl | cases divides
      rw [compute_binary_of_onInts isArithmetic, Conduct.run_bind, yieldsLeft.run_compute host fuel]
      dsimp only
      rw [Conduct.run_bind, yieldsRight.run_compute host fuel]
      dsimp only
      rw [Value.applyBinary_zero divides]
      rfl
  | unary _ _ inductionHypothesis =>
      rw [compute, Conduct.run_bind, inductionHypothesis]
  | left isArithmetic _ inductionHypothesis =>
      rw [compute_binary_of_onInts isArithmetic, Conduct.run_bind, inductionHypothesis]
  | right isArithmetic yieldsLeft _ inductionHypothesis =>
      rw [compute_binary_of_onInts isArithmetic, Conduct.run_bind,
        yieldsLeft.run_compute host fuel]
      dsimp only
      rw [Conduct.run_bind, inductionHypothesis]

/-- What comes out of a formula over integers: an integer or an error, and when it is which. -/
theorem OverIntegers.run_compute (integral : OverIntegers machine formula) :
    let ran := (formula.compute (evaluator host (fuel + 1))).run.run machine
    let divided : Except Interruption Value × Machine Key Host :=
      (.error (.error "divide by zero"), machine)
    ((∃ value, ran = (.ok (.int value), machine)) ∨ ran = divided) ∧
      (∀ value, ran = (.ok (.int value), machine) ↔ Yields machine formula value) ∧
      (ran = divided ↔ EvaluatesDivisor machine 0 formula) := by
  dsimp only
  rcases integral.yields_or_divides with ⟨value, yields⟩ | divides
  · rw [yields.run_compute host fuel]
    refine ⟨.inl ⟨value, rfl⟩, fun other => ⟨?_, ?_⟩, nofun, ?_⟩
    · intro same
      cases same
      exact yields
    · intro others
      rw [← yields.run_compute host fuel, others.run_compute host fuel]
    · intro divides
      rw [← yields.run_compute host fuel, divides.run_compute host fuel]
  · rw [divides.run_compute host fuel]
    refine ⟨.inr rfl, fun other => ⟨nofun, ?_⟩, fun _ => divides, fun _ => rfl⟩
    intro yields
    rw [← divides.run_compute host fuel, yields.run_compute host fuel]

end Formula

/-! ## Main statement -/

open Value Formula

/-- Division of integers is division rounded down: all its steps are exact, except that the one
quotient that does not fit wraps around, to the least integer. A formula over integers computes the
integer that its operators give and changes nothing. It is an error only if it evaluates a divisor
that is zero. -/
theorem integer_formulas_compute :
    (∀ dividend divisor : Int64, divisor ≠ 0 →
      ¬(dividend = Int64.minValue ∧ divisor = -1) →
        IsFloorDivision dividend.toInt divisor.toInt (floorQuotient dividend divisor).toInt
          (floorRemainder dividend divisor).toInt ∧
        (dividend / divisor).toInt = dividend.toInt.tdiv divisor.toInt ∧
        (dividend % divisor ≠ 0 →
          (dividend / divisor - 1).toInt = (dividend / divisor).toInt - 1) ∧
        (decide (dividend % divisor < 0) ≠ decide (divisor < 0) →
          (dividend % divisor + divisor).toInt = (dividend % divisor).toInt + divisor.toInt)) ∧
    (floorQuotient Int64.minValue (-1) = Int64.minValue ∧
      floorRemainder Int64.minValue (-1) = 0) ∧
    (∀ {Key Host : Type} (host : HostCommands Key Host) (fuel : Nat) (machine : Machine Key Host)
      (formula : Formula), OverIntegers machine formula →
        let ran := (formula.compute (evaluator host (fuel + 1))).run.run machine
        let divided := (.error (.error "divide by zero"), machine)
        ((∃ value, ran = (.ok (.int value), machine)) ∨ ran = divided) ∧
          (∀ value, ran = (.ok (.int value), machine) ↔ Yields machine formula value) ∧
          (ran = divided ↔ EvaluatesDivisor machine 0 formula) ∧
          (∀ text, Formula.ofText text = .ok formula →
            (computeText (evaluator host (fuel + 1)) text).run.run machine = ran)) := by
  refine ⟨?_, ⟨floorQuotient_least, floorRemainder_least⟩, ?_⟩
  · intro dividend divisor nonzero fits
    exact ⟨isFloorDivision nonzero fits, toInt_div_of_fits fits,
      fun inexact => toInt_quotient_sub_one inexact nonzero,
      fun differs => toInt_remainder_add nonzero differs⟩
  · intro Key Host host fuel machine formula integral
    obtain ⟨ends, yields, divides⟩ := integral.run_compute host fuel
    refine ⟨ends, yields, divides, ?_⟩
    intro text read
    rw [computeText_of_read read]

/-- Minus seven divided by two, and its remainder for zero. -/
theorem integer_formulas_compute_of_negative :
    let host : HostCommands Nat Unit := ⟨fun _ _ _ => throw .unfinished, fun _ host => host⟩
    let machine : Machine Nat Unit :=
      ⟨{ commands := {}, store := { globals := .ofList [("n", "-7")] } }, {}, 0, ()⟩
    IsFloorDivision (-7) 2 (-4) 1 ∧
      (computeText (evaluator host 1) "$n / 2").run.run machine = (.ok (.int (-4)), machine) ∧
      (computeText (evaluator host 1) "$n % 0").run.run machine =
        (.error (.error "divide by zero"), machine) := by
  intro host machine
  obtain ⟨divides, -, computed⟩ := integer_formulas_compute
  have held : machine.valueOf? "n" = some "-7" := rfl
  have refers : Refers "$n" "n" := .plain (.char (by decide) .nil) (by simp)
  have operand : IsInteger machine (.source "$n") (-7) :=
    .reference refers held (by decide)
  have two : IsInteger machine (.literal "2") 2 := .literal (by decide)
  have zero : IsInteger machine (.literal "0") 0 := .literal (by decide)
  let halved : Formula := .binary .divide (.source "$n") (.literal "2")
  have readHalved : Formula.ofText "$n / 2" = .ok halved := by cbv
  have yields : Yields machine halved
      (Int64.ofInt (Int.fdiv (-7 : Int64).toInt (2 : Int64).toInt)) :=
    .binary rfl (.operand operand) (.operand two) fun _ => by decide
  have value : Int64.ofInt (Int.fdiv (-7 : Int64).toInt (2 : Int64).toInt) = -4 := by decide
  rw [value] at yields
  let divided : Formula := .binary .modulo (.source "$n") (.literal "0")
  have readDivided : Formula.ofText "$n % 0" = .ok divided := by cbv
  obtain ⟨-, gives, -, sameHalved⟩ := computed host 0 machine halved
    (.binary rfl (.operand operand) (.operand two))
  obtain ⟨-, -, refuses, sameDivided⟩ := computed host 0 machine divided
    (.binary rfl (.operand operand) (.operand zero))
  refine ⟨(divides (-7) 2 (by decide) (by decide)).1, ?_, ?_⟩
  · rw [sameHalved _ readHalved]
    exact (gives (-4)).mpr yields
  · rw [sameDivided _ readDivided]
    exact refuses.mpr (.here rfl (.operand operand) (.operand zero))

end ScriptBridge.Arithmetic
