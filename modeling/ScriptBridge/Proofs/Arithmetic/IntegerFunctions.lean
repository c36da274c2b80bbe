import Mathlib.Data.List.MinMax
import ScriptBridge.Proofs.Arithmetic.IntegerFormulas
import ScriptBridge.Proofs.Numeral.Doubles

/-!
# Functions of integers

Some functions keep an integer as it is, others make a double of it first. These are exact as far as
the doubles are: the integer part of an integer is that of the nearest double, and of several
integers the least is the first with the least nearest double.
-/

namespace ScriptBridge.Arithmetic

open Numeral Value Formula

variable {Key Host : Type} {machine : Machine Key Host}

/-! ## Extremes -/

namespace Value

section

variable
  {keeps : Float → Float → Bool}
  {replaces : Int64 → Int64 → Prop}
  [DecidableRel replaces]

/-- The search for an extreme goes through the integers and keeps the best one so far. -/
theorem extreme_some_int
    (decides : ∀ best candidate,
      keeps (floatOfWord best) (floatOfWord candidate) = true ↔ ¬replaces candidate best)
    (function : String)
    (best : Int64)
    (values : List Int64) :
    ∃ found, values.foldl (List.argAux replaces) (some best) = some found ∧
      extreme function keeps (some (.int best)) (values.map .int) = .ok (.int found) := by
  induction values generalizing best with
  | nil => exact ⟨best, rfl, rfl⟩
  | cons candidate values inductionHypothesis =>
      have step : extreme function keeps (some (.int best)) ((candidate :: values).map .int) =
          if keeps (floatOfWord best) (floatOfWord candidate) then
            extreme function keeps (some (.int best)) (values.map .int)
          else extreme function keeps (some (.int candidate)) (values.map .int) := by
        rw [List.map_cons, extreme]
        rfl
      by_cases replaced : replaces candidate best
      · obtain ⟨found, kept, ran⟩ := inductionHypothesis candidate
        refine ⟨found, ?_, ?_⟩
        · simpa [List.argAux, replaced] using kept
        · rw [step, if_neg fun stays => (decides _ _).mp stays replaced, ran]
      · obtain ⟨found, kept, ran⟩ := inductionHypothesis best
        refine ⟨found, ?_, ?_⟩
        · simpa [List.argAux, replaced] using kept
        · rw [step, if_pos ((decides _ _).mpr replaced), ran]

theorem extreme_int
    (decides : ∀ best candidate,
      keeps (floatOfWord best) (floatOfWord candidate) = true ↔ ¬replaces candidate best)
    (function : String)
    {values : List Int64}
    (nonempty : values ≠ []) :
    ∃ found, values.foldl (List.argAux replaces) none = some found ∧
      extreme function keeps none (values.map .int) = .ok (.int found) := by
  cases values with
  | nil => contradiction
  | cons first values => exact extreme_some_int decides function first values

end

/-- The integer that stands for an integer when it becomes a double. -/
def doubled (value : Int64) : Int :=
  nearestDouble value.toInt

theorem call_min {values : List Int64} (nonempty : values ≠ []) :
    ∃ least ∈ values.argmin doubled, call "min" (values.map .int) = .ok (.int least) := by
  apply extreme_int _ "min" nonempty
  intro best candidate
  rw [decide_eq_true_iff, floatOfWord_le_iff]
  exact Int.not_lt.symm

theorem call_max {values : List Int64} (nonempty : values ≠ []) :
    ∃ greatest ∈ values.argmax doubled, call "max" (values.map .int) = .ok (.int greatest) := by
  apply extreme_int _ "max" nonempty
  intro best candidate
  rw [decide_eq_true_iff, floatOfWord_le_iff]
  exact Int.not_lt.symm

theorem doubled_mono {left right : Int64} (le : left.toInt ≤ right.toInt) :
    doubled left ≤ doubled right :=
  nearestDouble_mono le

/-- An integer of the best rank is the best one of all, unless there is a better one of the same
rank. -/
theorem best_iff
    {rank quality : Int64 → Int}
    (mono : ∀ {left right}, quality left ≤ quality right → rank left ≤ rank right)
    {values : List Int64}
    {best : Int64}
    (first : ∀ other ∈ values, rank best ≤ rank other) :
    (∀ other ∈ values, quality best ≤ quality other) ↔
      ∀ other ∈ values, quality other < quality best → rank other ≠ rank best := by
  constructor
  · intro isBest other member better
    exact absurd (isBest other member) (Int.not_le.mpr better)
  · intro apart other member
    by_contra better
    rw [Int.not_le] at better
    have worse := first other member
    have noWorse := mono better.le
    exact apart other member better (Int.le_antisymm noWorse worse)

theorem least_iff_of_mem_argmin
    {values : List Int64}
    {least : Int64}
    (first : least ∈ values.argmin doubled) :
    (∀ other ∈ values, least.toInt ≤ other.toInt) ↔
      ∀ other ∈ values, other.toInt < least.toInt → doubled other ≠ doubled least :=
  best_iff doubled_mono fun _ member => List.le_of_mem_argmin member first

/-- The greatest one is the best one with respect to the negated numbers. -/
theorem greatest_iff_of_mem_argmax
    {values : List Int64}
    {greatest : Int64}
    (first : greatest ∈ values.argmax doubled) :
    (∀ other ∈ values, other.toInt ≤ greatest.toInt) ↔
      ∀ other ∈ values, greatest.toInt < other.toInt → doubled other ≠ doubled greatest := by
  have negated : ∀ {left right : Int64}, -left.toInt ≤ -right.toInt →
      -doubled left ≤ -doubled right :=
    fun le => Int.neg_le_neg (doubled_mono (Int.le_of_neg_le_neg le))
  have best := best_iff negated fun other member =>
    Int.neg_le_neg (List.le_of_mem_argmax member first)
  simpa using best

end Value

/-! ## Calls -/

section

variable (host : HostCommands Key Host) (fuel : Nat)

/-- Arguments that stand for integers are computed one after the other and change nothing. -/
theorem run_computeAll
    {arguments : List Formula}
    {values : List Int64}
    (yield : List.Forall₂ (Yields machine) arguments values) :
    (computeAll (evaluator host (fuel + 1)) arguments).run.run machine =
      (.ok (values.map .int), machine) := by
  induction yield with
  | nil =>
      rw [computeAll]
      rfl
  | cons yields _ inductionHypothesis =>
      rw [computeAll, Conduct.run_bind, yields.run_compute host fuel]
      dsimp only
      rw [Conduct.run_bind, inductionHypothesis]
      rfl

/-- A function of integers does what it does with their values. -/
theorem run_computeText_call
    {text function : String}
    {arguments : List Formula}
    {values : List Int64}
    {result : Value}
    (read : Formula.ofText text = .ok (.call function arguments))
    (yield : List.Forall₂ (Yields machine) arguments values)
    (called : call function (values.map .int) = .ok result) :
    (computeText (evaluator host (fuel + 1)) text).run.run machine = (.ok result, machine) := by
  rw [computeText_of_read read, compute, Conduct.run_bind, run_computeAll host fuel yield]
  dsimp only
  rw [called]
  rfl

end

/-! ## Main statement -/

/-- Of the functions of integers `round` is exact. The integer part is that of the nearest double,
which is the integer itself if it has at most 53 binary digits up to the zeros at its end, or if it
is the greatest one of all. The least and the greatest of several integers are the first of them
with the least and the greatest nearest double, and so exact if no other one has the same
double. -/
theorem integer_functions_compute
    (host : HostCommands Key Host)
    (fuel : Nat)
    (machine : Machine Key Host)
    (text : String)
    (arguments : List Formula)
    (values : List Int64)
    (yield : List.Forall₂ (Yields machine) arguments values) :
    let ran := (computeText (evaluator host (fuel + 1)) text).run.run machine
    (Formula.ofText text = .ok (.call "round" arguments) →
      ∀ value, values = [value] → ran = (.ok (.int value), machine)) ∧
    (Formula.ofText text = .ok (.call "int" arguments) →
      ∀ value, values = [value] →
        ∃ whole, ran = (.ok (.int whole), machine) ∧
          whole.toInt = min (nearestDouble value.toInt) (2 ^ 63 - 1) ∧
          (whole = value ↔ IsDouble value.toInt ∨ value = Int64.maxValue)) ∧
    (Formula.ofText text = .ok (.call "min" arguments) → values ≠ [] →
      ∃ least ∈ values.argmin doubled, ran = (.ok (.int least), machine) ∧
        ((∀ other ∈ values, least.toInt ≤ other.toInt) ↔
          ∀ other ∈ values, other.toInt < least.toInt → doubled other ≠ doubled least)) ∧
    (Formula.ofText text = .ok (.call "max" arguments) → values ≠ [] →
      ∃ greatest ∈ values.argmax doubled, ran = (.ok (.int greatest), machine) ∧
        ((∀ other ∈ values, other.toInt ≤ greatest.toInt) ↔
          ∀ other ∈ values, greatest.toInt < other.toInt →
            doubled other ≠ doubled greatest)) := by
  refine ⟨?_, ?_, ?_, ?_⟩
  · rintro read value rfl
    exact run_computeText_call host fuel read yield rfl
  · rintro read value rfl
    exact ⟨_, run_computeText_call host fuel read yield rfl, toInt_wordOfFloat_floatOfWord value,
      wordOfFloat_floatOfWord_eq_self_iff value⟩
  · intro read nonempty
    obtain ⟨least, first, called⟩ := call_min nonempty
    exact ⟨least, first, run_computeText_call host fuel read yield called,
      least_iff_of_mem_argmin first⟩
  · intro read nonempty
    obtain ⟨greatest, first, called⟩ := call_max nonempty
    exact ⟨greatest, first, run_computeText_call host fuel read yield called,
      greatest_iff_of_mem_argmax first⟩

/-- The first odd integer with more than 53 binary digits. -/
theorem integer_functions_compute_of_odd :
    let host : HostCommands Nat Unit := ⟨fun _ _ _ => throw .unfinished, fun _ host => host⟩
    let machine : Machine Nat Unit := ⟨{ commands := {} }, {}, 0, ()⟩
    let ran (text : String) := (computeText (evaluator host 1) text).run.run machine
    ran "int(9007199254740993)" = (.ok (.int 9007199254740992), machine) ∧
      ran "max(9007199254740992, 9007199254740993)" =
        (.ok (.int 9007199254740992), machine) := by
  intro host machine ran
  have even : Yields machine (.literal "9007199254740992") 9007199254740992 :=
    .operand (.literal (by decide))
  have odd : Yields machine (.literal "9007199254740993") 9007199254740993 :=
    .operand (.literal (by decide))
  constructor
  · obtain ⟨-, whole, -⟩ := integer_functions_compute host 0 machine "int(9007199254740993)" _ _
      (.cons odd .nil)
    obtain ⟨found, computed, value, -⟩ := whole (by cbv) _ rfl
    have same : found = 9007199254740992 := by
      rw [← Int64.toInt_inj, value]
      decide
    rw [← same]
    exact computed
  · obtain ⟨-, -, -, greatest⟩ := integer_functions_compute host 0 machine
      "max(9007199254740992, 9007199254740993)" _ _ (.cons even (.cons odd .nil))
    obtain ⟨found, first, computed, -⟩ := greatest (by cbv) (by simp)
    have argmax : [9007199254740992, 9007199254740993].argmax doubled = some 9007199254740992 := by
      decide
    rw [argmax] at first
    cases first
    exact computed

end ScriptBridge.Arithmetic
