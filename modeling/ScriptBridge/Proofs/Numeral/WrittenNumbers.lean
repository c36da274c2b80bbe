import ScriptBridge.Proofs.Numeral.Integers

/-!
# Written numbers

The text of an integer is read as the integer. The text of a double is always that of a number: it
has digits, which may stand on both sides of a point, or it is the name of a number that has none.
-/

namespace ScriptBridge.Numeral

open Text

/-! ## Integers -/

theorem isMark_none : [] ∈ Radix.decimal.marks := by
  decide

/-- The decimal spelling of an integer without blanks around it. -/
def decimalSpelling (number : Int) : Spelling :=
  .ofInt number .decimal [] isMark_none [] [] (by simp) (by simp)

theorem text_decimalSpelling (number : Int) : (decimalSpelling number).text = toString number := by
  rw [← String.toList_inj, Spelling.text, String.toList_ofList]
  cases number with
  | ofNat size =>
      have written : toString (Int.ofNat size) = toString size := rfl
      have notNegative : ¬Int.ofNat size < 0 := Int.not_lt.mpr (Int.natCast_nonneg size)
      rw [written, toList_toString, decimalSpelling, Spelling.ofInt, if_neg notNegative]
      simp [Spelling.core, SignMark.text, Radix.base]
  | negSucc size =>
      have written : toString (Int.negSucc size) = "-" ++ toString (size + 1) := rfl
      rw [written, String.toList_append, toList_toString, decimalSpelling, Spelling.ofInt,
        if_pos (Int.negSucc_lt_zero size)]
      simp [Spelling.core, SignMark.text, Radix.base]

/-- Writing a word and reading the text gives the word. -/
theorem readWord?_formatWord (value : Int64) : readWord? (formatWord value) = some value := by
  rw [readWord?_eq_some_iff, formatWord, ← text_decimalSpelling]
  exact ⟨_, rfl, Spelling.value_ofInt _ isMark_none _ _⟩

theorem formatWord_inj {left right : Int64} :
    formatWord left = formatWord right ↔ left = right := by
  constructor
  · intro same
    have read := readWord?_formatWord left
    rw [same, readWord?_formatWord, Option.some.injEq] at read
    exact read.symm
  · rintro rfl
    rfl

/-! ## Doubles -/

/-- Digits, and perhaps a point and digits behind it. -/
inductive IsPositional : List Char → Prop where
  | whole {digits : List Char} :
      digits ≠ [] → (∀ c ∈ digits, c.isDigit = true) → IsPositional digits
  | pointed {digits fraction : List Char} :
      digits ≠ [] → (∀ c ∈ digits, c.isDigit = true) → (∀ c ∈ fraction, c.isDigit = true) →
        IsPositional (digits ++ '.' :: fraction)

theorem span_digits
    {digits : List Char}
    (areDigits : ∀ c ∈ digits, c.isDigit = true)
    (rest : List Char)
    (stops : ∀ c ∈ rest.head?, isDigitOf 10 c = false) :
    (digits ++ rest).takeWhile (isDigitOf 10) = digits ∧
      (digits ++ rest).dropWhile (isDigitOf 10) = rest := by
  have decimal : ∀ c ∈ digits, isDigitOf 10 c = true :=
    fun c member => isDigitOf_of_isDigit (areDigits c member)
  have none : rest.takeWhile (isDigitOf 10) = [] ∧ rest.dropWhile (isDigitOf 10) = rest := by
    cases rest with
    | nil => simp
    | cons c rest => simp [stops c rfl]
  rw [List.takeWhile_append_of_pos decimal, List.dropWhile_append_of_pos decimal, none.1, none.2,
    List.append_nil]
  exact ⟨rfl, rfl⟩

theorem IsPositional.readMagnitude?_ne_none
    {cs : List Char}
    (isPositional : IsPositional cs) :
    readMagnitude? cs ≠ none := by
  have noPoint : isDigitOf 10 '.' = false := by decide
  cases isPositional with
  | whole nonempty areDigits =>
      have parts := span_digits areDigits [] (by simp)
      rw [List.append_nil] at parts
      unfold readMagnitude?
      rw [parts.1, parts.2]
      dsimp only
      split <;> simp [nonempty, readExponent?]
  | @pointed digits fraction nonempty areDigits areFraction =>
      have parts := span_digits areDigits ('.' :: fraction) (by simp [noPoint])
      have behind := span_digits areFraction [] (by simp)
      rw [List.append_nil] at behind
      unfold readMagnitude?
      rw [parts.1, parts.2]
      dsimp only
      split <;> simp [nonempty, behind.1, behind.2, readExponent?]

/-- No character of it is a blank or a sign. -/
theorem IsPositional.char_cases
    {cs : List Char}
    (isPositional : IsPositional cs)
    {c : Char}
    (member : c ∈ cs) :
    c.isDigit = true ∨ c = '.' := by
  cases isPositional with
  | whole nonempty areDigits => exact .inl (areDigits c member)
  | pointed nonempty areDigits areFraction =>
      rcases List.mem_append.mp member with inside | behind
      · exact .inl (areDigits c inside)
      · rcases List.mem_cons.mp behind with isPoint | inside
        · exact .inr isPoint
        · exact .inl (areFraction c inside)

theorem IsPositional.isBlank
    {cs : List Char}
    (isPositional : IsPositional cs) :
    ∀ c ∈ cs, isBlank c = false := by
  intro c member
  rcases isPositional.char_cases member with isDigit | rfl
  · exact isBlank_of_isDigit isDigit
  · decide

theorem IsPositional.takeSign_eq
    {cs : List Char}
    (isPositional : IsPositional cs) :
    takeSign cs = (false, cs) := by
  unfold takeSign
  split
  · exact absurd (isPositional.char_cases List.mem_cons_self) (by decide)
  · exact absurd (isPositional.char_cases List.mem_cons_self) (by decide)
  · rfl

/-- A positional form is that of a number, with and without a minus sign in front of it. -/
theorem IsPositional.readFloat?_ne_none
    {text : String}
    (isPositional : IsPositional text.toList)
    (x : Float) :
    readFloat? (withSign x text) ≠ none := by
  have size := isPositional.readMagnitude?_ne_none
  unfold readFloat?
  split
  · simp
  · unfold withSign
    split
    · have chars : ("-" ++ text).toList = '-' :: text.toList := by simp
      have trimmed : trim ('-' :: text.toList) = '-' :: text.toList := by
        apply trim_of_isBlank_eq_false
        exact List.forall_mem_cons.mpr ⟨by decide, isPositional.isBlank⟩
      simp [chars, trimmed, readFloatText?, takeSign, size]
    · simp [trim_of_isBlank_eq_false isPositional.isBlank, readFloatText?,
        isPositional.takeSign_eq, size]

theorem isPositional_toString (number : Nat) : IsPositional (toString number).toList := by
  apply IsPositional.whole
  · rw [toList_toString]
    exact Nat.toDigits_ne_nil
  · exact fun _ member => isDigit_of_mem_toString member

/-- The positional form of a decimal has a digit in front of its point. -/
theorem isPositional_positional (decimal : Decimal) : IsPositional decimal.positional.toList := by
  have areDigits : ∀ c ∈ Nat.toDigits 10 decimal.digits, c.isDigit = true := by
    intro c member
    rw [← toList_toString] at member
    exact isDigit_of_mem_toString member
  have zeros (count : Nat) : ∀ c ∈ List.replicate count '0', c.isDigit = true := by
    intro c member
    rw [List.eq_of_mem_replicate member]
    decide
  unfold Decimal.positional
  split
  · rw [String.toList_ofList]
    apply IsPositional.whole
    · simp [Nat.toDigits_ne_nil]
    · exact List.forall_mem_append.mpr ⟨areDigits, zeros _⟩
  · rename_i places _
    rw [String.toList_ofList]
    have padded : ∀ c ∈ List.replicate (places + 2 - (Nat.toDigits 10 decimal.digits).length) '0' ++
        Nat.toDigits 10 decimal.digits, c.isDigit = true :=
      List.forall_mem_append.mpr ⟨zeros _, areDigits⟩
    apply IsPositional.pointed
    · rw [Ne, ← List.length_eq_zero_iff]
      simp
      omega
    · exact fun c member => padded c (List.mem_of_mem_take member)
    · exact fun c member => padded c (List.mem_of_mem_drop member)

theorem readFloat?_plainFloat (x : Float) : readFloat? (plainFloat x) ≠ none := by
  unfold plainFloat
  split
  · apply IsPositional.readFloat?_ne_none
    split
    · exact isPositional_toString 0
    · exact isPositional_positional _
  · split
    · decide
    · unfold withSign
      split <;> decide

/-- The text of a double is that of a number. -/
theorem readFloat?_formatFloat (x : Float) : readFloat? (formatFloat x) ≠ none := by
  unfold formatFloat
  split
  · split
    · apply IsPositional.readFloat?_ne_none
      rw [String.toList_append]
      have zero : ∀ c ∈ ['0'], c.isDigit = true := List.forall_mem_singleton.mpr (by decide)
      refine .pointed ?_ (fun _ member => isDigit_of_mem_toString member) zero
      rw [toList_toString]
      exact Nat.toDigits_ne_nil
    · exact readFloat?_plainFloat x
  · exact readFloat?_plainFloat x

end ScriptBridge.Numeral
