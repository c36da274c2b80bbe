import Mathlib.Data.List.Basic
import Mathlib.Data.List.TakeWhile
import ScriptBridge.ListText
import ScriptBridge.Numeral.Integer

/-!
# Written numbers are read back

The decimal form of a number has nothing but digits in it, so no blanks are cut off from it. It is
read as the number, if that fits into 64 bits.
-/

namespace ScriptBridge.Text

theorem trimLeft_eq_self
    {cs : List Char}
    (opens : ∀ c ∈ cs.head?, isBlank c = false) :
    trimLeft cs = cs := by
  cases cs with
  | nil => rfl
  | cons c rest =>
      have notBlank := opens c rfl
      simp [trimLeft, notBlank]

/-- Text without a blank at either end is left as it is. -/
theorem trim_eq_self
    {cs : List Char}
    (opens : ∀ c ∈ cs.head?, isBlank c = false)
    (closes : ∀ c ∈ cs.getLast?, isBlank c = false) :
    trim cs = cs := by
  rw [trim, trimLeft_eq_self opens, trimLeft_eq_self (by simpa using closes), List.reverse_reverse]

theorem exists_trimLeft (cs : List Char) :
    ∃ blanks, (∀ c ∈ blanks, isBlank c = true) ∧ cs = blanks ++ trimLeft cs :=
  ⟨cs.takeWhile isBlank, fun _ member => List.mem_takeWhile_imp member,
    List.takeWhile_append_dropWhile.symm⟩

/-- A text is its trimmed text with blanks around it. -/
theorem exists_trim (cs : List Char) :
    ∃ before after, (∀ c ∈ before, isBlank c = true) ∧ (∀ c ∈ after, isBlank c = true) ∧
      cs = before ++ (trim cs ++ after) := by
  obtain ⟨before, blankBefore, left⟩ := exists_trimLeft cs
  obtain ⟨after, blankAfter, right⟩ := exists_trimLeft (trimLeft cs).reverse
  refine ⟨before, after.reverse, blankBefore, by simpa using blankAfter, ?_⟩
  have whole : trimLeft cs = trim cs ++ after.reverse := by
    rw [trim, ← List.reverse_append, ← right, List.reverse_reverse]
  rw [← whole]
  exact left

theorem trimLeft_append
    {blanks : List Char}
    (blank : ∀ c ∈ blanks, isBlank c = true)
    (cs : List Char) :
    trimLeft (blanks ++ cs) = trimLeft cs :=
  List.dropWhile_append_of_pos blank

/-- The blanks around a text that has none at its ends are cut off. -/
theorem trim_between
    {before cs after : List Char}
    (blankBefore : ∀ c ∈ before, isBlank c = true)
    (blankAfter : ∀ c ∈ after, isBlank c = true)
    (nonempty : cs ≠ [])
    (opens : ∀ c ∈ cs.head?, isBlank c = false)
    (closes : ∀ c ∈ cs.getLast?, isBlank c = false) :
    trim (before ++ (cs ++ after)) = cs := by
  have left : trimLeft (before ++ (cs ++ after)) = cs ++ after := by
    rw [trimLeft_append blankBefore]
    apply trimLeft_eq_self
    intro c isHead
    rw [List.head?_append_of_ne_nil _ nonempty] at isHead
    exact opens c isHead
  rw [trim, left, List.reverse_append, trimLeft_append (by simpa using blankAfter),
    trimLeft_eq_self (by simpa using closes), List.reverse_reverse]

/-- A single blank at the end is cut off. -/
theorem trim_concat
    {cs : List Char}
    {c : Char}
    (nonempty : cs ≠ [])
    (opens : ∀ c ∈ cs.head?, isBlank c = false)
    (closes : ∀ c ∈ cs.getLast?, isBlank c = false)
    (blank : isBlank c = true) :
    trim (cs ++ [c]) = cs :=
  trim_between (fun _ member => absurd member List.not_mem_nil) (by simpa using blank) nonempty
    opens closes

end ScriptBridge.Text

namespace ScriptBridge.Numeral

open Text

/-! ## Digits -/

theorem toNat_of_isDigit {c : Char} (digit : c.isDigit = true) :
    48 ≤ c.toNat ∧ c.toNat ≤ 57 := by
  simpa [Char.isDigit, Char.le_def, UInt32.le_iff_toNat_le] using digit

/-- Between the space and the second set of controls there are no blanks. -/
theorem isBlank_of_bounds {c : Char} (low : 0x20 < c.toNat) (high : c.toNat < 0x85) :
    isBlank c = false := by
  have beyond : ¬c.toNat ≤ 0xD ∧ ¬c.toNat ≤ 0x20 := by omega
  simp [isBlank, inRanges, blankRanges, beyond, high]

theorem isBlank_of_isDigit {c : Char} (digit : c.isDigit = true) : isBlank c = false := by
  have bounds := toNat_of_isDigit digit
  exact isBlank_of_bounds (by omega) (by omega)

/-- Visible characters of a class to which none of the listed ones belongs need no quoting. -/
theorem isSpecial_of_bounds
    {c : Char}
    (kind : Char → Bool)
    (member : kind c = true)
    (apart : ['{', '}', '[', ']', '$', '"', ';', '\\'].all (!kind ·) = true)
    (low : 0x20 < c.toNat)
    (high : c.toNat < 0x85) :
    ListText.isSpecial c = false := by
  have unlisted : ['{', '}', '[', ']', '$', '"', ';', '\\'].contains c = false := by
    by_contra listed
    rw [Bool.not_eq_false, List.contains_iff_mem] at listed
    have excluded := List.all_eq_true.mp apart c listed
    rw [member] at excluded
    cases excluded
  rw [ListText.isSpecial, isBlank_of_bounds low high, unlisted]
  rfl

theorem isSpecial_of_isDigit {c : Char} (digit : c.isDigit = true) :
    ListText.isSpecial c = false := by
  have bounds := toNat_of_isDigit digit
  exact isSpecial_of_bounds Char.isDigit digit (by decide) (by omega) (by omega)

theorem digitValue?_of_isDigit {c : Char} (digit : c.isDigit = true) :
    digitValue? c = some (c.toNat - '0'.toNat) := by
  have bounds : '0' ≤ c ∧ c ≤ '9' := by
    simpa [Char.isDigit, Char.le_def] using digit
  rw [digitValue?, if_pos bounds]

theorem isDigitOf_of_isDigit {c : Char} (digit : c.isDigit = true) : isDigitOf 10 c = true := by
  have bounds := toNat_of_isDigit digit
  have small : c.toNat - '0'.toNat < 10 := by
    have zero : '0'.toNat = 48 := rfl
    omega
  rw [isDigitOf, digitValue?_of_isDigit digit]
  exact decide_eq_true small

/-! ## Decimal forms -/

/-- The characters of the decimal form of a number. -/
theorem toList_toString (number : Nat) : (toString number).toList = Nat.toDigits 10 number := by
  rw [Nat.toString_eq_ofList_toDigits, String.toList_ofList]

theorem isDigit_of_mem_toString {number : Nat} {c : Char}
    (member : c ∈ (toString number).toList) : c.isDigit = true :=
  Nat.isDigit_of_mem_toDigits (by decide) (by decide) (toList_toString number ▸ member)

theorem trim_of_isBlank_eq_false
    {cs : List Char}
    (noBlank : ∀ c ∈ cs, isBlank c = false) :
    trim cs = cs :=
  trim_eq_self (fun c isHead => noBlank c (List.mem_of_head? isHead))
    fun c isLast => noBlank c (List.mem_of_getLast? isLast)

theorem natOfDigits_of_isDigit
    {digits : List Char}
    (all : ∀ c ∈ digits, c.isDigit = true) :
    natOfDigits 10 digits = Nat.ofDigitChars 10 digits 0 := by
  rw [natOfDigits, Nat.ofDigitChars_eq_foldl]
  apply List.foldl_ext
  intro value c member
  rw [digitValue?_of_isDigit (all c member), Option.getD_some, Nat.mul_comm]

theorem takeSign_of_isDigit
    {digits : List Char}
    (all : ∀ c ∈ digits, c.isDigit = true) :
    takeSign digits = (false, digits) := by
  unfold takeSign
  split
  · exact absurd (all '-' List.mem_cons_self) (by decide)
  · exact absurd (all '+' List.mem_cons_self) (by decide)
  · rfl

theorem takeRadix_of_isDigit
    {digits : List Char}
    (all : ∀ c ∈ digits, c.isDigit = true) :
    takeRadix digits = (10, digits) := by
  unfold takeRadix
  split
  all_goals
    first
    | rfl
    | exact absurd (all _ (List.mem_cons_of_mem _ List.mem_cons_self)) (by decide)

theorem natOfDigits_toString (number : Nat) :
    natOfDigits 10 (toString number).toList = number := by
  have digits : ∀ c ∈ (toString number).toList, c.isDigit = true :=
    fun _ member => isDigit_of_mem_toString member
  rw [natOfDigits_of_isDigit digits, toList_toString, Nat.ofDigitChars_ten_toDigits]

/-- The decimal form of a number is read as the number. -/
theorem readInt?_toString (number : Nat) :
    readInt? (toString number).toList = some (number : Int) := by
  have digits : ∀ c ∈ (toString number).toList, c.isDigit = true :=
    fun _ member => isDigit_of_mem_toString member
  have nonempty : (toString number).toList.isEmpty = false := by
    rw [toList_toString, List.isEmpty_eq_false_iff]
    exact Nat.toDigits_ne_nil
  have allDigits : (toString number).toList.all (isDigitOf 10) = true :=
    List.all_eq_true.mpr fun c member => isDigitOf_of_isDigit (digits c member)
  rw [readInt?, trim_of_isBlank_eq_false fun c member => isBlank_of_isDigit (digits c member),
    takeSign_of_isDigit digits]
  dsimp only
  rw [takeRadix_of_isDigit digits]
  dsimp only
  rw [nonempty, allDigits, natOfDigits_toString]
  rfl

/-- A number that fits into 64 bits is read as it is. -/
theorem readWord?_toString {number : Nat} (fits : (number : Int) ≤ Int64.maxValue.toInt) :
    ∃ word, readWord? (toString number) = some word ∧ word.toInt = number := by
  have negative : Int64.minValue.toInt ≤ 0 := by decide
  have greatest : Int64.maxValue.toInt = 0x7FFFFFFFFFFFFFFF := rfl
  have bounds : Int64.minValue.toInt ≤ (number : Int) ∧ (number : Int) ≤ Int64.maxValue.toInt := by
    omega
  refine ⟨Int64.ofInt number, ?_, Int64.toInt_ofInt_of_le (by omega) (by omega)⟩
  rw [readWord?, readInt?_toString, Option.bind_some, wordOfInt?, if_pos bounds]

end ScriptBridge.Numeral
