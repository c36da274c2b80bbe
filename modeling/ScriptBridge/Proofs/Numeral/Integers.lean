import Mathlib.Data.Nat.Digits.Defs
import ScriptBridge.FromText
import ScriptBridge.Proofs.Numeral.Decimals

/-!
# Spelled integers

An integer is spelled with an optional sign, an optional mark of its radix and at least one digit,
and with any blanks around it. The reader accepts these spellings and no others, and gives the
integer they stand for if the type that is asked for holds it; otherwise it is an error of
conversion. The spellings of a number in all radixes are read back as the number.
-/

namespace ScriptBridge.Numeral

open Text

/-! ## The grammar -/

inductive Radix where
  | binary | octal | decimal | hexadecimal
  deriving Repr, DecidableEq

namespace Radix

def base : Radix → Nat
  | binary => 2
  | octal => 8
  | decimal => 10
  | hexadecimal => 16

/-- How a number of the radix is marked; a decimal one is not. -/
def marks : Radix → List (List Char)
  | binary => [['0', 'b'], ['0', 'B']]
  | octal => [['0', 'o'], ['0', 'O']]
  | decimal => [[]]
  | hexadecimal => [['0', 'x'], ['0', 'X']]

end Radix

/-- All digits, each at the place of its value. -/
def digitAlphabet : List Char :=
  ['0', '1', '2', '3', '4', '5', '6', '7', '8', '9', 'a', 'b', 'c', 'd', 'e', 'f']

/-- The value of a digit, a letter counting in either case. What is no digit has the value 16. -/
def digitPlace (c : Char) : Nat :=
  digitAlphabet.idxOf c.toLower

inductive SignMark where
  | none | plus | minus
  deriving Repr, DecidableEq

namespace SignMark

def text : SignMark → List Char
  | none => []
  | plus => ['+']
  | minus => ['-']

def isMinus : SignMark → Bool
  | minus => true
  | none | plus => false

def apply (sign : SignMark) (magnitude : Nat) : Int :=
  if sign.isMinus then -magnitude else magnitude

end SignMark

/-- How an integer is spelled: blanks, a sign, a mark of the radix and digits, and blanks. -/
structure Spelling where
  before : List Char
  sign : SignMark
  radix : Radix
  mark : List Char
  digits : List Char
  after : List Char
  blankBefore : ∀ c ∈ before, isBlank c = true
  isMark : mark ∈ radix.marks
  nonempty : digits ≠ []
  areDigits : ∀ c ∈ digits, digitPlace c < radix.base
  blankAfter : ∀ c ∈ after, isBlank c = true

namespace Spelling

def core (spelling : Spelling) : List Char :=
  spelling.sign.text ++ (spelling.mark ++ spelling.digits)

def text (spelling : Spelling) : String :=
  String.ofList (spelling.before ++ (spelling.core ++ spelling.after))

def value (spelling : Spelling) : Int :=
  spelling.sign.apply (Nat.ofDigits spelling.radix.base (spelling.digits.reverse.map digitPlace))

end Spelling

def Spells (text : String) (value : Int) : Prop :=
  ∃ spelling : Spelling, spelling.text = text ∧ spelling.value = value

/-! ## Digits -/

/-- What holds of the first 128 characters and of all behind them holds of all characters. -/
theorem forall_char_of_ascii
    {property : Char → Prop}
    (ascii : ∀ code < 128, property (Char.ofNat code))
    (beyond : ∀ c : Char, 128 ≤ c.toNat → property c)
    (c : Char) :
    property c := by
  by_cases inside : c.toNat < 128
  · rw [← Char.ofNat_toNat c]
    exact ascii c.toNat inside
  · exact beyond c (Nat.le_of_not_lt inside)

theorem toLower_of_beyond {c : Char} (beyond : 128 ≤ c.toNat) : c.toLower = c := by
  have notUpper : ¬(65 ≤ c.val ∧ c.val ≤ 90) := by
    simp only [UInt32.le_iff_toNat_le]
    intro bounds
    have last : c.toNat ≤ 90 := bounds.2
    omega
  exact dif_neg notUpper

/-- Behind the first 128 characters there are no digits. -/
theorem digitPlace_of_beyond {c : Char} (beyond : 128 ≤ c.toNat) : digitPlace c = 16 := by
  have unlisted : c ∉ digitAlphabet := by
    intro member
    have ascii : digitAlphabet.all (·.toNat < 128) = true := by decide
    have small := of_decide_eq_true (List.all_eq_true.mp ascii c member)
    omega
  rw [digitPlace, toLower_of_beyond beyond, List.idxOf_eq_length unlisted]
  rfl

theorem digitValue?_of_beyond {c : Char} (beyond : 128 ≤ c.toNat) : digitValue? c = none := by
  have above {last : Char} (ascii : last.toNat < 128) : ¬c ≤ last := by
    intro within
    have bound : c.toNat ≤ last.toNat := within
    omega
  have notDigit : ¬c ≤ '9' := above (by decide)
  have notSmall : ¬c ≤ 'z' := above (by decide)
  have notLarge : ¬c ≤ 'Z' := above (by decide)
  simp [digitValue?, notDigit, notSmall, notLarge]

/-- A digit is none of the characters around it. -/
theorem isBlank_of_digitPlace {c : Char} (isDigit : digitPlace c < 16) :
    isBlank c = false ∧ c ≠ '-' ∧ c ≠ '+' := by
  revert c
  apply forall_char_of_ascii
  · decide
  · intro c beyond isDigit
    rw [digitPlace_of_beyond beyond] at isDigit
    exact absurd isDigit (by decide)

theorem isDigit_of_digitPlace {c : Char} (isDecimal : digitPlace c < 10) : c.isDigit = true := by
  revert c
  apply forall_char_of_ascii
  · decide
  · intro c beyond isDecimal
    rw [digitPlace_of_beyond beyond] at isDecimal
    exact absurd isDecimal (by decide)

theorem digitValue?_of_digitPlace {c : Char} (isDigit : digitPlace c < 16) :
    digitValue? c = some (digitPlace c) := by
  revert c
  apply forall_char_of_ascii
  · decide
  · intro c beyond isDigit
    rw [digitPlace_of_beyond beyond] at isDigit
    exact absurd isDigit (by decide)

theorem isDigitOf_iff (radix : Radix) (c : Char) :
    isDigitOf radix.base c = true ↔ digitPlace c < radix.base := by
  revert c
  apply forall_char_of_ascii
  · cases radix <;> decide
  · intro c beyond
    have notDigit : ¬16 < radix.base := by cases radix <;> decide
    simp [isDigitOf, digitValue?_of_beyond beyond, digitPlace_of_beyond beyond, notDigit]

theorem base_bounds (radix : Radix) : 1 < radix.base ∧ radix.base ≤ 16 := by
  cases radix <;> decide

theorem natOfDigits_eq_ofDigits
    {radix : Radix}
    {digits : List Char}
    (areDigits : ∀ c ∈ digits, digitPlace c < radix.base) :
    natOfDigits radix.base digits =
      Nat.ofDigits radix.base (digits.reverse.map digitPlace) := by
  have bound := (base_bounds radix).2
  rw [natOfDigits, Nat.ofDigits_eq_foldr, List.foldr_map, List.foldr_reverse]
  apply List.foldl_ext
  intro value c member
  have small := areDigits c member
  rw [digitValue?_of_digitPlace (by omega), Option.getD_some, Nat.mul_comm, Nat.add_comm]
  rfl

/-! ## Parts of a spelling -/

theorem takeSign_append
    (sign : SignMark)
    {body : List Char}
    (unsigned : ∀ c ∈ body.head?, c ≠ '-' ∧ c ≠ '+') :
    takeSign (sign.text ++ body) = (sign.isMinus, body) := by
  cases sign with
  | none =>
      cases body with
      | nil => rfl
      | cons c rest =>
          obtain ⟨notMinus, notPlus⟩ := unsigned c rfl
          simp [SignMark.text, SignMark.isMinus, takeSign, notMinus, notPlus]
  | plus => rfl
  | minus => rfl

theorem exists_takeSign (cs : List Char) :
    ∃ sign : SignMark, ∃ body,
      cs = sign.text ++ body ∧ takeSign cs = (sign.isMinus, body) := by
  unfold takeSign
  split
  · exact ⟨.minus, _, rfl, rfl⟩
  · exact ⟨.plus, _, rfl, rfl⟩
  · exact ⟨.none, _, rfl, rfl⟩

theorem takeRadix_append
    {radix : Radix}
    {mark digits : List Char}
    (isMark : mark ∈ radix.marks)
    (areDigits : ∀ c ∈ digits, digitPlace c < radix.base) :
    takeRadix (mark ++ digits) = (radix.base, digits) := by
  cases radix with
  | decimal =>
      simp only [Radix.marks, List.mem_singleton] at isMark
      subst isMark
      exact takeRadix_of_isDigit fun c member => isDigit_of_digitPlace (areDigits c member)
  | binary | octal | hexadecimal =>
      simp only [Radix.marks, List.mem_cons, List.not_mem_nil, or_false] at isMark
      rcases isMark with rfl | rfl <;> rfl

theorem exists_takeRadix (cs : List Char) :
    ∃ radix : Radix, ∃ mark ∈ radix.marks, ∃ digits,
      cs = mark ++ digits ∧ takeRadix cs = (radix.base, digits) := by
  unfold takeRadix
  split
  · exact ⟨.hexadecimal, ['0', 'x'], by simp [Radix.marks], _, rfl, rfl⟩
  · exact ⟨.hexadecimal, ['0', 'X'], by simp [Radix.marks], _, rfl, rfl⟩
  · exact ⟨.octal, ['0', 'o'], by simp [Radix.marks], _, rfl, rfl⟩
  · exact ⟨.octal, ['0', 'O'], by simp [Radix.marks], _, rfl, rfl⟩
  · exact ⟨.binary, ['0', 'b'], by simp [Radix.marks], _, rfl, rfl⟩
  · exact ⟨.binary, ['0', 'B'], by simp [Radix.marks], _, rfl, rfl⟩
  · exact ⟨.decimal, [], by simp [Radix.marks], _, rfl, rfl⟩

theorem mark_starts
    {radix : Radix}
    {mark : List Char}
    (isMark : mark ∈ radix.marks) :
    mark = [] ∨ mark.head? = some '0' := by
  revert mark
  cases radix <;> decide

namespace Spelling

variable (spelling : Spelling)

theorem digits_small : ∀ c ∈ spelling.digits, digitPlace c < 16 := by
  intro c member
  have small := spelling.areDigits c member
  have bound := (base_bounds spelling.radix).2
  omega

/-- Behind the sign stands a digit, be it that of the mark. -/
theorem head_small : ∀ c ∈ (spelling.mark ++ spelling.digits).head?, digitPlace c < 16 := by
  intro c isHead
  rcases mark_starts spelling.isMark with unmarked | starts
  · rw [unmarked, List.nil_append] at isHead
    exact spelling.digits_small c (List.mem_of_head? isHead)
  · rw [List.head?_append, starts, Option.some_or, Option.mem_some] at isHead
    rw [← isHead]
    decide

/-- Nothing is cut off from the sign, the mark and the digits. -/
theorem trim_core :
    trim (spelling.before ++ (spelling.core ++ spelling.after)) = spelling.core := by
  have body : spelling.mark ++ spelling.digits ≠ [] := by simp [spelling.nonempty]
  apply trim_between spelling.blankBefore spelling.blankAfter
  · simp [core, body]
  · intro c isHead
    cases sign : spelling.sign with
    | none =>
        simp only [core, sign, SignMark.text, List.nil_append] at isHead
        exact (isBlank_of_digitPlace (spelling.head_small c isHead)).1
    | plus | minus =>
        simp only [core, sign, SignMark.text, List.cons_append, List.head?_cons,
          Option.mem_some] at isHead
        rw [← isHead]
        decide
  · intro c isLast
    rw [core, List.getLast?_append_of_ne_nil _ body,
      List.getLast?_append_of_ne_nil _ spelling.nonempty] at isLast
    exact (isBlank_of_digitPlace (spelling.digits_small c (List.mem_of_getLast? isLast))).1

theorem readInt?_text : readInt? spelling.text.toList = some spelling.value := by
  have unsigned : ∀ c ∈ (spelling.mark ++ spelling.digits).head?, c ≠ '-' ∧ c ≠ '+' :=
    fun c isHead => (isBlank_of_digitPlace (spelling.head_small c isHead)).2
  have allDigits : spelling.digits.all (isDigitOf spelling.radix.base) = true :=
    List.all_eq_true.mpr fun c member => (isDigitOf_iff _ c).mpr (spelling.areDigits c member)
  simp only [readInt?, text, String.toList_ofList, spelling.trim_core]
  simp only [core, takeSign_append spelling.sign unsigned,
    takeRadix_append spelling.isMark spelling.areDigits, allDigits,
    natOfDigits_eq_ofDigits spelling.areDigits]
  simp [spelling.nonempty, value, SignMark.apply]

end Spelling

/-- Reading accepts the spellings of integers and gives their values, and nothing else. -/
theorem readInt?_eq_some_iff (text : String) (value : Int) :
    readInt? text.toList = some value ↔ Spells text value := by
  constructor
  · intro read
    obtain ⟨before, after, blankBefore, blankAfter, parts⟩ := exists_trim text.toList
    obtain ⟨sign, body, signed, foundSign⟩ := exists_takeSign (trim text.toList)
    obtain ⟨radix, mark, isMark, digits, marked, foundRadix⟩ := exists_takeRadix body
    simp only [readInt?, foundSign, foundRadix] at read
    by_cases malformed : (digits.isEmpty || !digits.all (isDigitOf radix.base)) = true
    · simp [malformed] at read
    · rw [if_neg malformed, Option.some.injEq] at read
      simp only [Bool.or_eq_true, not_or, List.isEmpty_iff, Bool.not_eq_true', Bool.not_eq_false,
        List.all_eq_true, isDigitOf_iff] at malformed
      obtain ⟨nonempty, areDigits⟩ := malformed
      rw [natOfDigits_eq_ofDigits areDigits] at read
      refine ⟨⟨before, sign, radix, mark, digits, after, blankBefore, isMark, nonempty, areDigits,
        blankAfter⟩, ?_, read⟩
      rw [Spelling.text, Spelling.core, ← marked, ← signed, ← parts, String.ofList_toList]
  · rintro ⟨spelling, rfl, rfl⟩
    exact spelling.readInt?_text

/-! ## Written integers -/

theorem digitPlace_digitChar {place : Nat} (small : place < 16) :
    digitPlace place.digitChar = place := by
  revert place
  decide

/-- The digits that are written for a number are digits of the radix. -/
theorem digitPlace_of_mem_toDigits
    {radix : Radix}
    {number : Nat}
    {c : Char}
    (member : c ∈ Nat.toDigits radix.base number) :
    digitPlace c < radix.base := by
  obtain ⟨above, bound⟩ := base_bounds radix
  induction number using Nat.strongRecOn with
  | _ number inductionHypothesis =>
      rw [Nat.toDigits_eq_if above] at member
      by_cases single : number < radix.base
      · rw [if_pos single, List.mem_singleton] at member
        rw [member, digitPlace_digitChar (by omega)]
        exact single
      · rw [if_neg single, List.mem_append, List.mem_singleton] at member
        have shorter : number / radix.base < number := Nat.div_lt_self (by omega) above
        have last : number % radix.base < radix.base := Nat.mod_lt _ (by omega)
        rcases member with front | rfl
        · exact inductionHypothesis _ shorter front
        · rw [digitPlace_digitChar (by omega)]
          exact last

/-- They have the value of the number. -/
theorem ofDigits_toDigits (radix : Radix) (number : Nat) :
    Nat.ofDigits radix.base ((Nat.toDigits radix.base number).reverse.map digitPlace) =
      number := by
  obtain ⟨above, bound⟩ := base_bounds radix
  induction number using Nat.strongRecOn with
  | _ number inductionHypothesis =>
      rw [Nat.toDigits_eq_if above]
      by_cases single : number < radix.base
      · rw [if_pos single]
        simp [digitPlace_digitChar (show number < 16 by omega)]
      · have shorter : number / radix.base < number := Nat.div_lt_self (by omega) above
        have last : number % radix.base < radix.base := Nat.mod_lt _ (by omega)
        rw [if_neg single, List.reverse_append, List.reverse_singleton, List.singleton_append,
          List.map_cons, Nat.ofDigits_cons, inductionHypothesis _ shorter,
          digitPlace_digitChar (by omega)]
        exact Nat.mod_add_div _ _

/-- The spelling of an integer in a radix, with blanks around it. -/
def Spelling.ofInt
    (number : Int)
    (radix : Radix)
    (mark : List Char)
    (isMark : mark ∈ radix.marks)
    (before after : List Char)
    (blankBefore : ∀ c ∈ before, isBlank c = true)
    (blankAfter : ∀ c ∈ after, isBlank c = true) : Spelling where
  before := before
  sign := if number < 0 then .minus else .none
  radix := radix
  mark := mark
  digits := Nat.toDigits radix.base number.natAbs
  after := after
  blankBefore := blankBefore
  isMark := isMark
  nonempty := Nat.toDigits_ne_nil
  areDigits := fun _ member => digitPlace_of_mem_toDigits member
  blankAfter := blankAfter

theorem Spelling.value_ofInt
    (number : Int)
    {radix : Radix}
    {mark before after : List Char}
    (isMark : mark ∈ radix.marks)
    (blankBefore : ∀ c ∈ before, isBlank c = true)
    (blankAfter : ∀ c ∈ after, isBlank c = true) :
    (ofInt number radix mark isMark before after blankBefore blankAfter).value = number := by
  simp only [value, ofInt, ofDigits_toDigits, SignMark.apply]
  by_cases negative : number < 0
  · simp only [negative, if_true, SignMark.isMinus]
    omega
  · simp only [negative, if_false, SignMark.isMinus, Bool.false_eq_true]
    omega

/-! ## Words -/

theorem wordOfInt?_eq_some_iff (value : Int) (word : Int64) :
    wordOfInt? value = some word ↔ value = word.toInt := by
  have least : Int64.minValue.toInt = -2 ^ 63 := rfl
  have greatest : Int64.maxValue.toInt = 2 ^ 63 - 1 := rfl
  unfold wordOfInt?
  constructor
  · intro found
    by_cases fits : Int64.minValue.toInt ≤ value ∧ value ≤ Int64.maxValue.toInt
    · rw [if_pos fits, Option.some.injEq] at found
      rw [← found, Int64.toInt_ofInt_of_le (by omega) (by omega)]
    · rw [if_neg fits] at found
      contradiction
  · rintro rfl
    rw [if_pos ⟨word.minValue_le_toInt, word.toInt_le⟩, Int64.ofInt_toInt]

theorem narrow?_eq_some_iff (wide : Int64) (word : Int32) :
    narrow? wide = some word ↔ wide = word.toInt64 := by
  have least : Int32.minValue.toInt = -2 ^ 31 := rfl
  have greatest : Int32.maxValue.toInt = 2 ^ 31 - 1 := rfl
  rw [← Int64.toInt_inj, Int32.toInt_toInt64]
  unfold narrow?
  constructor
  · intro found
    by_cases fits : Int32.minValue.toInt ≤ wide.toInt ∧ wide.toInt ≤ Int32.maxValue.toInt
    · rw [if_pos fits, Option.some.injEq] at found
      rw [← found, Int32.toInt_ofInt_of_le (by omega) (by omega)]
    · rw [if_neg fits] at found
      contradiction
  · intro same
    rw [same, if_pos ⟨word.minValue_le_toInt, word.toInt_le⟩, Int32.ofInt_toInt]

theorem readWord?_eq_some_iff (text : String) (word : Int64) :
    readWord? text = some word ↔ Spells text word.toInt := by
  simp only [readWord?, Option.bind_eq_some_iff, wordOfInt?_eq_some_iff, readInt?_eq_some_iff]
  simp

theorem fromText_word (text : String) :
    (fromText text : Except Failure Int64) =
      match readWord? text with
      | some word => .ok word
      | none => .error (.conversion (.noInteger text)) := rfl

theorem fromText_word_iff (text : String) (word : Int64) :
    fromText text = Except.ok (ε := Failure) word ↔ Spells text word.toInt := by
  rw [← readWord?_eq_some_iff, fromText_word]
  cases readWord? text <;> simp

theorem fromText_narrow (text : String) :
    (fromText text : Except Failure Int32) =
      match readWord? text with
      | some wide =>
          match narrow? wide with
          | some word => .ok word
          | none => .error (.conversion (.tooLarge text))
      | none => .error (.conversion (.noInteger text)) := by
  show (fromText text >>= _) = _
  rw [fromText_word]
  cases readWord? text with
  | none => rfl
  | some wide =>
      show (match narrow? wide with | some value => pure value | none => throw _) = _
      cases found : narrow? wide <;> simp only [found] <;> rfl

theorem fromText_narrow_iff (text : String) (word : Int32) :
    fromText text = Except.ok (ε := Failure) word ↔
      fromText text = Except.ok (ε := Failure) word.toInt64 := by
  rw [fromText_narrow, fromText_word]
  cases readWord? text with
  | none => simp
  | some wide =>
      simp only [Except.ok.injEq, ← narrow?_eq_some_iff]
      cases narrow? wide <;> simp

/-- Reading an integer accepts exactly the spellings of 64-bit integers, and gives their values; all
else is a fault of conversion that names the text. Narrow integers are those among them that fit
into 32 bits. Each integer is read back from every radix, with any blanks around it. -/
theorem integers_read_exactly :
    (∀ (text : String) (word : Int64),
      fromText text = Except.ok (ε := Failure) word ↔ Spells text word.toInt) ∧
    (∀ text : String, (∀ word : Int64, ¬Spells text word.toInt) →
      (fromText text : Except Failure Int64) = .error (.conversion (.noInteger text))) ∧
    (∀ (text : String) (word : Int32),
      fromText text = Except.ok (ε := Failure) word ↔
        fromText text = Except.ok (ε := Failure) word.toInt64) ∧
    (∀ text : String, (∀ word : Int32, ¬Spells text word.toInt) →
      ∃ fault, (fromText text : Except Failure Int32) = .error (.conversion fault)) ∧
    (∀ (word : Int64) (radix : Radix) (mark before after : List Char)
      (isMark : mark ∈ radix.marks)
      (blankBefore : ∀ c ∈ before, isBlank c = true)
      (blankAfter : ∀ c ∈ after, isBlank c = true),
      fromText (Spelling.ofInt word.toInt radix mark isMark before after blankBefore
        blankAfter).text = Except.ok (ε := Failure) word) := by
  refine ⟨fromText_word_iff, ?_, fromText_narrow_iff, ?_, ?_⟩
  · intro text unspelled
    cases read : readWord? text with
    | none => rw [fromText_word, read]
    | some word => exact absurd ((readWord?_eq_some_iff text word).mp read) (unspelled word)
  · intro text unspelled
    rw [fromText_narrow]
    cases read : readWord? text with
    | none => exact ⟨_, rfl⟩
    | some wide =>
        cases narrowed : narrow? wide with
        | none => exact ⟨.tooLarge text, by simp only [narrowed]⟩
        | some word =>
            have spelled := (readWord?_eq_some_iff text wide).mp read
            rw [(narrow?_eq_some_iff wide word).mp narrowed, Int32.toInt_toInt64] at spelled
            exact absurd spelled (unspelled word)
  · intro word radix mark before after isMark blankBefore blankAfter
    rw [fromText_word_iff]
    exact ⟨_, rfl, Spelling.value_ofInt _ isMark blankBefore blankAfter⟩

/-- The least integer in hexadecimal digits between two blanks, and the number behind the greatest
one, which no word is. -/
theorem integers_read_exactly_of_least :
    (fromText " -0x8000000000000000\n" : Except Failure Int64) = .ok Int64.minValue ∧
      (fromText "9223372036854775808" : Except Failure Int64) =
        .error (.conversion (.noInteger "9223372036854775808")) := by
  obtain ⟨-, refuses, -, -, readsBack⟩ := integers_read_exactly
  constructor
  · exact readsBack Int64.minValue .hexadecimal ['0', 'x'] [' '] ['\n'] (by decide)
      (List.forall_mem_singleton.mpr (by decide)) (List.forall_mem_singleton.mpr (by decide))
  · apply refuses
    intro word spelled
    have value : readInt? "9223372036854775808".toList = some (2 ^ 63) := by decide
    have small := word.toInt_lt
    rw [← readInt?_eq_some_iff, value, Option.some.injEq] at spelled
    omega

end ScriptBridge.Numeral
