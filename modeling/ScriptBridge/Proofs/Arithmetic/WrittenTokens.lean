import ScriptBridge.Arithmetic.Formula
import ScriptBridge.Proofs.Numeral.Decimals

/-!
# Written tokens

The tokens of a formula are written with single spaces between them. Cutting the text gives the same
tokens again, if each of them is written in a form of its kind and a function stands in front of a
parenthesis.
-/

namespace ScriptBridge.Arithmetic

open Text

/-! ## Signs -/

namespace Sign

def text : Sign → String
  | equal => "=="
  | notEqual => "!="
  | sameText => "eq"
  | otherText => "ne"
  | less => "<"
  | greater => ">"
  | lessEqual => "<="
  | greaterEqual => ">="
  | both => "&&"
  | either => "||"
  | plus => "+"
  | minus => "-"
  | times => "*"
  | divide => "/"
  | modulo => "%"
  | bang => "!"
  | tilde => "~"
  | question => "?"
  | colon => ":"

end Sign

/-! ## Forms of operands -/

def AreDigits (cs : List Char) : Prop :=
  ∀ c ∈ cs, c.isDigit = true

/-- The exponent of a number, which may be missing. -/
inductive ExponentForm : List Char → Prop where
  | missing : ExponentForm []
  | unsigned {mark : Char} {digits : List Char} :
      mark = 'e' ∨ mark = 'E' → AreDigits digits → digits ≠ [] → ExponentForm (mark :: digits)
  | signed {mark sign : Char} {digits : List Char} :
      mark = 'e' ∨ mark = 'E' → sign = '+' ∨ sign = '-' → AreDigits digits → digits ≠ [] →
        ExponentForm (mark :: sign :: digits)

/-- A number without a sign in decimal form, with or without a point and an exponent. -/
inductive DecimalForm : List Char → Prop where
  | whole {digits exponent : List Char} :
      AreDigits digits → digits ≠ [] → ExponentForm exponent → DecimalForm (digits ++ exponent)
  | pointed {digits fraction exponent : List Char} :
      AreDigits digits → AreDigits fraction → digits ≠ [] ∨ fraction ≠ [] →
        ExponentForm exponent → DecimalForm (digits ++ '.' :: (fraction ++ exponent))

/-- The characters of the name of a variable, where colons stand in pairs. -/
inductive NameForm : List Char → Prop where
  | nil : NameForm []
  | char {c : Char} {rest : List Char} :
      Token.isWordChar c = true → NameForm rest → NameForm (c :: rest)
  | colons {rest : List Char} : NameForm rest → NameForm (':' :: ':' :: rest)

/-- A dollar sign with the name of a variable, in braces or without. -/
inductive ReferenceForm : List Char → Prop where
  | plain {name : List Char} : NameForm name → name ≠ [] → ReferenceForm ('$' :: name)
  | braced {name : List Char} : '}' ∉ name → ReferenceForm ('$' :: '{' :: (name ++ ['}']))

/-- A word that starts with a letter or an underscore. The names of two operators are none. -/
structure FunctionForm (cs : List Char) : Prop where
  starts : ∃ c rest, cs = c :: rest ∧ (isAlphabetic c || c = '_') = true ∧
    ∀ other ∈ rest, Token.isWordChar other = true
  notOperator : cs ≠ ['e', 'q'] ∧ cs ≠ ['n', 'e']

/-! ## Tokens -/

namespace Token

def text : Token → String
  | literal text => text
  | source text => text
  | sign found => found.text
  | function name => name
  | openParen => "("
  | closeParen => ")"
  | comma => ","

/-- The token is written in a form of its kind. -/
def WellFormed : Token → Prop
  | literal text => DecimalForm text.toList
  | source text => ReferenceForm text.toList
  | function name => FunctionForm name.toList
  | _ => True

end Token

/-- The end of a text, or a space: what follows a written token. -/
def Apart : List Char → Prop
  | [] => True
  | c :: _ => c = ' '

theorem apart_cases {rest : List Char} (apart : Apart rest) :
    rest = [] ∨ ∃ more, rest = ' ' :: more := by
  cases rest with
  | nil => exact .inl rfl
  | cons c more => exact .inr ⟨more, by rw [show c = ' ' from apart]⟩

/-! ### Numbers -/

/-- What may follow a character in a number that is not hexadecimal: digits, letters and points, and
a sign directly behind an `e`. -/
inductive NumberTail : Char → List Char → Prop where
  | nil {before : Char} : NumberTail before []
  | plain {before c : Char} {rest : List Char} :
      c.isAlphanum = true ∨ c = '.' → NumberTail c rest → NumberTail before (c :: rest)
  | sign {before c : Char} {rest : List Char} :
      c = '+' ∨ c = '-' → before = 'e' ∨ before = 'E' → NumberTail c rest →
        NumberTail before (c :: rest)

theorem splitNumber_append
    {before : Char}
    {cs rest : List Char}
    (tail : NumberTail before cs)
    (apart : Apart rest) :
    Token.splitNumber false before (cs ++ rest) = (cs, rest) := by
  induction tail with
  | nil =>
      rcases apart_cases apart with rfl | ⟨more, rfl⟩
      · rfl
      · simp [Token.splitNumber, show ' '.isAlphanum = false by decide]
  | plain goesOn _ inductionHypothesis =>
      rw [List.cons_append, Token.splitNumber, inductionHypothesis]
      rcases goesOn with goesOn | goesOn <;> simp [goesOn]
  | sign isSign isExponent _ inductionHypothesis =>
      rw [List.cons_append, Token.splitNumber, inductionHypothesis]
      simp [isSign, isExponent]

theorem numberTail_digits
    {before : Char}
    {digits rest : List Char}
    (areDigits : AreDigits digits)
    (tail : ∀ last, NumberTail last rest) :
    NumberTail before (digits ++ rest) := by
  induction digits generalizing before with
  | nil => exact tail before
  | cons c digits inductionHypothesis =>
      have isDigit : c.isDigit = true := areDigits c List.mem_cons_self
      have isAlphanum : c.isAlphanum = true := by simp [Char.isAlphanum, isDigit]
      exact .plain (.inl isAlphanum) <|
        inductionHypothesis fun other member => areDigits other (List.mem_cons_of_mem c member)

theorem numberTail_exponent
    {before : Char}
    {exponent : List Char}
    (form : ExponentForm exponent) :
    NumberTail before exponent := by
  have isAlphanum {mark : Char} (isMark : mark = 'e' ∨ mark = 'E') : mark.isAlphanum = true := by
    rcases isMark with rfl | rfl <;> decide
  have ofDigits (last : Char) {digits : List Char} (areDigits : AreDigits digits) :
      NumberTail last digits := by
    have tail : NumberTail last (digits ++ []) := numberTail_digits areDigits fun _ => .nil
    rwa [List.append_nil] at tail
  cases form with
  | missing => exact .nil
  | unsigned isMark areDigits =>
      exact .plain (.inl (isAlphanum isMark)) (ofDigits _ areDigits)
  | signed isMark isSign areDigits =>
      exact .plain (.inl (isAlphanum isMark)) (.sign isSign isMark (ofDigits _ areDigits))

theorem not_mem_of_areDigits
    {digits : List Char}
    {c : Char}
    (areDigits : AreDigits digits)
    (notDigit : c.isDigit = false) :
    c ∉ digits := by
  intro member
  have isDigit := areDigits c member
  rw [notDigit] at isDigit
  cases isDigit

/-- No mark of a hexadecimal number stands in a decimal one. -/
theorem DecimalForm.not_mem
    {cs : List Char}
    {mark : Char}
    (form : DecimalForm cs)
    (isMark : mark = 'x' ∨ mark = 'X') :
    mark ∉ cs := by
  have notDigit : mark.isDigit = false := by rcases isMark with rfl | rfl <;> decide
  have apart : mark ≠ 'e' ∧ mark ≠ 'E' ∧ mark ≠ '+' ∧ mark ≠ '-' ∧ mark ≠ '.' := by
    rcases isMark with rfl | rfl <;> decide
  have ofExponent {exponent : List Char} (form : ExponentForm exponent) : mark ∉ exponent := by
    cases form with
    | missing => simp
    | unsigned isExponent areDigits =>
        have unmarked := not_mem_of_areDigits areDigits notDigit
        rcases isExponent with rfl | rfl <;> simp [apart, unmarked]
    | signed isExponent isSign areDigits =>
        have unmarked := not_mem_of_areDigits areDigits notDigit
        rcases isExponent with rfl | rfl <;> rcases isSign with rfl | rfl <;> simp [apart, unmarked]
  cases form with
  | whole areDigits _ exponent =>
      simp [not_mem_of_areDigits areDigits notDigit, ofExponent exponent]
  | pointed areDigits areFraction _ exponent =>
      simp [not_mem_of_areDigits areDigits notDigit, not_mem_of_areDigits areFraction notDigit,
        ofExponent exponent, apart]

/-- A decimal number starts as numbers do and goes on as one that is not hexadecimal. -/
theorem DecimalForm.starts
    {cs : List Char}
    (form : DecimalForm cs) :
    ∃ c behind, cs = c :: behind ∧ (∀ rest, Token.startsNumber c (behind ++ rest) = true) ∧
      NumberTail c behind := by
  have goesOn {digits exponent : List Char} (areDigits : AreDigits digits)
      (form : ExponentForm exponent) (last : Char) : NumberTail last (digits ++ exponent) :=
    numberTail_digits areDigits fun _ => numberTail_exponent form
  have pointGoesOn {digits exponent : List Char} (areDigits : AreDigits digits)
      (form : ExponentForm exponent) (last : Char) :
      NumberTail last ('.' :: (digits ++ exponent)) :=
    .plain (.inr rfl) (goesOn areDigits form '.')
  cases form with
  | @whole digits exponent areDigits nonempty exponentForm =>
      obtain ⟨c, digits, rfl⟩ := List.exists_cons_of_ne_nil nonempty
      have isDigit : c.isDigit = true := areDigits c List.mem_cons_self
      refine ⟨c, digits ++ exponent, rfl, fun rest => ?_, ?_⟩
      · simp [Token.startsNumber, isDigit]
      · exact goesOn (fun other member => areDigits other (List.mem_cons_of_mem c member))
          exponentForm c
  | @pointed digits fraction exponent areDigits areFraction nonempty exponentForm =>
      cases digits with
      | nil =>
          obtain ⟨c, fraction, rfl⟩ := List.exists_cons_of_ne_nil (nonempty.resolve_left (by simp))
          have isDigit : c.isDigit = true := areFraction c List.mem_cons_self
          refine ⟨'.', _, rfl, fun rest => ?_, goesOn areFraction exponentForm '.'⟩
          simp [Token.startsNumber, isDigit]
      | cons c digits =>
          have isDigit : c.isDigit = true := areDigits c List.mem_cons_self
          refine ⟨c, _, rfl, fun rest => ?_, ?_⟩
          · simp [Token.startsNumber, isDigit]
          · exact numberTail_digits
              (fun other member => areDigits other (List.mem_cons_of_mem c member))
              (pointGoesOn areFraction exponentForm)

/-! ### Cutting off a token -/

theorem isAlphabetic_of_ascii
    {c : Char}
    (ascii : c.toNat < 0xAA) :
    isAlphabetic c =
      decide (0x41 ≤ c.toNat ∧ c.toNat ≤ 0x5A ∨ 0x61 ≤ c.toNat ∧ c.toNat ≤ 0x7A) := by
  rw [isAlphabetic, alphabeticRanges, inRanges, inRanges, inRanges, if_pos ascii]
  grind

/-- The characters that are tokens or start one whatever follows them. -/
def openers : List Char :=
  ['(', ')', ',', '{', '"', '$', '[']

/-- None of them starts a number or a word. -/
theorem of_mem_openers
    {c : Char}
    (isOpener : c ∈ openers) :
    c.isDigit = false ∧ c ≠ '.' ∧ isAlphabetic c = false ∧ c ≠ '_' := by
  simp only [openers, List.mem_cons, List.not_mem_nil, or_false] at isOpener
  rcases isOpener with rfl | rfl | rfl | rfl | rfl | rfl | rfl <;>
    exact ⟨by decide, by decide, by rw [isAlphabetic_of_ascii (by decide)]; decide, by decide⟩

section Next

variable {text : String} {c : Char} {rest after : List Char}

theorem next_of_startsNumber
    (notOpener : c ∉ openers)
    (starts : Token.startsNumber c rest = true)
    {hexadecimal : Bool}
    (isHexadecimal : (rest.head? = some 'x' || rest.head? = some 'X') = hexadecimal)
    {number : List Char}
    (split : Token.splitNumber hexadecimal c rest = (number, after)) :
    Token.next text c rest = .ok (.literal (String.ofList (c :: number)), after) := by
  simp only [openers, List.mem_cons, List.not_mem_nil, or_false, not_or] at notOpener
  simp only [Token.next, notOpener, starts, isHexadecimal, split, if_false, if_true]

theorem next_of_startsWord
    (notOpener : c ∉ openers)
    (noNumber : Token.startsNumber c rest = false)
    (starts : (isAlphabetic c || c = '_') = true) :
    Token.next text c rest =
      (Token.ofWord (c :: rest.takeWhile Token.isWordChar)
        (rest.dropWhile Token.isWordChar)).map fun token =>
          (token, rest.dropWhile Token.isWordChar) := by
  simp only [openers, List.mem_cons, List.not_mem_nil, or_false, not_or] at notOpener
  simp only [Token.next, notOpener, noNumber, starts, Bool.false_eq_true, if_false, if_true]

theorem next_of_take?
    (notOpener : c ∉ openers)
    (noNumber : Token.startsNumber c rest = false)
    (noWord : (isAlphabetic c || c = '_') = false)
    {sign : Sign}
    (taken : Sign.take? (c :: rest) = some (sign, after)) :
    Token.next text c rest = .ok (.sign sign, after) := by
  simp only [openers, List.mem_cons, List.not_mem_nil, or_false, not_or] at notOpener
  simp only [Token.next, notOpener, noNumber, noWord, taken, Bool.false_eq_true, if_false]

end Next

theorem not_opener_of_startsNumber
    {c : Char}
    {rest : List Char}
    (starts : Token.startsNumber c rest = true) :
    c ∉ openers := by
  intro isOpener
  obtain ⟨notDigit, notPoint, -⟩ := of_mem_openers isOpener
  simp [Token.startsNumber, notDigit, notPoint] at starts

theorem isBlank_of_startsNumber
    {c : Char}
    {rest : List Char}
    (starts : Token.startsNumber c rest = true) :
    isBlank c = false := by
  simp only [Token.startsNumber, Bool.or_eq_true, Bool.and_eq_true, decide_eq_true_eq] at starts
  rcases starts with isDigit | ⟨rfl, -⟩
  · exact Numeral.isBlank_of_isDigit isDigit
  · decide

/-- The token is cut off from the text that it starts. -/
def CutsOff (token : Token) (cs rest : List Char) : Prop :=
  ∃ c behind, cs = c :: behind ∧ isBlank c = false ∧
    ∀ text, Token.next text c (behind ++ rest) = .ok (token, rest)

theorem cutsOff_number
    {cs rest : List Char}
    (form : DecimalForm cs)
    (apart : Apart rest) :
    CutsOff (.literal (String.ofList cs)) cs rest := by
  obtain ⟨c, behind, rfl, starts, tail⟩ := form.starts
  have noMark {mark : Char} (isMark : mark = 'x' ∨ mark = 'X') :
      (behind ++ rest).head? ≠ some mark := by
    have unmarked := form.not_mem isMark
    cases behind with
    | nil =>
        rcases apart_cases apart with rfl | ⟨more, rfl⟩
        · simp
        · rcases isMark with rfl | rfl <;> simp
    | cons next behind =>
        intro same
        simp_all
  have notHexadecimal :
      ((behind ++ rest).head? = some 'x' || (behind ++ rest).head? = some 'X') = false := by
    rw [decide_eq_false (noMark (.inl rfl)), decide_eq_false (noMark (.inr rfl))]
    rfl
  refine ⟨c, behind, rfl, isBlank_of_startsNumber (starts rest), fun text => ?_⟩
  exact next_of_startsNumber (not_opener_of_startsNumber (starts rest)) (starts rest)
    notHexadecimal (splitNumber_append tail apart)

/-! ### References -/

theorem takeName_append_of_apart
    {name rest : List Char}
    (form : NameForm name)
    (apart : Apart rest) :
    takeName (name ++ rest) = (name, rest) := by
  induction form with
  | nil =>
      rcases apart_cases apart with rfl | ⟨more, rfl⟩
      · rfl
      · simp [takeName, show isAlphanumeric ' ' = false by decide]
  | @char c name isWordChar _ inductionHypothesis =>
      have notColon : c ≠ ':' := by
        rintro rfl
        exact absurd isWordChar (by decide)
      have isName : (isAlphanumeric c || c = '_') = true := isWordChar
      rw [List.cons_append, takeName.eq_3 _ _ fun _ isColon _ => notColon isColon, if_pos isName,
        inductionHypothesis]
  | colons _ inductionHypothesis =>
      rw [List.cons_append, List.cons_append, takeName, inductionHypothesis]

theorem splitAtBrace_of_not_mem
    {name : List Char}
    (unclosed : '}' ∉ name)
    (rest : List Char) :
    splitAtBrace (name ++ '}' :: rest) = some (name, rest) := by
  induction name with
  | nil => rfl
  | cons c name inductionHypothesis =>
      simp only [List.mem_cons, not_or] at unclosed
      rw [List.cons_append, splitAtBrace, inductionHypothesis unclosed.2]
      · rfl
      · exact fun isClose => unclosed.1 isClose.symm

theorem cutsOff_reference
    {cs rest : List Char}
    (form : ReferenceForm cs)
    (apart : Apart rest) :
    CutsOff (.source (String.ofList cs)) cs rest := by
  cases form with
  | @plain name nameForm nonempty =>
      refine ⟨'$', name, rfl, by decide, fun text => ?_⟩
      have split : Token.splitName (name ++ rest) = some (name, rest) := by
        have notBrace : ∀ behind, name ++ rest ≠ '{' :: behind := by
          intro behind same
          cases nameForm with
          | nil => exact nonempty rfl
          | @char c name isWordChar =>
              obtain ⟨rfl, -⟩ := List.cons.inj same
              exact absurd isWordChar (by decide)
          | colons => cases same
        unfold Token.splitName
        split
        · rename_i behind same
          exact absurd same (notBrace behind)
        · rw [takeName_append_of_apart nameForm apart]
      simp [Token.next, Token.operand, split]
  | @braced name unclosed =>
      refine ⟨'$', _, rfl, by decide, fun text => ?_⟩
      have split : Token.splitName ('{' :: (name ++ ['}']) ++ rest) =
          some ('{' :: (name ++ ['}']), rest) := by
        have found := splitAtBrace_of_not_mem unclosed rest
        simp [Token.splitName, found]
      simp only [Token.next, Token.operand, split]
      simp

/-! ### Words and signs -/

/-- The code points of a range table. -/
def codesOf (ranges : List (Nat × Nat)) : List Nat :=
  ranges.flatMap fun range => List.range' range.1 (range.2 + 1 - range.1)

theorem mem_codesOf
    {ranges : List (Nat × Nat)}
    {code : Nat}
    (inside : inRanges ranges code = true) :
    code ∈ codesOf ranges := by
  induction ranges with
  | nil => cases inside
  | cons range ranges inductionHypothesis =>
      rw [codesOf, List.flatMap_cons, List.mem_append]
      rw [inRanges] at inside
      by_cases below : code < range.1
      · simp [below] at inside
      · by_cases within : code ≤ range.2
        · left
          rw [List.mem_range'_1]
          omega
        · right
          simp only [below, within, if_false] at inside
          exact inductionHypothesis inside

theorem isAlphabetic_of_isBlank
    {c : Char}
    (blank : isBlank c = true) :
    isAlphabetic c = false := by
  have noLetter : (codesOf blankRanges).all (!inRanges alphabeticRanges ·) = true := by
    decide +kernel
  have apart := List.all_eq_true.mp noLetter c.toNat (mem_codesOf blank)
  simpa [isAlphabetic] using apart

theorem isBlank_of_isAlphabetic
    {c : Char}
    (letter : isAlphabetic c = true) :
    isBlank c = false := by
  by_contra blank
  rw [Bool.not_eq_false] at blank
  rw [isAlphabetic_of_isBlank blank] at letter
  cases letter

def isSmallLetter (c : Char) : Bool :=
  0x61 ≤ c.toNat && c.toNat ≤ 0x7A

theorem isAlphabetic_of_isSmallLetter
    {c : Char}
    (small : isSmallLetter c = true) :
    isAlphabetic c = true := by
  simp only [isSmallLetter, Bool.and_eq_true, decide_eq_true_eq] at small
  rw [isAlphabetic_of_ascii (by omega), decide_eq_true_eq]
  omega

/-- Small letters make a word. -/
theorem word_of_isSmallLetter
    {c : Char}
    {rest : List Char}
    (small : (c :: rest).all isSmallLetter = true) :
    (isAlphabetic c || c = '_') = true ∧ ∀ other ∈ rest, Token.isWordChar other = true := by
  simp only [List.all_cons, Bool.and_eq_true, List.all_eq_true] at small
  obtain ⟨first, others⟩ := small
  refine ⟨by simp [isAlphabetic_of_isSmallLetter first], fun other member => ?_⟩
  simp [Token.isWordChar, isAlphanumeric, isAlphabetic_of_isSmallLetter (others other member)]

theorem isAlphabetic_of_isDigit
    {c : Char}
    (digit : c.isDigit = true) :
    isAlphabetic c = false := by
  have bounds := Numeral.toNat_of_isDigit digit
  rw [isAlphabetic_of_ascii (by omega), decide_eq_false_iff_not]
  omega

/-- A word is a token of its own kind, whatever that is. -/
theorem next_word
    {c : Char}
    {behind rest : List Char}
    (starts : (isAlphabetic c || c = '_') = true)
    (goesOn : ∀ other ∈ behind, Token.isWordChar other = true)
    (apart : Apart rest)
    (text : String) :
    Token.next text c (behind ++ rest) =
      (Token.ofWord (c :: behind) rest).map fun token => (token, rest) := by
  have isStart : isAlphabetic c = true ∨ c = '_' := by simpa using starts
  have notOpener : c ∉ openers := by
    intro isOpener
    obtain ⟨-, -, noLetter, notUnderscore⟩ := of_mem_openers isOpener
    simp [noLetter, notUnderscore] at isStart
  have noNumber : Token.startsNumber c (behind ++ rest) = false := by
    have notDigit : c.isDigit = false := by
      rcases isStart with isLetter | rfl
      · by_contra isDigit
        rw [Bool.not_eq_false] at isDigit
        rw [isAlphabetic_of_isDigit isDigit] at isLetter
        cases isLetter
      · decide
    have notPoint : c ≠ '.' := by
      rintro rfl
      exact absurd starts (by decide)
    simp [Token.startsNumber, notDigit, notPoint]
  have stops : rest.takeWhile Token.isWordChar = [] ∧ rest.dropWhile Token.isWordChar = rest := by
    have noSpace : Token.isWordChar ' ' = false := by decide
    rcases apart_cases apart with rfl | ⟨more, rfl⟩
    · exact ⟨rfl, rfl⟩
    · simp [noSpace]
  rw [next_of_startsWord notOpener noNumber starts, List.takeWhile_append_of_pos goesOn,
    List.dropWhile_append_of_pos goesOn, stops.1, stops.2, List.append_nil]

theorem cutsOff_function
    {cs rest : List Char}
    (form : FunctionForm cs)
    (apart : Apart rest)
    (called : (trimLeft rest).head? = some '(') :
    CutsOff (.function (String.ofList cs)) cs rest := by
  obtain ⟨⟨c, behind, rfl, starts, goesOn⟩, notEq, notNe⟩ := form
  have isStart : isAlphabetic c = true ∨ c = '_' := by simpa using starts
  have notBlank : isBlank c = false := by
    rcases isStart with letter | rfl
    · exact isBlank_of_isAlphabetic letter
    · decide
  have noOperator {name : String} (differs : c :: behind ≠ name.toList) :
      String.ofList (c :: behind) ≠ name := by
    rintro rfl
    exact differs String.toList_ofList.symm
  have nameNotEq : String.ofList (c :: behind) ≠ "eq" := noOperator notEq
  have nameNotNe : String.ofList (c :: behind) ≠ "ne" := noOperator notNe
  refine ⟨c, behind, rfl, notBlank, fun text => ?_⟩
  rw [next_word starts goesOn apart, Token.ofWord]
  simp only [if_neg nameNotEq, if_neg nameNotNe, if_pos called, Except.map]

theorem cutsOff_sign
    (sign : Sign)
    {rest : List Char}
    (apart : Apart rest) :
    CutsOff (.sign sign) sign.text.toList rest := by
  have ofSymbol {c : Char} {behind : List Char}
      (isSymbol : c ∉ openers ∧ c.isDigit = false ∧ c ≠ '.' ∧ isBlank c = false ∧
        (isAlphabetic c || c = '_') = false)
      (taken : Sign.take? (c :: (behind ++ rest)) = some (sign, rest)) :
      CutsOff (.sign sign) (c :: behind) rest := by
    obtain ⟨notOpener, notDigit, notPoint, notBlank, noWord⟩ := isSymbol
    have noNumber : Token.startsNumber c (behind ++ rest) = false := by
      simp [Token.startsNumber, notDigit, notPoint]
    exact ⟨c, behind, rfl, notBlank, fun text => next_of_take? notOpener noNumber noWord taken⟩
  have ofWord {c : Char} {behind : List Char}
      (small : (c :: behind).all isSmallLetter = true)
      (read : Token.ofWord (c :: behind) rest = .ok (.sign sign)) :
      CutsOff (.sign sign) (c :: behind) rest := by
    have letter := isAlphabetic_of_isSmallLetter (List.all_eq_true.mp small c List.mem_cons_self)
    obtain ⟨starts, goesOn⟩ := word_of_isSmallLetter small
    refine ⟨c, behind, rfl, isBlank_of_isAlphabetic letter, fun text => ?_⟩
    rw [next_word starts goesOn apart, read]
    rfl
  cases sign
  case sameText => exact ofWord (by decide) rfl
  case otherText => exact ofWord (by decide) rfl
  all_goals
    refine ofSymbol (by decide) ?_
    rcases apart_cases apart with rfl | ⟨more, rfl⟩ <;> rfl

/-! ## Texts of tokens -/

/-- A function stands in front of a parenthesis, and each token has a form of its kind. -/
inductive Spelled : List Token → Prop where
  | nil : Spelled []
  | cons {token : Token} {rest : List Token} :
      token.WellFormed → (∀ name, token = .function name → rest.head? = some .openParen) →
        Spelled rest → Spelled (token :: rest)

/-- The characters of the tokens, with a space in front of each. -/
def spaced (found : List Token) : List Char :=
  found.flatMap fun token => ' ' :: token.text.toList

theorem apart_spaced (found : List Token) : Apart (spaced found) := by
  cases found with
  | nil => trivial
  | cons token rest => rfl

theorem cutsOff_of_wellFormed
    {token : Token}
    {rest : List Char}
    (wellFormed : token.WellFormed)
    (apart : Apart rest)
    (called : ∀ name, token = .function name → (trimLeft rest).head? = some '(') :
    CutsOff token token.text.toList rest := by
  cases token with
  | literal text =>
      have cut := cutsOff_number wellFormed apart
      rwa [String.ofList_toList] at cut
  | source text =>
      have cut := cutsOff_reference wellFormed apart
      rwa [String.ofList_toList] at cut
  | function name =>
      have cut := cutsOff_function wellFormed apart (called name rfl)
      rwa [String.ofList_toList] at cut
  | sign sign => exact cutsOff_sign sign apart
  | openParen => exact ⟨'(', [], rfl, by decide, fun _ => rfl⟩
  | closeParen => exact ⟨')', [], rfl, by decide, fun _ => rfl⟩
  | comma => exact ⟨',', [], rfl, by decide, fun _ => rfl⟩

theorem tokensFrom_cons
    {text : String}
    {token : Token}
    {cs rest : List Char}
    {found : List Token}
    (cut : CutsOff token cs rest)
    (tail : tokensFrom text rest = .ok found) :
    tokensFrom text (cs ++ rest) = .ok (token :: found) := by
  obtain ⟨c, behind, rfl, notBlank, next⟩ := cut
  rw [List.cons_append, tokensFrom, if_neg (by simp [notBlank])]
  split
  · rename_i fault failed
    rw [next text] at failed
    cases failed
  · rename_i first after step
    rw [next text] at step
    cases step
    rw [tail]
    rfl

theorem tokensFrom_space (text : String) (cs : List Char) :
    tokensFrom text (' ' :: cs) = tokensFrom text cs := by
  rw [tokensFrom, if_pos (by decide)]

theorem tokensFrom_spaced
    {found : List Token}
    (spelled : Spelled found)
    (text : String) :
    tokensFrom text (spaced found) = .ok found := by
  induction spelled with
  | nil => rw [spaced, List.flatMap_nil, tokensFrom]
  | @cons token rest wellFormed inFront _ inductionHypothesis =>
      rw [spaced, List.flatMap_cons, List.cons_append, tokensFrom_space]
      refine tokensFrom_cons (cutsOff_of_wellFormed wellFormed (apart_spaced rest) ?_)
        inductionHypothesis
      rintro name rfl
      obtain ⟨others, rfl⟩ : ∃ others, rest = .openParen :: others := by
        have paren := inFront name rfl
        cases rest with
        | nil => cases paren
        | cons first others => exact ⟨others, by rw [Option.some.inj paren]⟩
      rfl

theorem space_cons_intercalate
    (first : Token)
    (rest : List Token) :
    ' ' :: (" ".intercalate ((first :: rest).map Token.text)).toList = spaced (first :: rest) := by
  rw [String.toList_intercalate]
  induction rest generalizing first with
  | nil => simp [spaced]
  | cons second rest inductionHypothesis =>
      have tail := inductionHypothesis second
      simp only [List.map_cons, List.intercalate_cons_cons] at tail ⊢
      rw [spaced, List.flatMap_cons, ← spaced, ← tail]
      simp

/-- Cutting the written tokens gives them again. -/
theorem tokens_intercalate
    {found : List Token}
    (spelled : Spelled found) :
    tokens (" ".intercalate (found.map Token.text)) = .ok found := by
  cases found with
  | nil => exact tokensFrom.eq_1 _
  | cons first rest =>
      rw [tokens, ← tokensFrom_space, space_cons_intercalate]
      exact tokensFrom_spaced spelled _

end ScriptBridge.Arithmetic
