import ScriptBridge.Proofs.Arithmetic.Operands
import ScriptBridge.Proofs.Numeral.WrittenNumbers

/-!
# Comparing texts

The operators that compare texts get values, which have been told apart by what their texts spell. A
number is written out again for the comparison, so that different spellings of a number are the same
text then. All other texts are compared as they are.
-/

namespace ScriptBridge.Arithmetic

open Text Numeral ListText

variable {Key Host : Type} {machine : Machine Key Host}

/-! ## Values as texts -/

/-- How the number that a text spells is written out, if it spells one. -/
def writtenNumber? (text : String) : Option String :=
  match readWord? text, readFloat? text with
  | some value, _ => some (formatWord value)
  | none, some value => some (formatFloat value)
  | none, none => none

/-- The texts are the same one, or they spell numbers that are written in the same way. -/
def Alike (left right : String) : Prop :=
  left = right ∨ ∃ written, writtenNumber? left = some written ∧ writtenNumber? right = some written

theorem toText_ofText (text : String) :
    (Value.ofText text).toText = (writtenNumber? text).getD text := by
  unfold Value.ofText writtenNumber?
  cases readWord? text with
  | some value => rfl
  | none => cases readFloat? text <;> rfl

theorem writtenNumber?_eq_none_iff {text : String} :
    writtenNumber? text = none ↔ readFloat? text = none := by
  unfold writtenNumber? readFloat?
  cases readWord? text with
  | some value => simp
  | none => cases readFloatText? (trim text.toList) <;> simp

/-- What is written for a number is the text of a number. -/
theorem readFloat?_of_writtenNumber?
    {text written : String}
    (isNumber : writtenNumber? text = some written) :
    readFloat? written ≠ none := by
  unfold writtenNumber? at isNumber
  split at isNumber
  · cases isNumber
    rw [readFloat?, readWord?_formatWord]
    simp
  · cases isNumber
    exact readFloat?_formatFloat _
  · cases isNumber

/-- What is written for a number is never a text that spells none. -/
theorem ne_of_writtenNumber?
    {text other written : String}
    (isText : writtenNumber? text = none)
    (isNumber : writtenNumber? other = some written) :
    text ≠ written := by
  rintro rfl
  exact readFloat?_of_writtenNumber? isNumber (writtenNumber?_eq_none_iff.mp isText)

theorem toText_eq_iff (left right : String) :
    (Value.ofText left).toText = (Value.ofText right).toText ↔ Alike left right := by
  rw [toText_ofText, toText_ofText]
  constructor
  · intro same
    cases leftIs : writtenNumber? left with
    | none =>
        cases rightIs : writtenNumber? right with
        | none =>
            rw [leftIs, rightIs] at same
            exact .inl same
        | some written =>
            rw [leftIs, rightIs] at same
            exact absurd same (ne_of_writtenNumber? leftIs rightIs)
    | some written =>
        cases rightIs : writtenNumber? right with
        | none =>
            rw [leftIs, rightIs] at same
            exact absurd same.symm (ne_of_writtenNumber? rightIs leftIs)
        | some other =>
            rw [leftIs, rightIs, Option.getD_some, Option.getD_some] at same
            exact .inr ⟨written, leftIs, same ▸ rightIs⟩
  · rintro (rfl | ⟨written, leftIs, rightIs⟩)
    · rfl
    · rw [leftIs, rightIs, Option.getD_some, Option.getD_some]

/-- Texts of integers are alike exactly if the integers are the same. -/
theorem alike_integers_iff
    {left right : String}
    {leftValue rightValue : Int64}
    (readLeft : readWord? left = some leftValue)
    (readRight : readWord? right = some rightValue) :
    Alike left right ↔ leftValue = rightValue := by
  rw [← toText_eq_iff, Value.ofText, Value.ofText, readLeft, readRight]
  exact formatWord_inj

/-! ## Formulas that compare -/

theorem isWordChar_of_isBlank {c : Char} (blank : isBlank c = true) :
    Token.isWordChar c = false := by
  have noNumeral : (codesOf blankRanges).all (!inRanges numericRanges ·) = true := by
    decide +kernel
  have apart := List.all_eq_true.mp noNumeral c.toNat (mem_codesOf blank)
  have notUnderscore : c ≠ '_' := by
    rintro rfl
    exact absurd blank (by decide)
  simpa [Token.isWordChar, isAlphanumeric, isAlphabetic_of_isBlank blank, isNumeric, notUnderscore]
    using apart

namespace NameForm

theorem char_cases
    {name : List Char}
    (form : NameForm name)
    {c : Char}
    (member : c ∈ name) :
    Token.isWordChar c = true ∨ c = ':' := by
  induction form with
  | nil => cases member
  | char isWordChar _ inductionHypothesis =>
      rcases List.mem_cons.mp member with rfl | inside
      · exact .inl isWordChar
      · exact inductionHypothesis inside
  | colons _ inductionHypothesis =>
      rcases List.mem_cons.mp member with rfl | inside
      · exact .inr rfl
      · rcases List.mem_cons.mp inside with rfl | inside
        · exact .inr rfl
        · exact inductionHypothesis inside

theorem noBrace
    {name : List Char}
    (form : NameForm name) :
    ∀ c ∈ name, c ≠ '\\' ∧ c ≠ '{' ∧ c ≠ '}' := by
  intro c member
  rcases form.char_cases member with isWordChar | rfl
  · refine ⟨?_, ?_, ?_⟩ <;> rintro rfl <;> exact absurd isWordChar (by decide)
  · decide

theorem noBlank
    {name : List Char}
    (form : NameForm name) :
    ∀ c ∈ name, isBlank c = false := by
  intro c member
  by_contra blank
  rw [Bool.not_eq_false] at blank
  rcases form.char_cases member with isWordChar | rfl
  · rw [isWordChar_of_isBlank blank] at isWordChar
    cases isWordChar
  · exact absurd blank (by decide)

end NameForm

/-- The operator between references to two variables. -/
def comparison (operator : BinaryOp) (first second : String) : Formula :=
  .binary operator (.source ("$" ++ first)) (.source ("$" ++ second))

theorem text_comparison (operator : BinaryOp) (first second : String) :
    (comparison operator first second).text =
      "$" ++ first ++ " " ++ operator.sign.text ++ " $" ++ second := by
  rw [← String.toList_inj]
  simp [Formula.text, Formula.written, comparison, Formula.enclosed, Formula.level, Token.text]

section

variable
  {first second left right : String}
  (host : HostCommands Key Host)
  (fuel : Nat)

/-- Both variables are read, and their values are compared. -/
theorem run_compute_comparison
    {operator : BinaryOp}
    (notEither : operator ≠ .either)
    (notBoth : operator ≠ .both)
    (refersFirst : Refers ("$" ++ first) first)
    (refersSecond : Refers ("$" ++ second) second)
    (heldFirst : machine.valueOf? first = some left)
    (heldSecond : machine.valueOf? second = some right) :
    ((comparison operator first second).compute (evaluator host (fuel + 1))).run.run machine =
      (ofOperation (Value.applyBinary operator (Value.ofText left) (Value.ofText right)) :
        Action Key Host Value).run.run machine := by
  rw [comparison, compute_binary notEither notBoth, Conduct.run_bind,
    run_compute_source refersFirst heldFirst]
  dsimp only
  rw [Conduct.run_bind, run_compute_source refersSecond heldSecond]

theorem toList_text_comparison (operator : BinaryOp) (first second : String) :
    (comparison operator first second).text.toList =
      '$' :: (first.toList ++ (' ' :: operator.sign.text.toList ++ [' ', '$'])) ++
        second.toList := by
  rw [text_comparison]
  simp

/-- Nothing in the text of a comparison has a meaning inside of braces. -/
theorem apart_comparison
    {operator : BinaryOp}
    (apart : ∀ c ∈ operator.sign.text.toList, c ≠ '\\' ∧ c ≠ '{' ∧ c ≠ '}')
    (formFirst : NameForm first.toList)
    (formSecond : NameForm second.toList) :
    ∀ c ∈ (comparison operator first second).text.toList, c ≠ '\\' ∧ c ≠ '{' ∧ c ≠ '}' := by
  rw [toList_text_comparison]
  simp only [List.forall_mem_append, List.forall_mem_cons]
  exact ⟨⟨by decide, formFirst.noBrace, ⟨by decide, apart⟩, by decide, by decide, nofun⟩,
    formSecond.noBrace⟩

theorem trim_comparison
    {operator : BinaryOp}
    (formSecond : NameForm second.toList)
    (nonempty : second ≠ "") :
    trim (comparison operator first second).text.toList =
      (comparison operator first second).text.toList := by
  rw [toList_text_comparison]
  apply trim_eq_self
  · intro c isHead
    cases isHead
    decide
  · intro c isLast
    rw [List.getLast?_append_of_ne_nil _ (mt String.toList_eq_nil_iff.mp nonempty)] at isLast
    exact formSecond.noBlank c (List.mem_of_getLast? isLast)

/-- A script that compares two variables compares the values of their texts. -/
theorem run_script_comparison
    (operator : BinaryOp)
    (same : Bool)
    (known : machine.interp.command? "expr" = some (.builtin .expr))
    (shallow : machine.interp.depth < maxDepth)
    (formFirst : NameForm first.toList)
    (formSecond : NameForm second.toList)
    (namedFirst : first ≠ "")
    (namedSecond : second ≠ "")
    (heldFirst : machine.valueOf? first = some left)
    (heldSecond : machine.valueOf? second = some right)
    (apart : ∀ c ∈ operator.sign.text.toList, c ≠ '\\' ∧ c ≠ '{' ∧ c ≠ '}')
    (notEither : operator ≠ .either)
    (notBoth : operator ≠ .both)
    (compares : Value.applyBinary operator (Value.ofText left) (Value.ofText right) =
      .ok (.ofBool same)) :
    ((evaluator host (fuel + 2)).script
        ("expr \x7b$" ++ first ++ " " ++ operator.sign.text ++ " $" ++ second ++
          "\x7d")).run.run machine =
      (.ok (if same then "1" else "0"), machine) := by
  have script : "expr \x7b$" ++ first ++ " " ++ operator.sign.text ++ " $" ++ second ++ "\x7d" =
      "expr \x7b" ++ (comparison operator first second).text ++ "\x7d" := by
    rw [← String.toList_inj, text_comparison]
    simp
  have refersFirst := refers_name formFirst namedFirst
  have refersSecond := refers_name formSecond namedSecond
  have plain : Formula.Plain (comparison operator first second) :=
    .binary (.source refersFirst.form) (.source refersSecond.form)
  have nonempty : (comparison operator first second).text ≠ "" := by
    rw [Ne, ← String.toList_eq_nil_iff, toList_text_comparison]
    simp
  rw [script, run_script_expr known shallow (apart_comparison apart formFirst formSecond) nonempty
    (trim_comparison formSecond namedSecond), computeText_of_read (Formula.ofText_text plain),
    run_compute_comparison host fuel notEither notBoth refersFirst refersSecond (by exact heldFirst)
      (by exact heldSecond), compares]
  cases same <;> rfl

end

/-! ## Main statement -/

/-- Comparing the texts of two variables tells whether they are alike: the same text, or spellings
of numbers that are written in the same way. A text that spells no number is alike to itself only,
and texts of integers are alike if the integers are the same. -/
theorem texts_compared_as_written
    {machine : Machine Key Host}
    {first second left right : String}
    (known : machine.interp.command? "expr" = some (.builtin .expr))
    (shallow : machine.interp.depth < maxDepth)
    (formFirst : NameForm first.toList)
    (formSecond : NameForm second.toList)
    (namedFirst : first ≠ "")
    (namedSecond : second ≠ "")
    (heldFirst : machine.valueOf? first = some left)
    (heldSecond : machine.valueOf? second = some right)
    (host : HostCommands Key Host)
    (fuel : Nat) :
    let ran (operator : String) := ((evaluator host (fuel + 2)).script
      ("expr \x7b$" ++ first ++ " " ++ operator ++ " $" ++ second ++ "\x7d")).run.run machine
    (Alike left right → ran "eq" = (.ok "1", machine) ∧ ran "ne" = (.ok "0", machine)) ∧
      (¬Alike left right → ran "eq" = (.ok "0", machine) ∧ ran "ne" = (.ok "1", machine)) ∧
      (readFloat? left = none ∨ readFloat? right = none → (Alike left right ↔ left = right)) ∧
      (∀ leftValue rightValue, readWord? left = some leftValue →
        readWord? right = some rightValue → (Alike left right ↔ leftValue = rightValue)) := by
  have runs (operator : BinaryOp) (same : Bool) := run_script_comparison host fuel operator same
    known shallow formFirst formSecond namedFirst namedSecond heldFirst heldSecond
  have equal := runs .sameText _ (by simp [BinaryOp.sign, Sign.text]) (by decide) (by decide) rfl
  have differ := runs .otherText _ (by simp [BinaryOp.sign, Sign.text]) (by decide) (by decide) rfl
  dsimp only
  refine ⟨?_, ?_, ?_, fun _ _ => alike_integers_iff⟩
  · intro alike
    have texts := (toText_eq_iff left right).mpr alike
    rw [texts] at equal differ
    simp at equal differ
    exact ⟨equal, differ⟩
  · intro notAlike
    have texts := mt (toText_eq_iff left right).mp notAlike
    rw [beq_false_of_ne texts] at equal
    rw [bne_iff_ne.mpr texts] at differ
    exact ⟨equal, differ⟩
  · intro isText
    refine ⟨?_, .inl⟩
    rintro (same | ⟨written, leftIs, rightIs⟩)
    · exact same
    · rcases isText with isText | isText
      · rw [writtenNumber?_eq_none_iff.mpr isText] at leftIs
        cases leftIs
      · rw [writtenNumber?_eq_none_iff.mpr isText] at rightIs
        cases rightIs

/-- The same integer in hexadecimal and in decimal digits. -/
theorem texts_compared_as_written_of_hexadecimal :
    let host : HostCommands Nat Unit := ⟨fun _ _ _ => throw .unfinished, fun _ host => host⟩
    let machine : Machine Nat Unit :=
      ⟨{ commands := .ofList [("expr", Command.builtin .expr)]
         store := { globals := .ofList [("a", "0x10"), ("b", "16")] } }, {}, 0, ()⟩
    ((evaluator host 2).script "expr \x7b$a eq $b\x7d").run.run machine =
      (.ok "1", machine) := by
  intro host machine
  have known : machine.interp.command? "expr" = some (.builtin .expr) := rfl
  have heldFirst : machine.valueOf? "a" = some "0x10" := rfl
  have heldSecond : machine.valueOf? "b" = some "16" := rfl
  have formFirst : NameForm "a".toList := .char (by decide) .nil
  have formSecond : NameForm "b".toList := .char (by decide) .nil
  obtain ⟨whenAlike, -, -, integers⟩ := texts_compared_as_written known (by decide) formFirst
    formSecond (by decide) (by decide) heldFirst heldSecond host 0
  have alike : Alike "0x10" "16" :=
    (integers 16 16 (by decide) (by decide)).mpr rfl
  exact (whenAlike alike).1

end ScriptBridge.Arithmetic
