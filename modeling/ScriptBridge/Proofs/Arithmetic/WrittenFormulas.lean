import ScriptBridge.Proofs.Arithmetic.WrittenTokens

/-!
# Written formulas

A formula is written with parentheses only where the levels of the operators and the sides to which
they group ask for them. Reading what was written gives the same formula.
-/

namespace ScriptBridge.Arithmetic

namespace UnaryOp

def sign : UnaryOp → Sign
  | negate => .minus
  | keep => .plus
  | not => .bang
  | complement => .tilde

theorem unary?_sign (operator : UnaryOp) : operator.sign.unary? = some operator := by
  cases operator <;> rfl

end UnaryOp

namespace BinaryOp

def sign : BinaryOp → Sign
  | either => .either
  | both => .both
  | equal => .equal
  | notEqual => .notEqual
  | sameText => .sameText
  | otherText => .otherText
  | less => .less
  | greater => .greater
  | lessEqual => .lessEqual
  | greaterEqual => .greaterEqual
  | add => .plus
  | subtract => .minus
  | multiply => .times
  | divide => .divide
  | modulo => .modulo

theorem binary?_sign (operator : BinaryOp) : operator.sign.binary? = some operator := by
  cases operator <;> rfl

theorem level_bounds (operator : BinaryOp) : 0 < operator.level ∧ operator.level ≤ levels := by
  cases operator <;> decide

end BinaryOp

namespace Formula

/-! ## Writing -/

/-- The level of the loosest operator outside of parentheses; conditionals are looser than all. -/
def level : Formula → Nat
  | literal _ | source _ | unary _ _ | call _ _ => 0
  | binary operator _ _ => operator.level
  | conditional _ _ _ => BinaryOp.levels + 1

/-- The tokens of an operand in a place for operands up to `limit`. -/
def enclosed (limit level : Nat) (operand : List Token) : List Token :=
  if level ≤ limit then operand else .openParen :: (operand ++ [.closeParen])

mutual

/-- The tokens of a formula. The right operand of a binary operator is tighter than the operator,
since equal levels group to the left. -/
def written : Formula → List Token
  | literal text => [.literal text]
  | source text => [.source text]
  | unary operator operand => .sign operator.sign :: enclosed 0 operand.level operand.written
  | binary operator left right =>
      enclosed operator.level left.level left.written ++
        .sign operator.sign :: enclosed (operator.level - 1) right.level right.written
  | conditional condition yes no =>
      enclosed BinaryOp.levels condition.level condition.written ++
        .sign .question :: (yes.written ++ .sign .colon :: no.written)
  | call function arguments => .function function :: .openParen :: writtenArguments arguments

/-- The tokens of arguments with the parenthesis that closes them. -/
def writtenArguments : List Formula → List Token
  | [] => [.closeParen]
  | [argument] => argument.written ++ [.closeParen]
  | argument :: next :: rest => argument.written ++ .comma :: writtenArguments (next :: rest)

end

/-- The tokens of a formula with single spaces between them. -/
def text (formula : Formula) : String :=
  " ".intercalate (formula.written.map Token.text)

/-! ## Steps of the readers -/

/-- The reader found this value in front of these tokens. -/
def Gives
    {α : Type}
    {bound : List Token → Prop}
    (result : Option (α × { rest : List Token // bound rest }))
    (value : α)
    (rest : List Token) : Prop :=
  ∃ within : bound rest, result = some (value, ⟨rest, within⟩)

/-- No operator up to this level stands here. -/
def Loose (level : Nat) (rest : List Token) : Prop :=
  ∀ other ≤ level, operatorOn? other rest = none

/-- Neither an operator nor a question mark stands here: a formula ends. -/
def Ends (rest : List Token) : Prop :=
  Loose BinaryOp.levels rest ∧ rest.head? ≠ some (.sign .question)

theorem Loose.mono
    {level tighter : Nat}
    {rest : List Token}
    (loose : Loose level rest)
    (within : tighter ≤ level) :
    Loose tighter rest :=
  fun other below => loose other (Nat.le_trans below within)

theorem loose_sign
    {level : Nat}
    {operator : BinaryOp}
    (looser : level < operator.level)
    (rest : List Token) :
    Loose level (.sign operator.sign :: rest) := by
  intro other within
  have differs : operator.level ≠ other := by omega
  simp [operatorOn?, BinaryOp.binary?_sign, differs]

section Steps

variable {tokens behind after rest : List Token} {formula left right : Formula}

theorem gives_readOperand_unary
    (operator : UnaryOp)
    (operand : Gives (readOperand tokens) formula rest) :
    Gives (readOperand (.sign operator.sign :: tokens)) (.unary operator formula) rest := by
  obtain ⟨within, found⟩ := operand
  refine ⟨Nat.lt_succ_of_lt within, ?_⟩
  simp only [readOperand, UnaryOp.unary?_sign, found]
  rfl

theorem gives_readOperand_enclosed
    (inside : Gives (readFormula tokens) formula (.closeParen :: rest)) :
    Gives (readOperand (.openParen :: tokens)) formula rest := by
  obtain ⟨within, found⟩ := inside
  have shorter : rest.length < (Token.openParen :: tokens).length := by
    simp only [List.length_cons] at within ⊢
    omega
  refine ⟨shorter, ?_⟩
  simp only [readOperand, found]

theorem gives_readLevel_zero
    (operand : Gives (readOperand tokens) formula rest) :
    Gives (readLevel 0 tokens) formula rest := by
  rwa [readLevel]

theorem gives_readLevel_succ
    {tighter : Nat}
    (first : Gives (readLevel tighter tokens) left behind)
    (operators : Gives (readOperators tighter left behind) formula rest) :
    Gives (readLevel (tighter + 1) tokens) formula rest := by
  obtain ⟨shorter, foundFirst⟩ := first
  obtain ⟨within, found⟩ := operators
  refine ⟨Nat.lt_of_le_of_lt within shorter, ?_⟩
  simp only [readLevel, foundFirst, found]

theorem gives_readOperators_none
    {tighter : Nat}
    (none : operatorOn? (tighter + 1) rest = none) :
    Gives (readOperators tighter formula rest) formula rest := by
  refine ⟨Nat.le_refl _, ?_⟩
  rw [readOperators]
  split
  · rfl
  · rename_i operator _ found
    rw [none] at found
    cases found

theorem gives_readOperators_sign
    {tighter : Nat}
    {operator : BinaryOp}
    (onLevel : operator.level = tighter + 1)
    (second : Gives (readLevel tighter tokens) right behind)
    (operators : Gives (readOperators tighter (.binary operator left right) behind) formula rest) :
    Gives (readOperators tighter left (.sign operator.sign :: tokens)) formula rest := by
  obtain ⟨shorter, foundSecond⟩ := second
  obtain ⟨within, found⟩ := operators
  have isOperator :
      operatorOn? (tighter + 1) (.sign operator.sign :: tokens) = some (operator, tokens) := by
    simp [operatorOn?, BinaryOp.binary?_sign, onLevel]
  have bound : rest.length ≤ (Token.sign operator.sign :: tokens).length := by
    simp only [List.length_cons]
    omega
  refine ⟨bound, ?_⟩
  rw [readOperators]
  split
  · rename_i none
    rw [isOperator] at none
    cases none
  · rename_i _ _ same
    rw [isOperator] at same
    cases same
    simp only [foundSecond, found]

theorem gives_readFormula_level
    (found : Gives (readLevel BinaryOp.levels tokens) formula rest)
    (noQuestion : rest.head? ≠ some (.sign .question)) :
    Gives (readFormula tokens) formula rest := by
  obtain ⟨within, foundLevel⟩ := found
  refine ⟨within, ?_⟩
  rw [readFormula, foundLevel]
  split
  · rename_i same
    cases same
  · rename_i same
    cases same
    exact absurd rfl noQuestion
  · rename_i same
    rw [same]

theorem gives_readFormula_conditional
    {condition yes no : Formula}
    (foundCondition :
      Gives (readLevel BinaryOp.levels tokens) condition (.sign .question :: behind))
    (foundYes : Gives (readFormula behind) yes (.sign .colon :: after))
    (foundNo : Gives (readFormula after) no rest) :
    Gives (readFormula tokens) (.conditional condition yes no) rest := by
  obtain ⟨withinCondition, foundCondition⟩ := foundCondition
  obtain ⟨withinYes, foundYes⟩ := foundYes
  obtain ⟨withinNo, foundNo⟩ := foundNo
  have bound : rest.length < tokens.length := by
    simp only [List.length_cons] at withinCondition withinYes
    omega
  refine ⟨bound, ?_⟩
  rw [readFormula, foundCondition]
  simp only [foundYes, foundNo]
  rfl

theorem gives_readArguments_last
    (argument : Gives (readFormula tokens) formula (.closeParen :: rest)) :
    Gives (readArguments tokens) [formula] rest := by
  obtain ⟨within, found⟩ := argument
  refine ⟨Nat.lt_of_succ_lt within, ?_⟩
  rw [readArguments, found]

theorem gives_readArguments_cons
    {arguments : List Formula}
    (argument : Gives (readFormula tokens) formula (.comma :: behind))
    (others : Gives (readArguments behind) arguments rest) :
    Gives (readArguments tokens) (formula :: arguments) rest := by
  obtain ⟨withinFirst, foundFirst⟩ := argument
  obtain ⟨within, found⟩ := others
  refine ⟨Nat.lt_trans within (Nat.lt_of_succ_lt withinFirst), ?_⟩
  rw [readArguments, foundFirst]
  simp only [found]
  rfl

theorem gives_readOperand_noArguments
    {function : String} :
    Gives (readOperand (.function function :: .openParen :: .closeParen :: rest))
      (.call function []) rest := by
  have shorter :
      rest.length < (Token.function function :: .openParen :: .closeParen :: rest).length := by
    simp only [List.length_cons]
    omega
  exact ⟨shorter, by rw [readOperand]⟩

theorem readLevel_closeParen (level : Nat) :
    readLevel level (.closeParen :: rest) = none := by
  induction level with
  | zero => rw [readLevel, readOperand] <;> simp
  | succ level inductionHypothesis => rw [readLevel, inductionHypothesis]

/-- Arguments do not start with the parenthesis that would close an empty list of them. -/
theorem readArguments_closeParen : readArguments (.closeParen :: rest) = none := by
  rw [readArguments, readFormula, readLevel_closeParen]

theorem gives_readOperand_call
    {function : String}
    {arguments : List Formula}
    (found : Gives (readArguments tokens) arguments rest) :
    Gives (readOperand (.function function :: .openParen :: tokens))
      (.call function arguments) rest := by
  obtain ⟨within, found⟩ := found
  have notClosed : ∀ others, tokens ≠ .closeParen :: others := by
    rintro others rfl
    rw [readArguments_closeParen] at found
    cases found
  have bound : rest.length < (Token.function function :: .openParen :: tokens).length := by
    simp only [List.length_cons]
    omega
  refine ⟨bound, ?_⟩
  rw [readOperand]
  · rw [found]
    rfl
  · exact fun others same => notClosed others same

end Steps

/-! ## Reading what was written -/

/-- The tokens are read as the formula wherever operands up to `limit` may stand. As the first
operand on a looser level they are read together with the operators behind them. -/
structure ReadBack (limit : Nat) (found : List Token) (formula : Formula) : Prop where
  operand : limit = 0 → ∀ rest, Gives (readOperand (found ++ rest)) formula rest
  continued : ∀ tighter < BinaryOp.levels, limit ≤ tighter + 1 →
    ∀ behind, Loose tighter behind → ∀ whole rest,
      Gives (readOperators tighter formula behind) whole rest →
        Gives (readLevel (tighter + 1) (found ++ behind)) whole rest
  formula : ∀ rest, Ends rest → Gives (readFormula (found ++ rest)) formula rest

namespace ReadBack

variable {limit : Nat} {found : List Token} {formula : Formula}

theorem level
    (back : ReadBack limit found formula)
    {level : Nat}
    {rest : List Token}
    (within : limit ≤ level)
    (isLevel : level ≤ BinaryOp.levels)
    (loose : Loose level rest) :
    Gives (readLevel level (found ++ rest)) formula rest := by
  cases level with
  | zero => exact gives_readLevel_zero (back.operand (Nat.le_zero.mp within) rest)
  | succ tighter =>
      have noOperator : operatorOn? (tighter + 1) rest = none := loose _ (Nat.le_refl _)
      exact back.continued tighter isLevel within rest (loose.mono (Nat.le_succ _)) formula rest
        (gives_readOperators_none noOperator)

theorem weaken
    (back : ReadBack limit found formula)
    {looser : Nat}
    (within : limit ≤ looser) :
    ReadBack looser found formula where
  operand isZero := back.operand (by omega)
  continued tighter isLevel below := back.continued tighter isLevel (by omega)
  formula := back.formula

/-- What is read on one level is read on all looser ones. -/
theorem on_looser_level
    {tightest : Nat}
    (first : ∀ rest, Loose tightest rest →
      Gives (readLevel tightest (found ++ rest)) formula rest)
    {level : Nat}
    (within : tightest ≤ level) :
    ∀ rest, Loose level rest → Gives (readLevel level (found ++ rest)) formula rest := by
  induction within with
  | refl => exact first
  | @step level _ inductionHypothesis =>
      intro rest loose
      have operand := inductionHypothesis rest (loose.mono (Nat.le_succ _))
      exact gives_readLevel_succ operand (gives_readOperators_none (loose _ (Nat.le_refl _)))

theorem of_operand
    (operand : ∀ rest, Gives (readOperand (found ++ rest)) formula rest) :
    ReadBack 0 found formula := by
  have onLevel (level : Nat) :
      ∀ rest, Loose level rest → Gives (readLevel level (found ++ rest)) formula rest :=
    on_looser_level (fun rest _ => gives_readLevel_zero (operand rest)) (Nat.zero_le level)
  refine ⟨fun _ => operand, ?_, ?_⟩
  · intro tighter _ _ behind loose whole rest operators
    exact gives_readLevel_succ (onLevel tighter behind loose) operators
  · intro rest ends
    exact gives_readFormula_level (onLevel BinaryOp.levels rest ends.1) ends.2

theorem enclosed
    (back : ReadBack formula.level found formula)
    (limit : Nat) :
    ReadBack limit (enclosed limit formula.level found) formula := by
  by_cases fits : formula.level ≤ limit
  · simpa [Formula.enclosed, fits] using back.weaken fits
  · have inParentheses : ReadBack 0 (.openParen :: (found ++ [.closeParen])) formula := by
      refine of_operand fun rest => ?_
      have ends : Ends (.closeParen :: rest) := ⟨fun _ _ => rfl, by simp⟩
      have regrouped :
          .openParen :: (found ++ [.closeParen]) ++ rest =
            .openParen :: (found ++ .closeParen :: rest) := by simp
      rw [regrouped]
      exact gives_readOperand_enclosed (back.formula _ ends)
    simpa [Formula.enclosed, fits] using inParentheses.weaken (Nat.zero_le limit)

theorem unary
    (operator : UnaryOp)
    (back : ReadBack 0 found formula) :
    ReadBack 0 (.sign operator.sign :: found) (.unary operator formula) :=
  of_operand fun rest => gives_readOperand_unary operator (back.operand rfl rest)

theorem binary
    {operator : BinaryOp}
    {leftFound rightFound : List Token}
    {left right : Formula}
    (leftBack : ReadBack operator.level leftFound left)
    (rightBack : ReadBack (operator.level - 1) rightFound right) :
    ReadBack operator.level (leftFound ++ .sign operator.sign :: rightFound)
      (.binary operator left right) := by
  obtain ⟨isPositive, isLevel⟩ := operator.level_bounds
  obtain ⟨own, ownLevel⟩ : ∃ own, operator.level = own + 1 := ⟨operator.level - 1, by omega⟩
  rw [ownLevel] at leftBack rightBack isLevel ⊢
  -- On the level of the operator the left operand goes on with the operator itself.
  have onOwnLevel {behind rest : List Token} {whole : Formula} (loose : Loose own behind)
      (operators : Gives (readOperators own (.binary operator left right) behind) whole rest) :
      Gives (readLevel (own + 1) (leftFound ++ .sign operator.sign :: rightFound ++ behind))
        whole rest := by
    have second := rightBack.level (Nat.le_refl _) (by omega) loose
    have signed := gives_readOperators_sign ownLevel second operators
    have looser : own < operator.level := by omega
    rw [List.append_assoc]
    exact leftBack.continued own isLevel (Nat.le_refl _) _ (loose_sign looser _) _ _ signed
  have onLevel {level : Nat} (within : own + 1 ≤ level) :=
    on_looser_level (fun rest loose => onOwnLevel (loose.mono (Nat.le_succ _))
      (gives_readOperators_none (loose _ (Nat.le_refl _)))) within
  refine ⟨fun isZero => by omega, ?_, ?_⟩
  · intro tighter _ within behind loose whole rest operators
    by_cases isOwn : tighter = own
    · subst isOwn
      exact onOwnLevel loose operators
    · exact gives_readLevel_succ (onLevel (by omega) behind loose) operators
  · intro rest ends
    exact gives_readFormula_level (onLevel isLevel rest ends.1) ends.2

theorem conditional
    {conditionFound yesFound noFound : List Token}
    {condition yes no : Formula}
    {yesLimit noLimit : Nat}
    (conditionBack : ReadBack BinaryOp.levels conditionFound condition)
    (yesBack : ReadBack yesLimit yesFound yes)
    (noBack : ReadBack noLimit noFound no) :
    ReadBack (BinaryOp.levels + 1)
      (conditionFound ++ .sign .question :: (yesFound ++ .sign .colon :: noFound))
      (.conditional condition yes no) := by
  refine ⟨fun isZero => by omega, fun tighter isLevel within => by omega, fun rest ends => ?_⟩
  have atQuestion (others : List Token) : Loose BinaryOp.levels (.sign .question :: others) :=
    fun _ _ => by simp [operatorOn?, Sign.binary?]
  have atColon (others : List Token) : Ends (.sign .colon :: others) :=
    ⟨fun _ _ => by simp [operatorOn?, Sign.binary?], by simp⟩
  have foundCondition :=
    conditionBack.level (Nat.le_refl _) (Nat.le_refl _)
      (atQuestion (yesFound ++ .sign .colon :: (noFound ++ rest)))
  have foundYes := yesBack.formula _ (atColon (noFound ++ rest))
  have regrouped :
      conditionFound ++ .sign .question :: (yesFound ++ .sign .colon :: noFound) ++ rest =
        conditionFound ++ .sign .question :: (yesFound ++ .sign .colon :: (noFound ++ rest)) := by
    simp
  rw [regrouped]
  exact gives_readFormula_conditional foundCondition foundYes (noBack.formula rest ends)

theorem call
    (function : String)
    {arguments : List Formula}
    (found : ∀ rest, arguments ≠ [] →
      Gives (readArguments (writtenArguments arguments ++ rest)) arguments rest) :
    ReadBack 0 (.function function :: .openParen :: writtenArguments arguments)
      (.call function arguments) := by
  refine of_operand fun rest => ?_
  cases arguments with
  | nil =>
      simp only [writtenArguments, List.cons_append, List.nil_append]
      exact gives_readOperand_noArguments
  | cons argument others => exact gives_readOperand_call (found rest (by simp))

end ReadBack

theorem gives_readArguments_written
    {arguments : List Formula}
    (nonempty : arguments ≠ [])
    (back : ∀ argument ∈ arguments, ReadBack argument.level argument.written argument)
    (rest : List Token) :
    Gives (readArguments (writtenArguments arguments ++ rest)) arguments rest := by
  have ends {closing : Token} (isClosing : closing = .closeParen ∨ closing = .comma)
      (others : List Token) : Ends (closing :: others) := by
    rcases isClosing with rfl | rfl <;> exact ⟨fun _ _ => by simp [operatorOn?], by simp⟩
  induction arguments with
  | nil => exact absurd rfl nonempty
  | cons argument others inductionHypothesis =>
      have first := (back argument List.mem_cons_self).formula
      cases others with
      | nil =>
          rw [writtenArguments, List.append_assoc]
          exact gives_readArguments_last (first _ (ends (.inl rfl) rest))
      | cons next others =>
          have tail := inductionHypothesis (by simp) fun other member =>
            back other (List.mem_cons_of_mem argument member)
          rw [writtenArguments, List.append_assoc]
          exact gives_readArguments_cons (first _ (ends (.inr rfl) _)) tail

theorem readBack_written : (formula : Formula) →
    ReadBack formula.level formula.written formula
  | .literal text => by
      rw [written]
      exact .of_operand fun rest => ⟨Nat.lt_succ_self _, by simp [readOperand]⟩
  | .source text => by
      rw [written]
      exact .of_operand fun rest => ⟨Nat.lt_succ_self _, by simp [readOperand]⟩
  | .unary operator operand => by
      rw [written]
      exact .unary operator ((readBack_written operand).enclosed 0)
  | .binary operator left right => by
      rw [written]
      exact .binary ((readBack_written left).enclosed _) ((readBack_written right).enclosed _)
  | .conditional condition yes no => by
      rw [written]
      exact .conditional ((readBack_written condition).enclosed _) (readBack_written yes)
        (readBack_written no)
  | .call function arguments => by
      have back : ∀ argument ∈ arguments, ReadBack argument.level argument.written argument :=
        fun argument _ => readBack_written argument
      rw [written]
      exact .call function fun rest nonempty => gives_readArguments_written nonempty back rest

/-- Every formula is read from its tokens, and nothing is left of them. -/
theorem ofTokens?_written (formula : Formula) : ofTokens? formula.written = some formula := by
  have ends : Ends [] := ⟨fun _ _ => rfl, by simp⟩
  have read := (readBack_written formula).formula [] ends
  rw [List.append_nil] at read
  obtain ⟨within, found⟩ := read
  rw [ofTokens?, found]

/-! ## Plain formulas -/

/-- The operands are decimal numbers and references, and each function has a name of a word. -/
inductive Plain : Formula → Prop where
  | literal {text : String} : DecimalForm text.toList → Plain (.literal text)
  | source {text : String} : ReferenceForm text.toList → Plain (.source text)
  | unary {operator : UnaryOp} {operand : Formula} :
      Plain operand → Plain (.unary operator operand)
  | binary {operator : BinaryOp} {left right : Formula} :
      Plain left → Plain right → Plain (.binary operator left right)
  | conditional {condition yes no : Formula} :
      Plain condition → Plain yes → Plain no → Plain (.conditional condition yes no)
  | call {function : String} {arguments : List Formula} :
      FunctionForm function.toList → (∀ argument ∈ arguments, Plain argument) →
        Plain (.call function arguments)

/-- The tokens are spelled in front of all others that are. -/
def SpelledInFront (found : List Token) : Prop :=
  ∀ rest, Spelled rest → Spelled (found ++ rest)

theorem spelledInFront_one
    (token : Token)
    (wellFormed : token.WellFormed)
    (notFunction : ∀ name, token ≠ .function name) :
    SpelledInFront [token] :=
  fun _ spelled => .cons wellFormed (fun name same => absurd same (notFunction name)) spelled

theorem SpelledInFront.append
    {first second : List Token}
    (firstSpelled : SpelledInFront first)
    (secondSpelled : SpelledInFront second) :
    SpelledInFront (first ++ second) := by
  intro rest spelled
  rw [List.append_assoc]
  exact firstSpelled _ (secondSpelled _ spelled)

theorem SpelledInFront.sign
    {found : List Token}
    (spelled : SpelledInFront found)
    (sign : Sign) :
    SpelledInFront (.sign sign :: found) :=
  (spelledInFront_one (.sign sign) trivial (by simp)).append spelled

theorem SpelledInFront.enclosed
    {found : List Token}
    (spelled : SpelledInFront found)
    (limit level : Nat) :
    SpelledInFront (enclosed limit level found) := by
  have openParen : SpelledInFront [.openParen] := spelledInFront_one _ trivial (by simp)
  have closeParen : SpelledInFront [.closeParen] := spelledInFront_one _ trivial (by simp)
  by_cases fits : level ≤ limit
  · simpa [Formula.enclosed, fits] using spelled
  · have inParentheses := openParen.append (spelled.append closeParen)
    simpa [Formula.enclosed, fits] using inParentheses

theorem spelledInFront_writtenArguments
    {arguments : List Formula}
    (spelled : ∀ argument ∈ arguments, SpelledInFront argument.written) :
    SpelledInFront (writtenArguments arguments) := by
  have closeParen : SpelledInFront [.closeParen] := spelledInFront_one _ trivial (by simp)
  have comma : SpelledInFront [.comma] := spelledInFront_one _ trivial (by simp)
  induction arguments with
  | nil => simpa [writtenArguments] using closeParen
  | cons argument others inductionHypothesis =>
      have first := spelled argument List.mem_cons_self
      cases others with
      | nil => simpa [writtenArguments] using first.append closeParen
      | cons next others =>
          have tail := inductionHypothesis fun other member =>
            spelled other (List.mem_cons_of_mem argument member)
          simpa [writtenArguments] using first.append (comma.append tail)

theorem Plain.spelledInFront
    {formula : Formula}
    (plain : Plain formula) :
    SpelledInFront formula.written := by
  induction plain with
  | literal form => simpa [written] using spelledInFront_one (.literal _) form (by simp)
  | source form => simpa [written] using spelledInFront_one (.source _) form (by simp)
  | unary _ operand =>
      simpa [written] using (operand.enclosed _ _).sign _
  | binary _ _ left right =>
      simpa [written] using (left.enclosed _ _).append ((right.enclosed _ _).sign _)
  | conditional _ _ _ condition yes no =>
      simpa [written] using (condition.enclosed _ _).append ((yes.append (no.sign _)).sign _)
  | call form _ spelled =>
      intro rest restSpelled
      have arguments := spelledInFront_writtenArguments spelled rest restSpelled
      rw [written]
      exact .cons form (by simp) (.cons trivial (by simp) arguments)

theorem Plain.tokens_text
    {formula : Formula}
    (plain : Plain formula) :
    tokens formula.text = .ok formula.written := by
  have spelled := plain.spelledInFront [] .nil
  rw [List.append_nil] at spelled
  exact tokens_intercalate spelled

/-- A plain formula is read from its text. -/
theorem ofText_text
    {formula : Formula}
    (plain : Plain formula) :
    ofText formula.text = .ok formula := by
  simp only [ofText, plain.tokens_text, bind, Except.bind, ofTokens?_written]
  rfl

end Formula

end ScriptBridge.Arithmetic
