import ScriptBridge.Proofs.Arithmetic.WrittenFormulas

/-!
# Fewest tokens

Every list of tokens that is read as a formula contains the tokens that are written for it, in their
order: none of them can be left out, and no parenthesis is written without need.
-/

namespace ScriptBridge.Arithmetic

theorem UnaryOp.eq_sign
    {sign : Sign}
    {operator : UnaryOp}
    (found : sign.unary? = some operator) :
    sign = operator.sign := by
  cases sign <;> simp [Sign.unary?] at found <;> subst found <;> simp [UnaryOp.sign]

theorem BinaryOp.eq_sign
    {sign : Sign}
    {operator : BinaryOp}
    (found : sign.binary? = some operator) :
    sign = operator.sign := by
  cases sign <;> simp [Sign.binary?] at found <;> subst found <;> simp [BinaryOp.sign]

namespace Formula

/-! ## Parentheses -/

theorem enclosed_of_le
    {limit level : Nat}
    (fits : level ≤ limit)
    (found : List Token) :
    enclosed limit level found = found := by
  simp [enclosed, fits]

theorem sublist_enclosed
    (limit level : Nat)
    (found : List Token) :
    List.Sublist found (enclosed limit level found) := by
  by_cases fits : level ≤ limit
  · simp [enclosed, fits]
  · simp only [enclosed, fits, if_false]
    exact (List.sublist_append_left found [.closeParen]).cons .openParen

theorem enclosed_sublist
    (limit level : Nat)
    (found : List Token) :
    List.Sublist (enclosed limit level found) (.openParen :: (found ++ [.closeParen])) := by
  by_cases fits : level ≤ limit
  · simp only [enclosed, fits, if_true]
    exact (List.sublist_append_left found [.closeParen]).cons .openParen
  · simp [enclosed, fits]

/-- A place for looser operands needs no more parentheses. -/
theorem enclosed_sublist_enclosed
    {limit looser : Nat}
    (within : limit ≤ looser)
    (level : Nat)
    (found : List Token) :
    List.Sublist (enclosed looser level found) (enclosed limit level found) := by
  by_cases fits : level ≤ looser
  · rw [enclosed_of_le fits]
    exact sublist_enclosed limit level found
  · have tooLoose : ¬level ≤ limit := by omega
    simp [enclosed, fits, tooLoose]

/-! ## What the readers have found -/

/-- The tokens in front of `rest` contain these. -/
def InFront (tokens rest needed : List Token) : Prop :=
  ∃ front, tokens = front ++ rest ∧ List.Sublist needed front

/-- What a reader finds at the start of these tokens needs no more of them than it has taken. -/
structure Sufficient (tokens : List Token) : Prop where
  operand : ∀ formula rest, Gives (readOperand tokens) formula rest →
    InFront tokens rest (enclosed 0 formula.level formula.written)
  operators : ∀ tighter left formula rest, Gives (readOperators tighter left tokens) formula rest →
    ∃ front, tokens = front ++ rest ∧
      List.Sublist (enclosed (tighter + 1) formula.level formula.written)
        (enclosed (tighter + 1) left.level left.written ++ front)
  level : ∀ level formula rest, Gives (readLevel level tokens) formula rest →
    InFront tokens rest (enclosed level formula.level formula.written)
  formula : ∀ formula rest, Gives (readFormula tokens) formula rest →
    InFront tokens rest formula.written
  arguments : ∀ arguments rest, Gives (readArguments tokens) arguments rest →
    InFront tokens rest (writtenArguments arguments)

theorem gives_of_widen_map
    {α β : Type}
    {limit larger : Nat}
    {bound : limit ≤ larger}
    {change : α → β}
    {result : Parsed α limit}
    {value : β}
    {rest : List Token}
    {within : rest.length < larger}
    (found : (result.map change).widen bound = some (value, ⟨rest, within⟩)) :
    ∃ inner, value = change inner ∧ Gives result inner rest := by
  cases result with
  | none => cases found
  | some inner =>
      obtain ⟨inner, behind, shorter⟩ := inner
      cases found
      exact ⟨inner, rfl, shorter, rfl⟩

theorem eq_of_operatorOn?
    {level : Nat}
    {tokens rest : List Token}
    {operator : BinaryOp}
    (found : operatorOn? level tokens = some (operator, rest)) :
    tokens = .sign operator.sign :: rest ∧ operator.level = level := by
  unfold operatorOn? at found
  split at found
  · split at found
    · rename_i isBinary
      split at found
      · rename_i onLevel
        cases found
        exact ⟨by rw [BinaryOp.eq_sign isBinary], onLevel⟩
      · cases found
    · cases found
  · cases found

theorem ne_nil_of_gives_readArguments
    {tokens rest : List Token}
    {arguments : List Formula}
    (gives : Gives (readArguments tokens) arguments rest) :
    arguments ≠ [] := by
  obtain ⟨within, found⟩ := gives
  rw [readArguments] at found
  split at found
  · cases found
    simp
  · obtain ⟨others, rfl, -⟩ := gives_of_widen_map found
    simp
  · cases found

theorem length_lt_of_append
    {front rest : List Token}
    {token : Token}
    {tokens : List Token}
    (split : tokens = front ++ token :: rest) :
    rest.length < tokens.length := by
  subst split
  simp only [List.length_append, List.length_cons]
  omega

section Steps

variable
  {tokens rest : List Token}
  {formula : Formula}
  (shorter : ∀ other : List Token, other.length < tokens.length → Sufficient other)

include shorter

theorem inFront_operand
    (gives : Gives (readOperand tokens) formula rest) :
    InFront tokens rest (enclosed 0 formula.level formula.written) := by
  obtain ⟨within, found⟩ := gives
  rw [readOperand.eq_def] at found
  split at found
  · rename_i sign behind
    split at found
    · rename_i operator isUnary
      obtain ⟨operand, rfl, inner⟩ := gives_of_widen_map found
      obtain ⟨front, rfl, needed⟩ := (shorter behind (by simp)).operand operand rest inner
      refine ⟨.sign sign :: front, rfl, ?_⟩
      have fits : (unary operator operand).level ≤ 0 := Nat.le_refl _
      rw [enclosed_of_le fits, written, UnaryOp.eq_sign isUnary]
      exact needed.cons_cons _
    · cases found
  · cases found
    exact ⟨[_], rfl, by simp [enclosed, level, written]⟩
  · cases found
    exact ⟨[_], rfl, by simp [enclosed, level, written]⟩
  · rename_i behind
    split at found
    · rename_i after bound same
      cases found
      obtain ⟨front, rfl, needed⟩ := (shorter behind (by simp)).formula formula _ ⟨bound, same⟩
      refine ⟨.openParen :: (front ++ [.closeParen]), by simp, ?_⟩
      exact (enclosed_sublist 0 _ _).trans ((needed.append_right _).cons_cons _)
    · cases found
  · cases found
    exact ⟨[_, _, _], rfl, by simp [enclosed, level, written, writtenArguments]⟩
  · rename_i name behind _
    obtain ⟨arguments, rfl, inner⟩ := gives_of_widen_map found
    have bound : behind.length < (Token.function name :: .openParen :: behind).length := by
      simp only [List.length_cons]
      omega
    obtain ⟨front, rfl, needed⟩ := (shorter behind bound).arguments arguments rest inner
    refine ⟨.function name :: .openParen :: front, rfl, ?_⟩
    have fits : (call name arguments).level ≤ 0 := Nat.le_refl _
    rw [enclosed_of_le fits, written]
    exact (needed.cons_cons _).cons_cons _
  · cases found

theorem inFront_operators
    {tighter : Nat}
    {left : Formula}
    (gives : Gives (readOperators tighter left tokens) formula rest) :
    ∃ front, tokens = front ++ rest ∧
      List.Sublist (enclosed (tighter + 1) formula.level formula.written)
        (enclosed (tighter + 1) left.level left.written ++ front) := by
  obtain ⟨within, found⟩ := gives
  rw [readOperators] at found
  split at found
  · cases found
    exact ⟨[], rfl, by simp⟩
  · rename_i operator behind isOperator
    have smaller : behind.length < tokens.length := operatorOn?_length_lt isOperator
    obtain ⟨rfl, onLevel⟩ := eq_of_operatorOn? isOperator
    split at found
    · cases found
    · rename_i right after within foundRight
      split at found
      · cases found
      · rename_i bound foundOperators
        cases found
        obtain ⟨second, rfl, rightNeeded⟩ :=
          (shorter behind smaller).level tighter right after ⟨within, foundRight⟩
        obtain ⟨third, rfl, needed⟩ :=
          (shorter after (by omega)).operators tighter _ formula rest ⟨bound, foundOperators⟩
        refine ⟨.sign operator.sign :: (second ++ third), by simp, needed.trans ?_⟩
        have fits : (binary operator left right).level ≤ tighter + 1 := Nat.le_of_eq onLevel
        rw [enclosed_of_le fits, written, onLevel, Nat.add_sub_cancel, List.append_assoc]
        exact ((rightNeeded.append_right third).cons_cons _).append_left _

theorem inFront_level
    {level : Nat}
    (gives : Gives (readLevel level tokens) formula rest) :
    InFront tokens rest (enclosed level formula.level formula.written) := by
  induction level generalizing formula rest with
  | zero =>
      rw [readLevel] at gives
      exact inFront_operand shorter gives
  | succ tighter inductionHypothesis =>
      obtain ⟨within, found⟩ := gives
      rw [readLevel] at found
      split at found
      · cases found
      · rename_i left behind smaller foundLeft
        split at found
        · cases found
        · rename_i bound foundOperators
          cases found
          obtain ⟨first, rfl, leftNeeded⟩ := inductionHypothesis ⟨smaller, foundLeft⟩
          obtain ⟨second, rfl, needed⟩ :=
            (shorter behind smaller).operators tighter left formula rest ⟨bound, foundOperators⟩
          refine ⟨first ++ second, by simp, needed.trans ?_⟩
          have looser := enclosed_sublist_enclosed (Nat.le_succ tighter) left.level left.written
          exact (looser.trans leftNeeded).append_right second

theorem inFront_formula
    (gives : Gives (readFormula tokens) formula rest) :
    InFront tokens rest formula.written := by
  obtain ⟨within, found⟩ := gives
  rw [readFormula] at found
  split at found
  · cases found
  · rename_i condition yesTokens smaller foundCondition
    obtain ⟨first, rfl, conditionNeeded⟩ := inFront_level shorter ⟨smaller, foundCondition⟩
    split at found
    · rename_i yes noTokens smallerYes foundYes
      obtain ⟨no, rfl, foundNo⟩ := gives_of_widen_map found
      obtain ⟨second, rfl, yesNeeded⟩ :=
        (shorter yesTokens (length_lt_of_append rfl)).formula yes _ ⟨smallerYes, foundYes⟩
      obtain ⟨third, rfl, noNeeded⟩ := (shorter noTokens (by simp; omega)).formula no rest foundNo
      refine ⟨first ++ .sign .question :: (second ++ .sign .colon :: third), by simp, ?_⟩
      rw [written]
      exact conditionNeeded.append ((yesNeeded.append (noNeeded.cons_cons _)).cons_cons _)
    · cases found
  · rename_i foundLevel
    cases found
    obtain ⟨front, rfl, needed⟩ := inFront_level shorter ⟨within, foundLevel⟩
    exact ⟨front, rfl, (sublist_enclosed _ _ _).trans needed⟩

theorem inFront_arguments
    {arguments : List Formula}
    (gives : Gives (readArguments tokens) arguments rest) :
    InFront tokens rest (writtenArguments arguments) := by
  obtain ⟨within, found⟩ := gives
  rw [readArguments] at found
  split at found
  · rename_i argument _ smaller foundArgument
    cases found
    obtain ⟨front, rfl, needed⟩ := inFront_formula shorter ⟨smaller, foundArgument⟩
    refine ⟨front ++ [.closeParen], by simp, ?_⟩
    rw [writtenArguments]
    exact needed.append_right _
  · rename_i argument behind smaller foundArgument
    obtain ⟨others, rfl, foundOthers⟩ := gives_of_widen_map found
    obtain ⟨first, rfl, needed⟩ := inFront_formula shorter ⟨smaller, foundArgument⟩
    obtain ⟨second, rfl, othersNeeded⟩ :=
      (shorter behind (length_lt_of_append rfl)).arguments others rest foundOthers
    refine ⟨first ++ .comma :: second, by simp, ?_⟩
    have nonempty : others ≠ [] := ne_nil_of_gives_readArguments foundOthers
    obtain ⟨next, rest, rfl⟩ := List.exists_cons_of_ne_nil nonempty
    rw [writtenArguments]
    exact needed.append (othersNeeded.cons_cons _)
  · cases found

end Steps

theorem sufficient (tokens : List Token) : Sufficient tokens := by
  induction length : tokens.length using Nat.strongRecOn generalizing tokens with
  | _ size inductionHypothesis =>
      subst length
      have shorter (other : List Token) (smaller : other.length < tokens.length) :
          Sufficient other :=
        inductionHypothesis other.length smaller other rfl
      exact {
        operand := fun _ _ => inFront_operand shorter
        operators := fun _ _ _ _ => inFront_operators shorter
        level := fun _ _ _ => inFront_level shorter
        formula := fun _ _ => inFront_formula shorter
        arguments := fun _ _ => inFront_arguments shorter
      }

/-- Tokens that are read as a formula contain those that are written for it. -/
theorem written_sublist
    {found : List Token}
    {formula : Formula}
    (read : ofTokens? found = some formula) :
    List.Sublist formula.written found := by
  unfold ofTokens? at read
  split at read
  · rename_i within foundFormula
    cases read
    obtain ⟨front, rfl, needed⟩ := (sufficient found).formula formula [] ⟨within, foundFormula⟩
    simpa using needed
  · cases read

/-- A plain formula is read from its text, and the text has no token that could be left out. -/
theorem reads_own_text
    {formula : Formula}
    (plain : Plain formula) :
    ofText formula.text = .ok formula ∧
      ∀ text found, tokens text = .ok found → ofText text = .ok formula →
        List.Sublist formula.written found := by
  refine ⟨ofText_text plain, fun text found cut read => ?_⟩
  have whole : ofTokens? found = some formula := by
    simp only [ofText, cut, bind, Except.bind] at read
    split at read
    · rename_i other same
      cases read
      exact same
    · cases read
  exact written_sublist whole

/-- A conditional with another one in its last place. -/
def rate : Formula :=
  .conditional
    (.binary .sameText
      (.binary .multiply
        (.binary .add (.source "$n") (.literal "1"))
        (.unary .negate (.binary .subtract (.literal "2") (.literal ".5e-1"))))
      (.source "$m"))
    (.call "max" [.source "$n", .literal "1"])
    (.conditional (.source "$n") (.call "now" []) (.literal "0"))

/-- Its text has parentheses only where they are needed, and reading the text gives the formula back. -/
theorem reads_own_text_of_rate :
    rate.text = "( $n + 1 ) * - ( 2 - .5e-1 ) eq $m ? max ( $n , 1 ) : $n ? now ( ) : 0" ∧
      Plain rate ∧ ofText rate.text = .ok rate := by
  have digit {c : Char} (isDigit : c.isDigit = true) : DecimalForm ([c] ++ []) :=
    .whole (by simpa [AreDigits] using isDigit) (by simp) .missing
  have fraction : DecimalForm ([] ++ '.' :: (['5'] ++ ['e', '-', '1'])) :=
    .pointed (by simp [AreDigits]) (by simp [AreDigits]) (by simp)
      (.signed (.inl rfl) (.inr rfl) (by simp [AreDigits]) (by simp))
  have reference {c : Char} (isWordChar : Token.isWordChar c = true) : ReferenceForm ['$', c] :=
    .plain (.char isWordChar .nil) (by simp)
  have max : FunctionForm ['m', 'a', 'x'] :=
    ⟨⟨'m', _, rfl, word_of_isSmallLetter (by decide)⟩, by decide⟩
  have now : FunctionForm ['n', 'o', 'w'] :=
    ⟨⟨'n', _, rfl, word_of_isSmallLetter (by decide)⟩, by decide⟩
  have n : Plain (.source "$n") := .source (reference (by decide))
  have one : Plain (.literal "1") := .literal (digit (by decide))
  have difference : Plain (.binary .subtract (.literal "2") (.literal ".5e-1")) :=
    .binary (.literal (digit (by decide))) (.literal fraction)
  have plain : Plain rate :=
    .conditional
      (.binary (.binary (.binary n one) (.unary difference)) (.source (reference (by decide))))
      (.call max (by simp [n, one]))
      (.conditional n (.call now (by simp)) (.literal (digit (by decide))))
  exact ⟨by decide, plain, (reads_own_text plain).1⟩

end Formula

end ScriptBridge.Arithmetic
