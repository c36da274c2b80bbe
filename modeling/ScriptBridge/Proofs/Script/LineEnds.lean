import ScriptBridge.Proofs.Script.Words

/-!
# Texts in front of a line end

A reader that comes to its end in a text does not look behind a line end that stands after it,
unless a backslash takes the line end away. So what it makes of a text it also makes of it when a
line end with more text follows, and leaves that standing.
-/

namespace ScriptBridge

open Text

/-! ## Texts in front of a line end -/

/-- No backslash takes away a line end behind the text. -/
def EndsPlainly (cs : List Char) : Prop :=
  cs.getLast? ≠ some '\\'

theorem EndsPlainly.suffix
    {cs rest : List Char}
    (plain : EndsPlainly cs)
    (isSuffix : rest <:+ cs) :
    EndsPlainly rest := by
  obtain ⟨front, rfl⟩ := isSuffix
  intro escaped
  apply plain
  rw [List.getLast?_append, escaped, Option.some_or]

theorem EndsPlainly.tail
    {c : Char}
    {rest : List Char}
    (plain : EndsPlainly (c :: rest)) :
    EndsPlainly rest :=
  plain.suffix (List.suffix_cons c rest)

/-- A text that does not end in a backslash has something behind each backslash. -/
theorem EndsPlainly.ne_nil
    {rest : List Char}
    (plain : EndsPlainly ('\\' :: rest)) :
    rest ≠ [] := by
  rintro rfl
  exact plain rfl

/-- A run of characters that a line end does not belong to ends in front of it. -/
theorem takeWhile_take_lineEnd
    {test : Char → Bool}
    (stops : test '\n' = false)
    (limit : Nat)
    (cs more : List Char) :
    ((cs ++ '\n' :: more).take limit).takeWhile test = (cs.take limit).takeWhile test := by
  induction cs generalizing limit with
  | nil => cases limit <;> simp [stops]
  | cons c cs inductionHypothesis =>
      cases limit with
      | zero => rfl
      | succ limit =>
          rw [List.cons_append, List.take_succ_cons, List.take_succ_cons, List.takeWhile_cons,
            List.takeWhile_cons, inductionHypothesis]

theorem dropWhile_lineEnd
    {test : Char → Bool}
    (stops : test '\n' = false)
    (cs more : List Char) :
    (cs ++ '\n' :: more).dropWhile test = cs.dropWhile test ++ '\n' :: more := by
  induction cs with
  | nil => simp [stops]
  | cons c cs inductionHypothesis =>
      rw [List.cons_append, List.dropWhile_cons, List.dropWhile_cons, inductionHypothesis]
      split
      · rfl
      · rfl

theorem readCode_lineEnd (mark : Char) (limit : Nat) (cs more : List Char) :
    readCode mark limit (cs ++ '\n' :: more) =
      ((readCode mark limit cs).1, (readCode mark limit cs).2 ++ '\n' :: more) := by
  have noDigit : Numeral.isDigitOf 16 '\n' = false := by decide
  unfold readCode
  rw [takeWhile_take_lineEnd noDigit]
  dsimp only
  split
  · rfl
  · have within : ((cs.take limit).takeWhile (Numeral.isDigitOf 16)).length ≤ cs.length :=
      ((List.takeWhile_sublist _).trans (List.take_sublist _ _)).length_le
    rw [List.drop_append_of_le_length within]

theorem readCode_suffix (mark : Char) (limit : Nat) (cs : List Char) :
    (readCode mark limit cs).2 <:+ cs := by
  unfold readCode
  dsimp only
  split
  · exact List.suffix_rfl
  · exact List.drop_suffix _ _

theorem readEscape_lineEnd
    {cs : List Char}
    (nonempty : cs ≠ [])
    (more : List Char) :
    readEscape (cs ++ '\n' :: more) =
      ((readEscape cs).1, (readEscape cs).2 ++ '\n' :: more) := by
  have noBlank : isLineBlank '\n' = false := by decide
  fun_cases readEscape cs with
  | case1 => exact absurd rfl nonempty
  | case2 rest => rw [List.cons_append, readEscape, dropWhile_lineEnd noBlank]
  | case3 rest => rw [List.cons_append, readEscape, readCode_lineEnd]
  | case4 rest => rw [List.cons_append, readEscape, readCode_lineEnd]
  | case5 c rest notNewline notX notU =>
      rw [List.cons_append, readEscape]
      all_goals assumption

theorem readEscape_suffix (cs : List Char) : (readEscape cs).2 <:+ cs := by
  unfold readEscape
  split
  · exact List.nil_suffix
  · exact (List.dropWhile_suffix _).trans (List.suffix_cons _ _)
  · exact (readCode_suffix _ _ _).trans (List.suffix_cons _ _)
  · exact (readCode_suffix _ _ _).trans (List.suffix_cons _ _)
  · exact List.suffix_cons _ _

theorem splitBraced_append_of_some
    {depth : Nat}
    {cs inside after : List Char}
    (split : splitBraced depth cs = some (inside, after))
    (more : List Char) :
    splitBraced depth (cs ++ more) = some (inside, after ++ more) := by
  fun_induction splitBraced depth cs generalizing inside after with
  | case1 => cases split
  | case2 => cases split
  | case3 depth c rest inductionHypothesis =>
      obtain ⟨⟨inner, outer⟩, found, equality⟩ := Option.map_eq_some_iff.mp split
      obtain ⟨rfl, rfl⟩ := Prod.mk.inj equality
      simp [splitBraced, inductionHypothesis found]
  | case4 depth rest inductionHypothesis =>
      obtain ⟨⟨inner, outer⟩, found, equality⟩ := Option.map_eq_some_iff.mp split
      obtain ⟨rfl, rfl⟩ := Prod.mk.inj equality
      simp [splitBraced, inductionHypothesis found]
  | case5 rest =>
      obtain ⟨rfl, rfl⟩ := Prod.mk.inj (Option.some.inj split)
      rfl
  | case6 rest depth inductionHypothesis =>
      obtain ⟨⟨inner, outer⟩, found, equality⟩ := Option.map_eq_some_iff.mp split
      obtain ⟨rfl, rfl⟩ := Prod.mk.inj equality
      simp [splitBraced, inductionHypothesis found]
  | case7 depth c rest notLast notEscape notOpen notClose inductionHypothesis =>
      obtain ⟨⟨inner, outer⟩, found, equality⟩ := Option.map_eq_some_iff.mp split
      obtain ⟨rfl, rfl⟩ := Prod.mk.inj equality
      have notBackslash := ne_backslash notLast notEscape
      rw [List.cons_append, splitBraced, inductionHypothesis found]
      · rfl
      · exact fun equality _ => notBackslash equality
      · exact fun _ _ equality _ => notBackslash equality
      · exact notOpen
      · exact notClose

/-- No pair of colons is made by a line end behind the text. -/
theorem no_colons_lineEnd
    {c : Char}
    {rest : List Char}
    (notPair : ∀ others, c = ':' → rest = ':' :: others → False)
    (more others : List Char)
    (isColon : c = ':')
    (colonBehind : rest ++ '\n' :: more = ':' :: others) :
    False := by
  cases rest with
  | nil => cases colonBehind
  | cons next behind =>
      obtain ⟨rfl, -⟩ := List.cons.inj colonBehind
      exact notPair behind isColon rfl

theorem takeName_lineEnd (cs more : List Char) :
    takeName (cs ++ '\n' :: more) = ((takeName cs).1, (takeName cs).2 ++ '\n' :: more) := by
  fun_induction takeName cs with
  | case1 => simp [takeName, show isAlphanumeric '\n' = false by decide]
  | case2 rest name after equality inductionHypothesis =>
      rw [List.cons_append, List.cons_append, takeName, inductionHypothesis, equality]
  | case3 c rest notPair isName name after equality inductionHypothesis =>
      rw [List.cons_append, takeName.eq_3 c _ (no_colons_lineEnd notPair more), if_pos isName,
        inductionHypothesis, equality]
  | case4 c rest notPair notName =>
      rw [List.cons_append, takeName.eq_3 c _ (no_colons_lineEnd notPair more), if_neg notName]

theorem splitAtBrace_append_of_some
    {cs name after : List Char}
    (split : splitAtBrace cs = some (name, after))
    (more : List Char) :
    splitAtBrace (cs ++ more) = some (name, after ++ more) := by
  fun_induction splitAtBrace cs generalizing name after with
  | case1 => cases split
  | case2 rest =>
      obtain ⟨rfl, rfl⟩ := Prod.mk.inj (Option.some.inj split)
      rfl
  | case3 c rest notClose inductionHypothesis =>
      obtain ⟨⟨inner, outer⟩, found, equality⟩ := Option.map_eq_some_iff.mp split
      obtain ⟨rfl, rfl⟩ := Prod.mk.inj equality
      rw [List.cons_append, splitAtBrace, inductionHypothesis found]
      · rfl
      · exact notClose

theorem dropComment_suffix (cs : List Char) : dropComment cs <:+ cs := by
  fun_induction dropComment cs with
  | case1 => exact List.nil_suffix
  | case2 => exact List.nil_suffix
  | case3 c rest inductionHypothesis =>
      exact inductionHypothesis.trans
        ((List.suffix_cons c rest).trans (List.suffix_cons '\\' (c :: rest)))
  | case4 rest => exact List.suffix_rfl
  | case5 c rest _ _ _ inductionHypothesis =>
      exact inductionHypothesis.trans (List.suffix_cons c rest)

theorem dropComment_lineEnd
    {cs : List Char}
    (plain : EndsPlainly cs)
    (more : List Char) :
    dropComment (cs ++ '\n' :: more) = dropComment cs ++ '\n' :: more := by
  fun_induction dropComment cs with
  | case1 => rfl
  | case2 => exact absurd rfl plain
  | case3 c rest inductionHypothesis =>
      rw [List.cons_append, List.cons_append, dropComment, inductionHypothesis plain.tail.tail]
  | case4 rest => rfl
  | case5 c rest notLast notEscape notEnd inductionHypothesis =>
      have notBackslash := ne_backslash notLast notEscape
      rw [List.cons_append, dropComment, inductionHypothesis plain.tail]
      · exact fun equality _ => notBackslash equality
      · exact fun _ _ equality _ => notBackslash equality
      · exact notEnd

/-! ## Readers in front of a line end -/

theorem endsWordAt_newline (nested : Bool) : endsWordAt nested '\n' = true := by
  simp [endsWordAt, isBlank_newline]

theorem endsWord_lineEnd
    {nested : Bool}
    {cs : List Char}
    (ends : endsWord nested cs = true)
    (more : List Char) :
    endsWord nested (cs ++ '\n' :: more) = true := by
  cases cs with
  | nil => exact endsWordAt_newline nested
  | cons c cs => exact ends

variable {α : Type} {limit : Nat}

theorem readReference_of_split
    {rest name after : List Char}
    (split : splitAtBrace rest = some (name, after)) :
    (readReference ('{' :: rest)).Gives (.variable (String.ofList name)) after := by
  rw [readReference]
  split
  · rename_i found foundAfter foundSplit
    obtain ⟨rfl, rfl⟩ := Prod.mk.inj (Option.some.inj (foundSplit.symm.trans split))
    exact ⟨_, rfl⟩
  · rename_i noSplit
    rw [noSplit] at split
    cases split

theorem readReference_of_no_split
    {rest : List Char}
    (noSplit : splitAtBrace rest = none) :
    readReference ('{' :: rest) = .cut (.literal []) .openName := by
  rw [readReference]
  split
  · rename_i split
    rw [noSplit] at split
    cases split
  · rfl

theorem readReference_of_no_brace
    {cs : List Char}
    (noBrace : ∀ rest, cs = '{' :: rest → False) :
    (readReference cs).Gives
      (if (takeName cs).1.isEmpty then .literal ['$']
        else .variable (String.ofList (takeName cs).1))
      (takeName cs).2 := by
  unfold readReference
  split
  · exact absurd rfl (noBrace _)
  · exact ⟨_, rfl⟩

/-- A reference has a name in braces or one without. -/
theorem gives_readReference_cases
    {cs after : List Char}
    {piece : Piece}
    (gives : (readReference cs).Gives piece after) :
    (∃ rest name, cs = '{' :: rest ∧ splitAtBrace rest = some (name, after) ∧
      piece = .variable (String.ofList name)) ∨
    ((∀ rest, cs = '{' :: rest → False) ∧ after = (takeName cs).2 ∧
      piece = if (takeName cs).1.isEmpty then .literal ['$']
        else .variable (String.ofList (takeName cs).1)) := by
  by_cases brace : ∃ rest, cs = '{' :: rest
  · obtain ⟨rest, rfl⟩ := brace
    cases split : splitAtBrace rest with
    | none =>
        rw [readReference_of_no_split split] at gives
        exact (Reading.gives_cut_iff.mp gives).elim
    | some parts =>
        obtain ⟨name, behind⟩ := parts
        obtain ⟨rfl, rfl⟩ := (readReference_of_split split).unique gives
        exact .inl ⟨rest, name, rfl, split, rfl⟩
  · have noBrace : ∀ rest, cs = '{' :: rest → False := fun rest isBrace => brace ⟨rest, isBrace⟩
    obtain ⟨rfl, rfl⟩ := (readReference_of_no_brace noBrace).unique gives
    exact .inr ⟨noBrace, rfl, rfl⟩

theorem readReference_lineEnd
    {cs after : List Char}
    {piece : Piece}
    (gives : (readReference cs).Gives piece after)
    (more : List Char) :
    after <:+ cs ∧ (readReference (cs ++ '\n' :: more)).Gives piece (after ++ '\n' :: more) := by
  rcases gives_readReference_cases gives with ⟨rest, name, rfl, split, rfl⟩ | ⟨noBrace, rfl, rfl⟩
  · refine ⟨?_, readReference_of_split (splitAtBrace_append_of_some split ('\n' :: more))⟩
    rw [splitAtBrace_append split]
    exact (List.suffix_cons '}' after).trans (List.suffix_append ('{' :: name) _)
  · have noBraceBehind : ∀ rest, cs ++ '\n' :: more = '{' :: rest → False := by
      intro rest equality
      cases cs with
      | nil => cases equality
      | cons c cs =>
          obtain ⟨rfl, -⟩ := List.cons.inj equality
          exact noBrace cs rfl
    have long := readReference_of_no_brace noBraceBehind
    rw [takeName_lineEnd] at long
    exact ⟨⟨_, takeName_append cs⟩, long⟩

/-! ## Scripts one after the other -/

namespace Script

/-- The commands of one script and then those of another. Nothing follows a command that a fault
cuts off. -/
def andThen : Script → Script → Script
  | .done, next => next
  | .command words rest, next => .command words (rest.andThen next)
  | .cut words last fault, _ => .cut words last fault

/-- The last command of the script is one that a fault cuts off. -/
def EndsCut : Script → Prop
  | .done => False
  | .command _ rest => rest.EndsCut
  | .cut _ _ _ => True

theorem andThen_finish (words : Option (List Word)) (script next : Script) :
    (finish words script).andThen next = finish words (script.andThen next) := by
  cases words <;> rfl

theorem endsCut_finish
    {words : Option (List Word)}
    {script : Script}
    (endsCut : script.EndsCut) :
    (finish words script).EndsCut := by
  cases words <;> exact endsCut

end Script

/-- What reading goes on as behind a script with a line end and more text behind it. In brackets the
script has its own end, and what is behind that is left; at the top level the next commands are
those of the further text. -/
def Continues
    (nested : Bool)
    (script : Script)
    (rest more : List Char)
    (reading : Reading Script limit) : Prop :=
  if nested then
    reading.Gives script (rest ++ '\n' :: more)
  else
    reading.value = script.andThen (readScript false none more).value

theorem Continues.widen
    {nested : Bool}
    {script : Script}
    {rest more : List Char}
    {larger : Nat}
    {reading : Reading Script limit}
    (continues : Continues nested script rest more reading)
    (bound : limit ≤ larger) :
    Continues nested script rest more (reading.widen bound) := by
  cases nested with
  | true => exact Reading.Gives.widen continues bound
  | false => exact (Reading.value_widen bound).trans continues

theorem Continues.finish
    {nested : Bool}
    {script : Script}
    {rest more : List Char}
    {reading : Reading Script limit}
    (continues : Continues nested script rest more reading)
    (words : Option (List Word)) :
    Continues nested (Script.finish words script) rest more
      (reading.map (Script.finish words)) := by
  cases nested with
  | true => exact Reading.Gives.map continues _
  | false =>
      have value : reading.value = script.andThen (readScript false none more).value := continues
      show (reading.map (Script.finish words)).value = _
      rw [Reading.value_map, value, Script.andThen_finish]

/-- A line end behind the words of a command ends it, and what is behind it starts afresh. -/
theorem continues_newline
    {nested : Bool}
    (topLevel : ¬nested = true)
    (words : Option (List Word))
    (more : List Char) :
    Continues nested (Script.finish words .done) [] more
      (readScript nested words ('\n' :: more)) := by
  obtain rfl : nested = false := Bool.eq_false_iff.mpr topLevel
  show (readScript false words ('\n' :: more)).value = _
  rw [readScript, Script.andThen_finish]
  simp [isLineBlank, Script.andThen]

theorem readPiece_dollar (rest : List Char) : readPiece '$' rest = readReference rest := by
  rw [readPiece]
  rfl

theorem readPiece_bracket (rest : List Char) :
    readPiece '[' rest = (readScript true none rest).map .command := by
  rw [readPiece]
  rfl

/-- Pieces that are read are read one after the other. -/
theorem gives_readPieces_cons
    {stop : Char → Bool}
    {c : Char}
    {cs after : List Char}
    {pieces : List Piece}
    (goesOn : stop c = false)
    (gives : (readPieces stop (c :: cs)).Gives pieces after) :
    ∃ piece behind others, (readPiece c cs).Gives piece behind ∧
      (readPieces stop behind).Gives others after ∧ pieces = piece :: others := by
  rw [readPieces] at gives
  simp only [goesOn, Bool.false_eq_true, if_false] at gives
  split at gives
  next piece behind within first =>
    obtain ⟨others, givesOthers, rfl⟩ :=
      Reading.gives_map_iff.mp (Reading.gives_widen_iff.mp gives)
    exact ⟨piece, behind, others, ⟨within, first⟩, givesOthers, rfl⟩
  next => exact (Reading.gives_cut_iff.mp gives).elim

/-- Reading pieces stops at once or goes on behind a first piece. -/
theorem gives_readPieces_cases
    {stop : Char → Bool}
    {cs after : List Char}
    {pieces : List Piece}
    (gives : (readPieces stop cs).Gives pieces after) :
    (Stops stop cs ∧ pieces = [] ∧ after = cs) ∨
      ∃ c rest piece behind others, cs = c :: rest ∧ stop c = false ∧
        (readPiece c rest).Gives piece behind ∧ (readPieces stop behind).Gives others after ∧
        pieces = piece :: others := by
  cases cs with
  | nil =>
      have stops : Stops stop [] := trivial
      obtain ⟨rfl, rfl⟩ := (readPieces_of_stops stops).unique gives
      exact .inl ⟨stops, rfl, rfl⟩
  | cons c rest =>
      by_cases goesOn : stop c = false
      · obtain ⟨piece, behind, others, first, givesOthers, rfl⟩ :=
          gives_readPieces_cons goesOn gives
        exact .inr ⟨c, rest, piece, behind, others, rfl, goesOn, first, givesOthers, rfl⟩
      · have stops : Stops stop (c :: rest) := by simpa [Stops] using goesOn
        obtain ⟨rfl, rfl⟩ := (readPieces_of_stops stops).unique gives
        exact .inl ⟨stops, rfl, rfl⟩

theorem gives_readWord_bare_iff
    {nested : Bool}
    {c : Char}
    {cs after : List Char}
    {word : Word}
    (notBrace : c ≠ '{')
    (notQuote : c ≠ '"') :
    (readWord nested c cs).Gives word after ↔
      endsWordAt nested c = false ∧ ∃ piece behind others, (readPiece c cs).Gives piece behind ∧
        (readPieces (endsWordAt nested) behind).Gives others after ∧ word = piece :: others := by
  constructor
  · intro gives
    obtain ⟨taken, moved⟩ := gives_readWord_iff.mp gives
    rw [takeWord_bare notBrace notQuote] at taken
    have goesOn : endsWordAt nested c = false := by
      by_contra ends
      rw [Bool.not_eq_false] at ends
      obtain ⟨-, rfl⟩ := taken.unique (readPieces_of_stops ends)
      exact Nat.not_succ_le_self _ moved
    obtain ⟨piece, behind, others, first, givesOthers, rfl⟩ := gives_readPieces_cons goesOn taken
    exact ⟨goesOn, piece, behind, others, first, givesOthers, rfl⟩
  · rintro ⟨goesOn, piece, behind, others, first, givesOthers, rfl⟩
    exact readWord_bare notBrace notQuote goesOn first givesOthers

mutual

theorem readPiece_lineEnd
    {c : Char}
    {cs after : List Char}
    {piece : Piece}
    (plain : EndsPlainly (c :: cs))
    (gives : (readPiece c cs).Gives piece after)
    (more : List Char) :
    after <:+ cs ∧ (readPiece c (cs ++ '\n' :: more)).Gives piece (after ++ '\n' :: more) := by
  by_cases isDollar : c = '$'
  · subst isDollar
    rw [readPiece_dollar] at gives ⊢
    exact readReference_lineEnd gives more
  by_cases isBracket : c = '['
  · subst isBracket
    rw [readPiece_bracket] at gives ⊢
    obtain ⟨body, givesBody, rfl⟩ := Reading.gives_map_iff.mp gives
    obtain ⟨isSuffix, continues⟩ := readScript_lineEnd plain.tail givesBody more
    exact ⟨isSuffix, Reading.Gives.map continues _⟩
  by_cases isBackslash : c = '\\'
  · subst isBackslash
    obtain ⟨rfl, rfl⟩ := (readPiece_backslash cs).unique gives
    have long := readPiece_backslash (cs ++ '\n' :: more)
    rw [readEscape_lineEnd plain.ne_nil] at long
    exact ⟨readEscape_suffix cs, long⟩
  · obtain ⟨rfl, rfl⟩ := (readPiece_plain isDollar isBracket isBackslash cs).unique gives
    exact ⟨List.suffix_rfl, readPiece_plain isDollar isBracket isBackslash _⟩
  termination_by (cs.length, 3)

theorem readPieces_lineEnd
    {stop : Char → Bool}
    {cs after : List Char}
    {pieces : List Piece}
    (plain : EndsPlainly cs)
    (stops : stop '\n' = true ∨ after ≠ [])
    (gives : (readPieces stop cs).Gives pieces after)
    (more : List Char) :
    after <:+ cs ∧ (readPieces stop (cs ++ '\n' :: more)).Gives pieces (after ++ '\n' :: more) := by
  rcases gives_readPieces_cases gives with
    ⟨stopsHere, rfl, rfl⟩ | ⟨c, rest, piece, behind, others, same, goesOn, first, givesOthers, rfl⟩
  · refine ⟨List.suffix_rfl, readPieces_of_stops ?_⟩
    cases after with
    | nil => exact stops.resolve_right (absurd rfl)
    | cons => exact stopsHere
  · have length := congrArg List.length same
    rw [same] at plain ⊢
    obtain ⟨behindSuffix, firstLong⟩ := readPiece_lineEnd plain first more
    have shorter := behindSuffix.length_le
    obtain ⟨afterSuffix, othersLong⟩ :=
      readPieces_lineEnd (plain.tail.suffix behindSuffix) stops givesOthers more
    exact ⟨afterSuffix.trans (behindSuffix.trans (List.suffix_cons c rest)),
      readPieces_cons goesOn firstLong othersLong⟩
  termination_by (cs.length, 0)
  decreasing_by
    all_goals
      simp only [Prod.lex_def, List.length_cons] at length ⊢
      omega

theorem readWord_lineEnd
    {nested : Bool}
    {c : Char}
    {cs after : List Char}
    {word : Word}
    (plain : EndsPlainly (c :: cs))
    (gives : (readWord nested c cs).Gives word after)
    (more : List Char) :
    after <:+ cs ∧
      (readWord nested c (cs ++ '\n' :: more)).Gives word (after ++ '\n' :: more) := by
  by_cases isBrace : c = '{'
  · subst isBrace
    obtain ⟨inside, found, ends, rfl⟩ := gives_readWord_brace_iff.mp gives
    have isSuffix : after <:+ cs := by
      rw [splitBraced_append found]
      exact (List.suffix_cons '}' after).trans (List.suffix_append inside _)
    exact ⟨isSuffix, gives_readWord_brace_iff.mpr
      ⟨inside, splitBraced_append_of_some found _, endsWord_lineEnd ends more, rfl⟩⟩
  by_cases isQuote : c = '"'
  · subst isQuote
    obtain ⟨mark, read, ends⟩ := gives_readWord_quote_iff.mp gives
    obtain ⟨isSuffix, readLong⟩ :=
      readPieces_lineEnd plain.tail (.inr (List.cons_ne_nil mark after)) read more
    exact ⟨(List.suffix_cons mark after).trans isSuffix,
      gives_readWord_quote_iff.mpr ⟨mark, readLong, endsWord_lineEnd ends more⟩⟩
  · obtain ⟨goesOn, piece, behind, others, first, givesOthers, rfl⟩ :=
      (gives_readWord_bare_iff isBrace isQuote).mp gives
    obtain ⟨behindSuffix, firstLong⟩ := readPiece_lineEnd plain first more
    have shorter := behindSuffix.length_le
    obtain ⟨afterSuffix, othersLong⟩ := readPieces_lineEnd (plain.tail.suffix behindSuffix)
      (.inl (endsWordAt_newline nested)) givesOthers more
    exact ⟨afterSuffix.trans behindSuffix,
      readWord_bare isBrace isQuote goesOn firstLong othersLong⟩
  termination_by (cs.length, 4)
  decreasing_by
    · exact Prod.Lex.right _ (by decide)
    · exact Prod.Lex.right _ (by decide)
    · simp only [Prod.lex_def]
      omega

theorem readScript_lineEnd
    {nested : Bool}
    {words : Option (List Word)}
    {cs after : List Char}
    {script : Script}
    (plain : EndsPlainly cs)
    (gives : (readScript nested words cs).Gives script after)
    (more : List Char) :
    after <:+ cs ∧
      Continues nested script after more (readScript nested words (cs ++ '\n' :: more)) := by
  match cs, plain, gives with
  | [], _, gives =>
      rw [readScript] at gives
      split at gives
      next => exact (Reading.gives_cut_iff.mp gives).elim
      next topLevel =>
        obtain ⟨rfl, rfl⟩ := Reading.gives_complete_iff.mp gives
        exact ⟨List.suffix_rfl, continues_newline topLevel words more⟩
  | c :: rest, plain, gives =>
      have joined : (c = '\\' && (rest ++ '\n' :: more).head? = some '\n') =
          (c = '\\' && rest.head? = some '\n') := by
        by_cases isBackslash : c = '\\'
        · subst isBackslash
          rw [List.head?_append_of_ne_nil _ plain.ne_nil]
        · simp [isBackslash]
      rw [readScript] at gives
      rw [List.cons_append, readScript, joined]
      split at gives
      next isBlank =>
        obtain ⟨isSuffix, continues⟩ :=
          readScript_lineEnd plain.tail (Reading.gives_widen_iff.mp gives) more
        rw [if_pos isBlank]
        exact ⟨isSuffix.trans (List.suffix_cons c rest), continues.widen _⟩
      next notBlank =>
      rw [if_neg notBlank]
      split at gives
      next isJoin =>
        have nonempty : rest ≠ [] := by
          rintro rfl
          simp at isJoin
        have shorter := (List.tail_suffix rest).length_le
        obtain ⟨isSuffix, continues⟩ := readScript_lineEnd
          (plain.tail.suffix (List.tail_suffix rest)) (Reading.gives_widen_iff.mp gives) more
        rw [← List.tail_append_of_ne_nil nonempty] at continues
        rw [if_pos isJoin]
        exact ⟨(isSuffix.trans (List.tail_suffix rest)).trans (List.suffix_cons c rest),
          continues.widen _⟩
      next notJoin =>
      rw [if_neg notJoin]
      split at gives
      next isEnd =>
        obtain ⟨next, givesNext, rfl⟩ :=
          Reading.gives_map_iff.mp (Reading.gives_widen_iff.mp gives)
        obtain ⟨isSuffix, continues⟩ := readScript_lineEnd plain.tail givesNext more
        rw [if_pos isEnd]
        exact ⟨isSuffix.trans (List.suffix_cons c rest), (continues.finish words).widen _⟩
      next notEnd =>
      rw [if_neg notEnd]
      split at gives
      next isClose =>
        obtain ⟨rfl, rfl⟩ := Reading.gives_complete_iff.mp gives
        rw [if_pos isClose]
        obtain ⟨rfl, -⟩ := Bool.and_eq_true_iff.mp isClose
        exact ⟨List.suffix_cons c rest, _, rfl⟩
      next notClose =>
      rw [if_neg notClose]
      split at gives
      next isSpace =>
        obtain ⟨isSuffix, continues⟩ :=
          readScript_lineEnd plain.tail (Reading.gives_widen_iff.mp gives) more
        rw [if_pos isSpace]
        exact ⟨isSuffix.trans (List.suffix_cons c rest), continues.widen _⟩
      next notSpace =>
      rw [if_neg notSpace]
      split at gives
      next isComment =>
        have shorter := dropComment_length_le rest
        obtain ⟨isSuffix, continues⟩ := readScript_lineEnd
          (plain.tail.suffix (dropComment_suffix rest)) (Reading.gives_widen_iff.mp gives) more
        rw [← dropComment_lineEnd plain.tail] at continues
        rw [if_pos isComment]
        exact ⟨(isSuffix.trans (dropComment_suffix rest)).trans (List.suffix_cons c rest),
          continues.widen _⟩
      next notComment =>
      rw [if_neg notComment]
      split at gives
      next word behind within read =>
        obtain ⟨behindSuffix, withinLong, readLong⟩ := readWord_lineEnd plain ⟨within, read⟩ more
        have shorter := behindSuffix.length_le
        obtain ⟨isSuffix, continues⟩ := readScript_lineEnd
          (plain.tail.suffix behindSuffix) (Reading.gives_widen_iff.mp gives) more
        simp only [readLong]
        exact ⟨(isSuffix.trans behindSuffix).trans (List.suffix_cons c rest), continues.widen _⟩
      next => exact (Reading.gives_cut_iff.mp gives).elim
  termination_by (cs.length, 2)
  decreasing_by
    all_goals
      simp only [Prod.lex_def, List.length_cons, List.length_tail]
      omega

end

end ScriptBridge
