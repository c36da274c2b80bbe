import ScriptBridge.Proofs.Script.Passages

/-!
# Progress of the reader

A word ends behind the place where it starts, unless a blank stands there that separates no words:
then the word is empty and the reader comes to the same place again. Where all blanks are spaces,
tabs and line ends, each part of a script takes some of the text.
-/

namespace ScriptBridge

open Text

variable {α β : Type} {limit larger : Nat} {nested : Bool} {words later last : Option (List Word)}
  {c : Char} {cs rest after : List Char} {part : ScriptPart} {parts : List ScriptPart}

/-! ## Words -/

theorem takeWord_of_isBlank
    (blank : isBlank c = true)
    (nested : Bool)
    (rest : List Char) :
    (takeWord nested c rest).Gives [] (c :: rest) := by
  have notBrace : c ≠ '{' := ne_of_isBlank blank (by decide)
  have notQuote : c ≠ '"' := ne_of_isBlank blank (by decide)
  have stops : Stops (endsWordAt nested) (c :: rest) := by simp [Stops, endsWordAt, blank]
  rw [takeWord_bare notBrace notQuote]
  exact readPieces_of_stops stops

/-- A word that starts with no blank takes its first character. -/
theorem length_le_of_takeWord
    {word : Word}
    (starts : StartsWord nested c rest)
    (notBlank : isBlank c = false)
    (gives : (takeWord nested c rest).Gives word after) :
    after.length ≤ rest.length := by
  by_cases isBrace : c = '{'
  · subst isBrace
    obtain ⟨inside, found, -⟩ := gives_takeWord_brace_iff.mp gives
    exact Nat.le_of_lt (splitBraced_length_lt found)
  by_cases isQuote : c = '"'
  · subst isQuote
    obtain ⟨mark, ⟨within, -⟩, -⟩ := gives_takeWord_quote_iff.mp gives
    exact Nat.le_of_succ_le within
  · have goesOn : endsWordAt nested c = false := by
      simpa [endsWordAt, notBlank, starts.notEnd.2] using starts.notClose
    rw [takeWord_bare isBrace isQuote] at gives
    obtain ⟨piece, behind, others, ⟨within, -⟩, ⟨withinOthers, -⟩, -⟩ :=
      gives_readPieces_cons goesOn gives
    exact Nat.le_trans withinOthers within

/-! ## Steps -/

/-- All blanks of the text are spaces, tabs and line ends. -/
def PlainBlanks (cs : List Char) : Prop :=
  ∀ c ∈ cs, isBlank c = true → isLineBlank c = true ∨ c = '\n'

theorem PlainBlanks.suffix
    (plain : PlainBlanks cs)
    (isSuffix : rest <:+ cs) :
    PlainBlanks rest :=
  fun c member => plain c (isSuffix.subset member)

theorem PlainBlanks.isBlank_eq_false
    (plain : PlainBlanks (c :: rest))
    (starts : StartsWord nested c rest) :
    isBlank c = false := by
  by_contra blank
  rw [Bool.not_eq_false] at blank
  rcases plain c List.mem_cons_self blank with lineBlank | isNewline
  · rw [starts.notBlank] at lineBlank
    cases lineBlank
  · exact starts.notEnd.1 isNewline

theorem Takes.suffix (takes : Takes nested words cs part later rest) : rest <:+ cs := by
  cases takes with
  | blank | margin | separator => exact List.suffix_cons _ _
  | joint => exact (List.suffix_cons '\n' rest).trans (List.suffix_cons '\\' _)
  | comment => exact (dropComment_suffix _).trans (List.suffix_cons _ _)
  | word _ _ taken => exact (passes_takeWord taken).suffix

theorem Takes.moves
    (takes : Takes nested words cs part later rest)
    (plain : PlainBlanks cs) :
    rest.length < cs.length := by
  by_cases isWord : ∃ word, part = .word word
  · obtain ⟨word, rfl⟩ := isWord
    cases takes with
    | word starts _ taken =>
        exact Nat.lt_succ_of_le (length_le_of_takeWord starts (plain.isBlank_eq_false starts) taken)
  · exact takes.moves_of_not_word (not_exists.mp isWord)

/-! ## Runs -/

/-- Steps of the reader of scripts, one after the other. -/
inductive TakesAll (nested : Bool) :
    Option (List Word) → List Char → List ScriptPart → Option (List Word) → List Char → Prop where
  | nil {words : Option (List Word)} {cs : List Char} : TakesAll nested words cs [] words cs
  | cons {words later last : Option (List Word)} {cs rest after : List Char} {part : ScriptPart}
      {parts : List ScriptPart} :
      Takes nested words cs part later rest → TakesAll nested later rest parts last after →
        TakesAll nested words cs (part :: parts) last after

theorem TakesAll.suffix (run : TakesAll nested words cs parts last after) : after <:+ cs := by
  induction run with
  | nil => exact List.suffix_rfl
  | cons takes _ inductionHypothesis => exact inductionHypothesis.trans takes.suffix

theorem TakesAll.moves
    (run : TakesAll nested words cs parts last after)
    (plain : PlainBlanks cs) :
    parts.length + after.length ≤ cs.length := by
  induction run with
  | nil => simp
  | cons takes _ inductionHypothesis =>
      have moves := takes.moves plain
      have behind := inductionHypothesis (plain.suffix takes.suffix)
      simp only [List.length_cons]
      omega

theorem exists_takesAll
    (plain : PlainBlanks cs)
    (words : Option (List Word)) :
    ∃ parts last after, TakesAll nested words cs parts last after ∧ StopsAt nested last after := by
  induction length : cs.length using Nat.strongRecOn generalizing words cs with
  | _ size inductionHypothesis =>
      subst length
      rcases takes_or_stopsAt nested words cs with ⟨part, later, rest, takes⟩ | stops
      · obtain ⟨parts, last, after, run, stops⟩ := inductionHypothesis rest.length
          (takes.moves plain) (plain.suffix takes.suffix) later rfl
        exact ⟨part :: parts, last, after, .cons takes run, stops⟩
      · exact ⟨[], words, cs, .nil, stops⟩

/-! ## Readings that are not stuck -/

/-- The reading does not come to a word that would be read for ever. -/
def Reading.Moves (reading : Reading α limit) : Prop :=
  ∀ value, reading ≠ .cut value .stuck

theorem Reading.Moves.map
    {reading : Reading α limit}
    (moves : reading.Moves)
    (change : α → β) :
    (reading.map change).Moves := by
  cases reading with
  | complete => simp [Moves, Reading.map]
  | cut value fault =>
      rintro changed same
      cases same
      exact moves value rfl

theorem Reading.Moves.widen
    {reading : Reading α limit}
    (moves : reading.Moves)
    (bound : limit ≤ larger) :
    (reading.widen bound).Moves := by
  cases reading with
  | complete => simp [Moves, Reading.widen]
  | cut value fault =>
      rintro found same
      cases same
      exact moves value rfl

theorem Reading.moves_complete
    {value : α}
    {within : rest.length ≤ limit} :
    (complete value rest within).Moves := by
  simp [Moves]

theorem Reading.moves_cut
    {value : α}
    {fault : ScanFault}
    (notStuck : fault ≠ .stuck) :
    (cut value fault : Reading α limit).Moves := by
  simp [Moves, notStuck]

theorem Reading.Moves.fault_ne
    {reading : Reading α limit}
    {value : α}
    {fault : ScanFault}
    (moves : reading.Moves)
    (same : reading = .cut value fault) :
    fault ≠ .stuck := by
  rintro rfl
  exact moves value same

theorem moves_readReference (cs : List Char) : (readReference cs).Moves := by
  unfold readReference
  split
  · split
    · exact Reading.moves_complete
    · exact Reading.moves_cut (by decide)
  · exact Reading.moves_complete

mutual

theorem moves_readPiece
    {c : Char}
    {cs : List Char}
    (plain : PlainBlanks (c :: cs)) :
    (readPiece c cs).Moves := by
  rw [readPiece]
  split
  · exact moves_readReference cs
  split
  · exact (moves_readScript (plain.suffix (List.suffix_cons c cs)) none).map _
  split
  · exact Reading.moves_complete
  · exact Reading.moves_complete
  termination_by (cs.length, 4)

theorem moves_readPieces
    {cs : List Char}
    (stop : Char → Bool)
    (plain : PlainBlanks cs) :
    (readPieces stop cs).Moves := by
  match cs, plain with
  | [], plain =>
      rw [readPieces]
      exact Reading.moves_complete
  | c :: cs, plain =>
      have first := moves_readPiece plain
      rw [readPieces]
      split
      · exact Reading.moves_complete
      split
      · rename_i piece behind within read
        have isSuffix := (passes_readPiece ⟨within, read⟩).suffix
        exact ((moves_readPieces stop (plain.suffix isSuffix)).map _).widen _
      · rename_i piece fault read
        exact Reading.moves_cut (first.fault_ne read)
  termination_by (cs.length, 0)
  decreasing_by
    · simp only [Prod.lex_def, List.length_cons]
      omega
    · simp only [Prod.lex_def, List.length_cons]
      omega

theorem moves_takeWord
    {c : Char}
    {cs : List Char}
    (nested : Bool)
    (plain : PlainBlanks (c :: cs)) :
    (takeWord nested c cs).Moves := by
  rw [takeWord]
  split
  · split
    · exact Reading.moves_cut (by decide)
    split
    · exact Reading.moves_complete
    · exact Reading.moves_cut (by decide)
  split
  · have inside := moves_readPieces (· = '"') (plain.suffix (List.suffix_cons c cs))
    split
    · rename_i read
      exact Reading.moves_cut (inside.fault_ne read)
    · exact Reading.moves_cut (by decide)
    split
    · exact Reading.moves_complete
    · exact Reading.moves_cut (by decide)
  · exact moves_readPieces (endsWordAt nested) plain
  termination_by (cs.length + 1, 1)
  decreasing_by
    · exact Prod.Lex.right _ (by decide)
    · exact Prod.Lex.left _ _ (Nat.lt_succ_self _)

theorem moves_readScript
    {nested : Bool}
    {cs : List Char}
    (plain : PlainBlanks cs)
    (words : Option (List Word)) :
    (readScript nested words cs).Moves := by
  rcases takes_or_stopsAt nested words cs with ⟨part, later, rest, takes⟩ | stops
  · have shorter := takes.moves plain
    obtain ⟨bound, same⟩ := takes.readScript_eq shorter
    rw [same]
    exact ((moves_readScript (plain.suffix takes.suffix) later).map _).widen _
  · generalize same : cs = text at stops
    cases stops with
    | text =>
        rw [readScript]
        split
        · exact Reading.moves_cut (by decide)
        · exact Reading.moves_complete
    | bracket isNested =>
        subst isNested
        obtain ⟨within, same⟩ := gives_readScript_closeBracket words _
        rw [same]
        exact Reading.moves_complete
    | @fault c rest pieces fault starts command taken =>
        have length := congrArg List.length same
        have cut := (moves_takeWord nested (same ▸ plain)).fault_ne taken
        rw [(readScript_word starts command).2 pieces fault (readWord_of_cut taken)]
        exact Reading.moves_cut cut
  termination_by (cs.length, 3)
  decreasing_by
    · exact Prod.Lex.left _ _ shorter
    · simp only [Prod.lex_def, List.length_cons] at length ⊢
      omega

end

/-! ## Progress -/

/-- Wherever the reader takes a word, the word ends in the text and not in front of its start. It
ends where it starts if and only if a blank stands there, which is then neither space, tab nor line
end. On texts without such blanks every step of the reader takes some characters, the steps come to
an end, and no reader is stuck. -/
theorem reader_makes_progress (text : List Char) :
    (∀ nested start c rest, text.drop start = c :: rest → StartsWord nested c rest →
      (isBlank c = true → (takeWord nested c rest).Gives [] (text.drop start)) ∧
        ∀ word after, (takeWord nested c rest).Gives word after →
          ∃ stop ≤ text.length, after = text.drop stop ∧ start ≤ stop ∧
            (stop = start ↔ isBlank c = true)) ∧
      (PlainBlanks text → ∀ nested words,
        (∀ parts last after, TakesAll nested words text parts last after →
          ∃ stop ≤ text.length, after = text.drop stop ∧ parts.length ≤ stop) ∧
          (∃ parts last after,
            TakesAll nested words text parts last after ∧ StopsAt nested last after) ∧
            ∀ script, readScript nested words text ≠ .cut script .stuck) := by
  refine ⟨?_, ?_⟩
  · intro nested start c rest here starts
    refine ⟨fun blank => by rw [here]; exact takeWord_of_isBlank blank nested rest, ?_⟩
    intro word after gives
    have isSuffix : after <:+ text := by
      have fromHere := (passes_takeWord gives).suffix
      rw [← here] at fromHere
      exact fromHere.trans (List.drop_suffix start text)
    have length := congrArg List.length here
    have within := isSuffix.length_le
    simp only [List.length_drop, List.length_cons] at length
    refine ⟨text.length - after.length, Nat.sub_le _ _, List.suffix_iff_eq_drop.mp isSuffix, ?_⟩
    by_cases blank : isBlank c = true
    · obtain ⟨-, rfl⟩ := gives.unique (takeWord_of_isBlank blank nested rest)
      simp only [blank, iff_true, List.length_cons]
      omega
    · have moved := length_le_of_takeWord starts (by simpa using blank) gives
      simp only [blank, Bool.false_eq_true, iff_false]
      omega
  · intro plain nested words
    refine ⟨?_, exists_takesAll plain words, moves_readScript plain words⟩
    intro parts last after run
    have moves := run.moves plain
    refine ⟨text.length - after.length, Nat.sub_le _ _, ?_, by omega⟩
    exact List.suffix_iff_eq_drop.mp run.suffix

/-- Where a word starts with a blank that does not part words, nothing is taken. Two words are passed one
after the other, up to the bracket that closes them. -/
theorem reader_makes_progress_of_wide_space :
    (takeWord false '\u3000' ['b']).Gives [] ['\u3000', 'b'] ∧
      ∃ parts last after,
        TakesAll true none ['a', ' ', 'b', ']'] parts last after ∧ StopsAt true last after := by
  have starts : StartsWord false '\u3000' ['b'] :=
    { notBlank := by decide
      notJoint := by simp
      notEnd := by decide
      notClose := by simp }
  have plain : PlainBlanks ['a', ' ', 'b', ']'] := by
    intro c member blank
    simp only [List.mem_cons, List.not_mem_nil, or_false] at member
    rcases member with rfl | rfl | rfl | rfl
    · exact absurd blank (by decide)
    · exact .inl (by decide)
    · exact absurd blank (by decide)
    · exact absurd blank (by decide)
  obtain ⟨words, -⟩ := reader_makes_progress ['a', '\u3000', 'b']
  obtain ⟨-, scans⟩ := reader_makes_progress ['a', ' ', 'b', ']']
  exact ⟨(words false 1 '\u3000' ['b'] rfl starts).1 (by decide), (scans plain true none).2.1⟩

end ScriptBridge
