import ScriptBridge.Proofs.Script.Parts

/-!
# Passages of scripts

What the readers of scripts take from a text, as it stands there. In some stretches of it brackets
have no meaning: in braces, in comments and, where they close nothing, between quotes.
-/

namespace ScriptBridge

open Text

/-! ## Names and escapes -/

def isNamePart (c : Char) : Bool :=
  isAlphanumeric c || c = '_' || c = ':'

theorem isNamePart_of_mem_takeName
    {cs : List Char}
    {c : Char}
    (member : c ∈ (takeName cs).1) :
    isNamePart c = true := by
  fun_induction takeName cs with
  | case1 => cases member
  | case2 rest name after equality inductionHypothesis =>
      rw [equality] at inductionHypothesis
      simp only [List.mem_cons] at member
      rcases member with rfl | rfl | member
      · decide
      · decide
      · exact inductionHypothesis member
  | case3 first rest _ isName name after equality inductionHypothesis =>
      rw [equality] at inductionHypothesis
      rcases List.mem_cons.mp member with rfl | member
      · simp only [isNamePart, isName, Bool.true_or]
      · exact inductionHypothesis member
  | case4 => cases member

/-- What follows the first character of an escape: digits of a code, or blanks behind a line end. -/
def isEscapeTail (c : Char) : Bool :=
  Numeral.isDigitOf 16 c || isLineBlank c

theorem readCode_append (mark : Char) (limit : Nat) (cs : List Char) :
    ∃ digits, cs = digits ++ (readCode mark limit cs).2 ∧
      ∀ c ∈ digits, isEscapeTail c = true := by
  have isTail : ∀ c ∈ (cs.take limit).takeWhile (Numeral.isDigitOf 16), isEscapeTail c = true := by
    intro c member
    have isDigit := List.all_eq_true.mp List.all_takeWhile c member
    simp [isEscapeTail, isDigit]
  have isPrefix : (cs.take limit).takeWhile (Numeral.isDigitOf 16) <+: cs :=
    (List.takeWhile_prefix _).trans (List.take_prefix _ _)
  unfold readCode
  dsimp only
  split
  · exact ⟨[], rfl, by simp⟩
  · exact ⟨_, (List.prefix_iff_eq_append.mp isPrefix).symm, isTail⟩

theorem readEscape_append
    {cs : List Char}
    (nonempty : cs ≠ []) :
    ∃ c tail, cs = c :: (tail ++ (readEscape cs).2) ∧
      ∀ other ∈ tail, isEscapeTail other = true := by
  fun_cases readEscape cs with
  | case1 => exact absurd rfl nonempty
  | case2 rest =>
      refine ⟨'\n', rest.takeWhile isLineBlank, ?_, ?_⟩
      · rw [List.takeWhile_append_dropWhile]
      · intro other member
        have lineBlank := List.all_eq_true.mp List.all_takeWhile other member
        simp [isEscapeTail, lineBlank]
  | case3 rest =>
      obtain ⟨digits, split, isTail⟩ := readCode_append 'x' 2 rest
      exact ⟨'x', digits, congrArg _ split, isTail⟩
  | case4 rest =>
      obtain ⟨digits, split, isTail⟩ := readCode_append 'u' 4 rest
      exact ⟨'u', digits, congrArg _ split, isTail⟩
  | case5 c rest => exact ⟨c, [], rfl, by simp⟩

/-! ## Passages -/

inductive PassageKind where
  | piece
  | pieces
  | word
  | script

/-- A text of one of these kinds, and the stretches of it in which brackets have no meaning. -/
inductive Passage : PassageKind → List Char → List (List Char) → Prop where
  /-- Between quotes the character may be a closing bracket. -/
  | char {c : Char} : c ≠ '[' → c ≠ '\\' → Passage .piece [c] [[c]]
  | escape {c : Char} {tail : List Char} :
      (∀ other ∈ tail, isEscapeTail other = true) → Passage .piece ('\\' :: c :: tail) []
  /-- At the end of a text a backslash stands for itself. -/
  | backslash : Passage .piece ['\\'] [['\\']]
  | reference {name : List Char} :
      (∀ c ∈ name, isNamePart c = true) → Passage .piece ('$' :: name) []
  | bracedReference {name : List Char} :
      '}' ∉ name → Passage .piece ('$' :: '{' :: (name ++ ['}'])) [name]
  | command {script : List Char} {stretches : List (List Char)} :
      Passage .script script stretches → Passage .piece ('[' :: (script ++ [']'])) stretches
  | noPieces : Passage .pieces [] []
  | pieces {first others : List Char} {stretches otherStretches : List (List Char)} :
      Passage .piece first stretches → Passage .pieces others otherStretches →
        Passage .pieces (first ++ others) (stretches ++ otherStretches)
  | braced {inside rest : List Char} :
      splitBraced 0 (inside ++ '}' :: rest) = some (inside, rest) →
        Passage .word ('{' :: (inside ++ ['}'])) [inside]
  | quoted {pieces : List Char} {stretches : List (List Char)} :
      Passage .pieces pieces stretches → Passage .word ('"' :: (pieces ++ ['"'])) stretches
  | bare {pieces : List Char} {stretches : List (List Char)} :
      Passage .pieces pieces stretches → Passage .word pieces stretches
  | done : Passage .script [] []
  | blank {c : Char} {rest : List Char} {stretches : List (List Char)} :
      isBlank c = true ∨ c = ';' → Passage .script rest stretches →
        Passage .script (c :: rest) stretches
  | joint {rest : List Char} {stretches : List (List Char)} :
      Passage .script rest stretches → Passage .script ('\\' :: '\n' :: rest) stretches
  | comment {text rest further : List Char} {stretches : List (List Char)} :
      dropComment (text ++ (rest ++ further)) = rest ++ further → Passage .script rest stretches →
        Passage .script ('#' :: (text ++ rest)) (text :: stretches)
  | word {word rest : List Char} {stretches otherStretches : List (List Char)} :
      Passage .word word stretches → Passage .script rest otherStretches →
        Passage .script (word ++ rest) (stretches ++ otherStretches)

/-- The text is a passage of this kind and goes on with `after`. -/
def Passes (kind : PassageKind) (cs after : List Char) : Prop :=
  ∃ taken stretches, cs = taken ++ after ∧ Passage kind taken stretches

theorem Passes.suffix
    {kind : PassageKind}
    {cs after : List Char}
    (passes : Passes kind cs after) :
    after <:+ cs := by
  obtain ⟨taken, stretches, rfl, -⟩ := passes
  exact List.suffix_append taken after

/-! ## What the readers take -/

theorem isBlank_of_isLineBlank
    {c : Char}
    (lineBlank : isLineBlank c = true) :
    isBlank c = true := by
  by_contra notBlank
  rw [Bool.not_eq_true] at notBlank
  rw [isLineBlank_eq_false notBlank] at lineBlank
  cases lineBlank

theorem not_mem_of_splitAtBrace
    {cs name after : List Char}
    (split : splitAtBrace cs = some (name, after)) :
    '}' ∉ name := by
  fun_induction splitAtBrace cs generalizing name after with
  | case1 => cases split
  | case2 rest =>
      cases split
      simp
  | case3 c rest notClose inductionHypothesis =>
      obtain ⟨⟨inner, outer⟩, found, equality⟩ := Option.map_eq_some_iff.mp split
      cases equality
      simp [inductionHypothesis found, Ne.symm notClose]

/-- Pieces end where the reader is to stop. -/
theorem stops_of_gives_readPieces
    {stop : Char → Bool}
    {cs after : List Char}
    {pieces : List Piece}
    (gives : (readPieces stop cs).Gives pieces after) :
    Stops stop after := by
  rcases gives_readPieces_cases gives with
    ⟨stops, -, rfl⟩ | ⟨c, rest, piece, behind, others, same, -, ⟨within, -⟩, givesOthers, -⟩
  · exact stops
  · have length := congrArg List.length same
    exact stops_of_gives_readPieces givesOthers
  termination_by cs.length
  decreasing_by
    simp only [List.length_cons] at length
    omega

theorem passes_readReference
    {cs after : List Char}
    {piece : Piece}
    (gives : (readReference cs).Gives piece after) :
    Passes .piece ('$' :: cs) after := by
  rcases gives_readReference_cases gives with ⟨rest, name, rfl, split, -⟩ | ⟨-, rfl, -⟩
  · refine ⟨_, _, ?_, .bracedReference (not_mem_of_splitAtBrace split)⟩
    simp [splitAtBrace_append split]
  · refine ⟨'$' :: (takeName cs).1, _, ?_, .reference fun c => isNamePart_of_mem_takeName⟩
    rw [List.cons_append, takeName_append]

/-- A complete script is a passage, with the bracket that closes it where there is one. -/
def PassesScript (nested : Bool) (cs after : List Char) : Prop :=
  ∃ script stretches, cs = script ++ ((if nested then [']'] else []) ++ after) ∧
    Passage .script script stretches

mutual

theorem passes_readPiece
    {c : Char}
    {cs after : List Char}
    {piece : Piece}
    (gives : (readPiece c cs).Gives piece after) :
    Passes .piece (c :: cs) after := by
  by_cases isDollar : c = '$'
  · subst isDollar
    rw [readPiece_dollar] at gives
    exact passes_readReference gives
  by_cases isBracket : c = '['
  · subst isBracket
    rw [readPiece_bracket] at gives
    obtain ⟨body, givesBody, rfl⟩ := Reading.gives_map_iff.mp gives
    obtain ⟨script, stretches, rfl, passage⟩ := passes_readScript givesBody
    exact ⟨_, _, by simp, .command passage⟩
  by_cases isBackslash : c = '\\'
  · subst isBackslash
    obtain ⟨rfl, rfl⟩ := (readPiece_backslash cs).unique gives
    by_cases isEnd : cs = []
    · subst isEnd
      exact ⟨_, _, rfl, .backslash⟩
    · obtain ⟨next, tail, split, isTail⟩ := readEscape_append isEnd
      exact ⟨'\\' :: next :: tail, _, congrArg _ split, .escape isTail⟩
  · obtain ⟨rfl, rfl⟩ := (readPiece_plain isDollar isBracket isBackslash cs).unique gives
    exact ⟨_, _, rfl, .char isBracket isBackslash⟩
  termination_by (cs.length, 4)

theorem passes_readPieces
    {stop : Char → Bool}
    {cs after : List Char}
    {pieces : List Piece}
    (gives : (readPieces stop cs).Gives pieces after) :
    Passes .pieces cs after := by
  rcases gives_readPieces_cases gives with
    ⟨-, -, rfl⟩ | ⟨c, rest, piece, behind, others, same, -, first, givesOthers, -⟩
  · exact ⟨[], _, rfl, .noPieces⟩
  · have length := congrArg List.length same
    have shorter : behind.length ≤ rest.length := first.1
    obtain ⟨taken, stretches, split, passage⟩ := passes_readPiece first
    obtain ⟨othersTaken, otherStretches, rfl, otherPassage⟩ := passes_readPieces givesOthers
    exact ⟨_, _, by rw [same, split, List.append_assoc], .pieces passage otherPassage⟩
  termination_by (cs.length, 0)
  decreasing_by
    all_goals
      simp only [Prod.lex_def, List.length_cons] at length ⊢
      omega

theorem passes_takeWord
    {nested : Bool}
    {c : Char}
    {cs after : List Char}
    {word : Word}
    (gives : (takeWord nested c cs).Gives word after) :
    Passes .word (c :: cs) after := by
  by_cases isBrace : c = '{'
  · subst isBrace
    obtain ⟨inside, found, ends, rfl⟩ := gives_takeWord_brace_iff.mp gives
    obtain rfl := splitBraced_append found
    exact ⟨_, _, by simp, .braced found⟩
  by_cases isQuote : c = '"'
  · subst isQuote
    obtain ⟨mark, read, ends⟩ := gives_takeWord_quote_iff.mp gives
    obtain ⟨taken, stretches, rfl, passage⟩ := passes_readPieces read
    have isQuote : mark = '"' := by simpa [Stops] using stops_of_gives_readPieces read
    subst isQuote
    exact ⟨_, _, by simp, .quoted passage⟩
  · rw [takeWord_bare isBrace isQuote] at gives
    obtain ⟨taken, stretches, split, passage⟩ := passes_readPieces gives
    exact ⟨_, _, split, .bare passage⟩
  termination_by (cs.length + 1, 1)
  decreasing_by
    · exact Prod.Lex.left _ _ (Nat.lt_succ_self _)
    · exact Prod.Lex.right _ (by decide)

theorem passes_readScript
    {nested : Bool}
    {words : Option (List Word)}
    {cs after : List Char}
    {script : Script}
    (gives : (readScript nested words cs).Gives script after) :
    PassesScript nested cs after := by
  rcases gives_readScript_cases gives with ⟨rfl, rfl⟩ | ⟨rfl, rfl, rfl⟩ |
    ⟨part, later, rest, tail, takes, moves, givesTail⟩
  · exact ⟨[], _, rfl, .done⟩
  · exact ⟨[], _, rfl, .done⟩
  obtain ⟨behind, stretches, split, passage⟩ := passes_readScript givesTail
  generalize same : cs = text at takes
  cases takes with
  | blank lineBlank =>
      exact ⟨_, _, by rw [split, List.cons_append],
        .blank (.inl (isBlank_of_isLineBlank lineBlank)) passage⟩
  | margin blank =>
      exact ⟨_, _, by rw [split, List.cons_append], .blank (.inl blank) passage⟩
  | joint =>
      exact ⟨_, _, by rw [split, List.cons_append, List.cons_append], .joint passage⟩
  | separator isSeparator =>
      have isBlankOrSemicolon := isSeparator.imp_left fun isNewline => isNewline ▸ isBlank_newline
      exact ⟨_, _, by rw [split, List.cons_append], .blank isBlankOrSemicolon passage⟩
  | @comment rest =>
      obtain ⟨text, whole⟩ := dropComment_suffix rest
      rw [split] at whole
      have dropped : dropComment (text ++ (behind ++ ((if nested then [']'] else []) ++ after))) =
          behind ++ ((if nested then [']'] else []) ++ after) := by rw [whole, split]
      exact ⟨_, _, by rw [List.cons_append, List.append_assoc, whole],
        .comment dropped passage⟩
  | word starts command taken =>
      have length := congrArg List.length same
      obtain ⟨taken, wordStretches, wordSplit, wordPassage⟩ := passes_takeWord taken
      exact ⟨_, _, by rw [wordSplit, split, List.append_assoc], .word wordPassage passage⟩
  termination_by (cs.length, 3)
  decreasing_by
    · exact Prod.Lex.left _ _ moves
    · simp only [Prod.lex_def, List.length_cons] at length ⊢
      omega

end

end ScriptBridge
