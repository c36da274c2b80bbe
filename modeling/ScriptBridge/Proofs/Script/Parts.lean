import ScriptBridge.Proofs.Script.LineEnds

/-!
# Parts of scripts

Scripts are read part by part: blanks, escaped line ends, separators, comments and words. The parts
say once what the reader of scripts does in one step, and the reader is what its steps are.
-/

namespace ScriptBridge

open Text

/-! ## Parts -/

/-- What the reader of scripts takes in one step. -/
inductive ScriptPart where
  | blank
  | joint
  | separator
  | comment
  | word (word : Word)

/-- A separator ends the command of the words in front of it. -/
def ScriptPart.around (part : ScriptPart) (words : Option (List Word)) (rest : Script) : Script :=
  match part with
  | separator => Script.finish words rest
  | _ => rest

/-- The reader of scripts takes a word here: neither blanks nor an escaped line end stand between
words here, nor does a command or, in brackets, the script end. -/
structure StartsWord (nested : Bool) (c : Char) (rest : List Char) : Prop where
  notBlank : isLineBlank c = false
  notJoint : c = '\\' → rest.head? ≠ some '\n'
  notEnd : c ≠ '\n' ∧ c ≠ ';'
  notClose : nested = true → c ≠ ']'

/-- In front of a command there are no blanks left, and a number sign starts a comment. -/
def StartsCommand (words : Option (List Word)) (c : Char) : Prop :=
  words = none → isBlank c = false ∧ c ≠ '#'

/-- One step of the reader of scripts, from the words and the text before it to those behind it. -/
inductive Takes (nested : Bool) :
    Option (List Word) → List Char → ScriptPart → Option (List Word) → List Char → Prop where
  | blank {words : Option (List Word)} {c : Char} {rest : List Char} :
      isLineBlank c = true → Takes nested words (c :: rest) .blank words rest
  | margin {c : Char} {rest : List Char} :
      isBlank c = true → isLineBlank c = false → c ≠ '\n' →
        Takes nested none (c :: rest) .blank none rest
  | joint {words : Option (List Word)} {rest : List Char} :
      Takes nested words ('\\' :: '\n' :: rest) .joint (some (words.getD [])) rest
  | separator {words : Option (List Word)} {c : Char} {rest : List Char} :
      c = '\n' ∨ c = ';' → Takes nested words (c :: rest) .separator none rest
  | comment {rest : List Char} :
      Takes nested none ('#' :: rest) .comment none (dropComment rest)
  | word {words : Option (List Word)} {c : Char} {rest after : List Char} {word : Word} :
      StartsWord nested c rest → StartsCommand words c → (takeWord nested c rest).Gives word after →
        Takes nested words (c :: rest) (.word word) (some (words.getD [] ++ [word])) after

/-- The reader of scripts stops: at the end of the text, at the bracket that closes the script, or
in front of a word that a fault cuts off. -/
inductive StopsAt (nested : Bool) (words : Option (List Word)) : List Char → Prop where
  | text : StopsAt nested words []
  | bracket {rest : List Char} : nested = true → StopsAt nested words (']' :: rest)
  | fault {c : Char} {rest : List Char} {pieces : Word} {fault : ScanFault} :
      StartsWord nested c rest → StartsCommand words c →
        takeWord nested c rest = .cut pieces fault → StopsAt nested words (c :: rest)

/-! ## Steps of the reader -/

variable {nested : Bool} {words later : Option (List Word)} {c : Char} {cs rest after : List Char}
  {part : ScriptPart}

theorem takes_or_stopsAt (nested : Bool) (words : Option (List Word)) (cs : List Char) :
    (∃ part later rest, Takes nested words cs part later rest) ∨ StopsAt nested words cs := by
  cases cs with
  | nil => exact .inr .text
  | cons c rest =>
      by_cases lineBlank : isLineBlank c = true
      · exact .inl ⟨_, _, _, .blank lineBlank⟩
      by_cases joint : c = '\\' ∧ rest.head? = some '\n'
      · obtain ⟨rfl, isNewline⟩ := joint
        cases rest with
        | nil => cases isNewline
        | cons next rest =>
            rw [List.head?_cons, Option.some.injEq] at isNewline
            subst isNewline
            exact .inl ⟨_, _, _, .joint⟩
      by_cases separator : c = '\n' ∨ c = ';'
      · exact .inl ⟨_, _, _, .separator separator⟩
      by_cases close : nested = true ∧ c = ']'
      · obtain ⟨isNested, rfl⟩ := close
        exact .inr (.bracket isNested)
      by_cases margin : words = none ∧ isBlank c = true
      · obtain ⟨rfl, blank⟩ := margin
        exact .inl ⟨_, _, _, .margin blank (by simpa using lineBlank) fun isNewline =>
          separator (.inl isNewline)⟩
      by_cases comment : words = none ∧ c = '#'
      · obtain ⟨rfl, rfl⟩ := comment
        exact .inl ⟨_, _, _, .comment⟩
      have starts : StartsWord nested c rest :=
        { notBlank := by simpa using lineBlank
          notJoint := fun isBackslash isNewline => joint ⟨isBackslash, isNewline⟩
          notEnd := not_or.mp separator
          notClose := fun isNested isClose => close ⟨isNested, isClose⟩ }
      have command : StartsCommand words c := fun isNone =>
        ⟨by simpa [isNone] using margin, by simpa [isNone] using comment⟩
      cases taken : takeWord nested c rest with
      | complete word after within => exact .inl ⟨_, _, _, .word starts command ⟨within, taken⟩⟩
      | cut pieces fault => exact .inr (.fault starts command taken)

/-- Where a word starts the reader of scripts reads one. -/
theorem readScript_word
    (starts : StartsWord nested c rest)
    (command : StartsCommand words c) :
    (∀ word after within, readWord nested c rest = .complete word after within →
      readScript nested words (c :: rest) =
        (readScript nested (some (words.getD [] ++ [word])) after).widen
          (Nat.le_succ_of_le within)) ∧
      ∀ pieces fault, readWord nested c rest = .cut pieces fault →
        readScript nested words (c :: rest) = .cut (.cut (words.getD []) pieces fault) fault := by
  have notJoint : ¬(c = '\\' && rest.head? = some '\n') = true := by
    simpa using starts.notJoint
  have notEnd : ¬(c = '\n' || c = ';') = true := by simpa using starts.notEnd
  have notClose : ¬(nested && c = ']') = true := by simpa using starts.notClose
  have notMargin : ¬(words.isNone && isBlank c) = true := by
    cases words with
    | none => simp [(command rfl).1]
    | some words => simp
  have notComment : ¬(words.isNone && c = '#') = true := by
    cases words with
    | none => simp [(command rfl).2]
    | some words => simp
  rw [readScript, if_neg (by simp [starts.notBlank]), if_neg notJoint, if_neg notEnd,
    if_neg notClose, if_neg notMargin, if_neg notComment]
  constructor
  · intro word after within read
    simp only [read]
  · intro pieces fault read
    simp only [read]

theorem readWord_of_cut
    {pieces : Word}
    {fault : ScanFault}
    (taken : takeWord nested c rest = .cut pieces fault) :
    readWord nested c rest = .cut pieces fault := by
  rw [readWord, taken]

theorem map_around_of_ne
    {limit : Nat}
    (notSeparator : part ≠ .separator)
    (words : Option (List Word))
    (reading : Reading Script limit) :
    reading.map (part.around words) = reading := by
  cases part <;> cases reading <;> simp_all [Reading.map, ScriptPart.around]

theorem ne_of_isBlank
    {other : Char}
    (blank : isBlank c = true)
    (notBlank : isBlank other = false) :
    c ≠ other := by
  rintro rfl
  rw [notBlank] at blank
  cases blank

/-- Each step leaves the rest to the reader. -/
theorem Takes.readScript_eq
    (takes : Takes nested words cs part later rest)
    (moves : rest.length < cs.length) :
    ∃ bound, readScript nested words cs =
      ((readScript nested later rest).map (part.around words)).widen bound := by
  refine ⟨Nat.le_of_lt moves, ?_⟩
  cases takes with
  | blank lineBlank =>
      rw [readScript, if_pos lineBlank, map_around_of_ne (by simp)]
  | @margin c _ blank notLineBlank notNewline =>
      have notJoint : c ≠ '\\' := ne_of_isBlank blank (by decide)
      have notSemicolon : c ≠ ';' := ne_of_isBlank blank (by decide)
      have notClose : c ≠ ']' := ne_of_isBlank blank (by decide)
      rw [readScript, map_around_of_ne (by simp)]
      simp [notLineBlank, notJoint, notNewline, notSemicolon, notClose, blank]
  | joint =>
      rw [readScript, if_neg (by decide), if_pos (by simp), map_around_of_ne (by simp)]
      simp
  | @separator _ c _ isSeparator =>
      have apart : isLineBlank c = false ∧ c ≠ '\\' := by
        rcases isSeparator with rfl | rfl <;> decide
      rw [readScript, if_neg (by simp [apart]), if_neg (by simp [apart]),
        if_pos (by simpa using isSeparator)]
      rfl
  | comment =>
      rw [readScript, map_around_of_ne (by simp)]
      simp [isLineBlank, show isBlank '#' = false by decide]
  | @word _ c rest _ word starts command taken =>
      obtain ⟨within, read⟩ := gives_readWord_iff.mpr ⟨taken, Nat.le_of_lt_succ moves⟩
      rw [(readScript_word starts command).1 _ _ within read, map_around_of_ne (by simp)]

theorem Takes.gives
    {tail : Script}
    (takes : Takes nested words cs part later rest)
    (moves : rest.length < cs.length)
    (givesTail : (readScript nested later rest).Gives tail after) :
    (readScript nested words cs).Gives (part.around words tail) after := by
  obtain ⟨bound, same⟩ := takes.readScript_eq moves
  rw [same]
  exact (givesTail.map _).widen bound

/-- Only a word may end where it starts. -/
theorem Takes.moves_of_not_word
    (takes : Takes nested words cs part later rest)
    (notWord : ∀ word, part ≠ .word word) :
    rest.length < cs.length := by
  cases takes with
  | comment => exact Nat.lt_succ_of_le (dropComment_length_le _)
  | word => exact absurd rfl (notWord _)
  | blank | margin | joint | separator =>
      simp only [List.length_cons]
      omega

theorem gives_readScript_closeBracket
    (words : Option (List Word))
    (rest : List Char) :
    (readScript true words (']' :: rest)).Gives (Script.finish words .done) rest := by
  rw [readScript, if_neg (by decide), if_neg (by simp), if_neg (by decide), if_pos (by decide)]
  exact ⟨_, rfl⟩

/-- A reading of a script that is complete has come to the end of the script or goes on behind its
first part. -/
theorem gives_readScript_cases
    {script : Script}
    (gives : (readScript nested words cs).Gives script after) :
    (nested = true ∧ cs = ']' :: after) ∨ (nested = false ∧ cs = [] ∧ after = []) ∨
      ∃ part later rest tail, Takes nested words cs part later rest ∧ rest.length < cs.length ∧
        (readScript nested later rest).Gives tail after := by
  rcases takes_or_stopsAt nested words cs with ⟨part, later, rest, takes⟩ | stops
  · by_cases moves : rest.length < cs.length
    · obtain ⟨bound, same⟩ := takes.readScript_eq moves
      rw [same, Reading.gives_widen_iff, Reading.gives_map_iff] at gives
      obtain ⟨tail, givesTail, -⟩ := gives
      exact .inr (.inr ⟨part, later, rest, tail, takes, moves, givesTail⟩)
    · obtain ⟨word, rfl⟩ : ∃ word, part = .word word := by
        by_contra notWord
        exact moves (takes.moves_of_not_word (not_exists.mp notWord))
      cases takes with
      | word starts command taken =>
          cases read : readWord nested _ _ with
          | complete word behind within =>
              obtain ⟨takenToo, moved⟩ := gives_readWord_iff.mp ⟨within, read⟩
              obtain ⟨-, rfl⟩ := taken.unique takenToo
              exact absurd (Nat.lt_succ_of_le moved) moves
          | cut pieces fault =>
              rw [(readScript_word starts command).2 pieces fault read] at gives
              exact (Reading.gives_cut_iff.mp gives).elim
  · cases stops with
    | text =>
        rw [readScript] at gives
        split at gives
        · exact (Reading.gives_cut_iff.mp gives).elim
        · rename_i topLevel
          obtain ⟨-, rfl⟩ := Reading.gives_complete_iff.mp gives
          exact .inr (.inl ⟨by simpa using topLevel, rfl, rfl⟩)
    | bracket isNested =>
        subst isNested
        obtain ⟨-, rfl⟩ := (gives_readScript_closeBracket words _).unique gives
        exact .inl ⟨rfl, rfl⟩
    | fault starts command taken =>
        rw [(readScript_word starts command).2 _ _ (readWord_of_cut taken)] at gives
        exact (Reading.gives_cut_iff.mp gives).elim

end ScriptBridge
