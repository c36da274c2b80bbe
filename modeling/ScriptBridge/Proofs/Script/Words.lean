import Mathlib.Data.List.Forall2
import ScriptBridge.Interp.Run

/-!
# Words that are read as they were written

A word may be written bare, with backslashes, in quotes or in braces. Whatever its form, if all its
pieces are literal, then putting it together invokes no command and reads no variable. A script of
such words does no more than to invoke its commands with the words.
-/

namespace ScriptBridge

open Text

variable {Key Host : Type}

/-! ## Literal words -/

/-- All pieces of a word are literal, and together they are this text. -/
def Spells (word : List Piece) (text : List Char) : Prop :=
  ∃ parts : List (List Char), word = parts.map Piece.literal ∧ parts.flatten = text

theorem spells_nil : Spells [] [] :=
  ⟨[], rfl, rfl⟩

theorem spells_cons
    {word : List Piece}
    {text : List Char}
    (spells : Spells word text)
    (part : List Char) :
    Spells (.literal part :: word) (part ++ text) := by
  obtain ⟨parts, rfl, rfl⟩ := spells
  exact ⟨part :: parts, rfl, rfl⟩

theorem spells_literal (text : List Char) : Spells [.literal text] text := by
  simpa using spells_cons spells_nil text

/-- A literal word is put together without invoking a command and without reading a variable. -/
theorem substitutePieces_of_spells
    {call : String → List String → Action Key Host String}
    {word : List Piece}
    {text : List Char}
    (spells : Spells word text)
    (start : String) :
    substitutePieces call start word = pure (start ++ String.ofList text) := by
  obtain ⟨parts, rfl, rfl⟩ := spells
  induction parts generalizing start with
  | nil => simp [substitutePieces]
  | cons part parts inductionHypothesis =>
      rw [List.map_cons, substitutePieces, substitutePiece, pure_bind, inductionHypothesis,
        List.flatten_cons, String.ofList_append, String.append_assoc]

theorem substituteWords_of_spells
    {call : String → List String → Action Key Host String}
    {words : List (List Piece)}
    {texts : List (List Char)}
    (spell : List.Forall₂ Spells words texts) :
    substituteWords call words = pure (texts.map String.ofList) := by
  induction spell with
  | nil => rw [substituteWords, List.map_nil]
  | cons spells _ inductionHypothesis =>
      rw [substituteWords, substitutePieces_of_spells spells, pure_bind, inductionHypothesis,
        pure_bind, String.empty_append, List.map_cons]

/-! ## Backslashes -/

/-- A character that a reader of escapes takes by itself is no backslash. -/
theorem ne_backslash
    {c : Char}
    {rest : List Char}
    (notLast : c = '\\' → rest = [] → False)
    (notEscape : ∀ next others, c = '\\' → rest = next :: others → False) :
    c ≠ '\\' := by
  rintro rfl
  cases rest with
  | nil => exact notLast rfl rfl
  | cons next others => exact notEscape next others rfl rfl

/-! ## Complete readings -/

/-- A reading that no fault cuts off, and what it has left. -/
def Reading.Gives
    {α : Type}
    {limit : Nat}
    (reading : Reading α limit)
    (value : α)
    (rest : List Char) : Prop :=
  ∃ within, reading = .complete value rest within

namespace Reading

variable {α β : Type} {limit larger : Nat} {reading : Reading α limit} {value : α}
  {rest : List Char}

theorem Gives.map (gives : reading.Gives value rest) (change : α → β) :
    (reading.map change).Gives (change value) rest := by
  obtain ⟨within, rfl⟩ := gives
  exact ⟨within, rfl⟩

theorem Gives.widen (gives : reading.Gives value rest) (bound : limit ≤ larger) :
    (reading.widen bound).Gives value rest := by
  obtain ⟨within, rfl⟩ := gives
  exact ⟨_, rfl⟩

@[simp]
theorem gives_complete_iff
    {value found : α}
    {rest after : List Char}
    {within : rest.length ≤ limit} :
    (complete value rest within).Gives found after ↔ value = found ∧ rest = after := by
  constructor
  · rintro ⟨_, equality⟩
    exact complete.inj equality
  · rintro ⟨rfl, rfl⟩
    exact ⟨within, rfl⟩

@[simp]
theorem gives_cut_iff {value found : α} {fault : ScanFault} {after : List Char} :
    (cut value fault : Reading α limit).Gives found after ↔ False := by
  simp [Gives]

theorem Gives.unique
    {other : α}
    {after : List Char}
    (gives : reading.Gives value rest)
    (givesOther : reading.Gives other after) :
    value = other ∧ rest = after := by
  obtain ⟨within, rfl⟩ := gives
  exact gives_complete_iff.mp givesOther

theorem gives_map_iff {change : α → β} {changed : β} :
    (reading.map change).Gives changed rest ↔
      ∃ value, reading.Gives value rest ∧ change value = changed := by
  cases reading with
  | complete => simp [Reading.map, and_comm]
  | cut => simp [Reading.map]

theorem gives_widen_iff {bound : limit ≤ larger} :
    (reading.widen bound).Gives value rest ↔ reading.Gives value rest := by
  cases reading with
  | complete => simp [Reading.widen]
  | cut => simp [Reading.widen]

@[simp]
theorem value_map (change : α → β) : (reading.map change).value = change reading.value := by
  cases reading <;> rfl

@[simp]
theorem value_widen (bound : limit ≤ larger) : (reading.widen bound).value = reading.value := by
  cases reading <;> rfl

end Reading

/-! ## Pieces -/

/-- A text at which reading pieces comes to an end. -/
def Stops (stop : Char → Bool) : List Char → Prop
  | [] => True
  | c :: _ => stop c = true

theorem readPieces_of_stops
    {stop : Char → Bool}
    {rest : List Char}
    (stops : Stops stop rest) :
    (readPieces stop rest).Gives [] rest := by
  cases rest with
  | nil =>
      rw [readPieces]
      exact ⟨_, rfl⟩
  | cons c rest =>
      rw [readPieces]
      simp only [show stop c = true from stops, if_true]
      exact ⟨_, rfl⟩

/-- A piece and the pieces behind it are read one after the other. -/
theorem readPieces_cons
    {stop : Char → Bool}
    {c : Char}
    {behind after rest : List Char}
    {piece : Piece}
    {word : List Piece}
    (goesOn : stop c = false)
    (first : (readPiece c behind).Gives piece after)
    (others : (readPieces stop after).Gives word rest) :
    (readPieces stop (c :: behind)).Gives (piece :: word) rest := by
  obtain ⟨within, first⟩ := first
  rw [readPieces]
  simp only [goesOn, Bool.false_eq_true, if_false, first]
  exact (others.map _).widen _

/-- How a character is written: as itself, where it neither stops a reader nor starts a
substitution, or behind a backslash. -/
inductive StandsFor (stop : Char → Bool) : List Char → Char → Prop where
  | plain {c : Char} : stop c = false → c ≠ '$' → c ≠ '[' → c ≠ '\\' → StandsFor stop [c] c
  | escaped {c : Char} (behind : List Char) :
      (∀ rest, readEscape (behind ++ rest) = ([c], rest)) → StandsFor stop ('\\' :: behind) c

theorem readPiece_plain
    {c : Char}
    (notDollar : c ≠ '$')
    (notBracket : c ≠ '[')
    (notBackslash : c ≠ '\\')
    (rest : List Char) :
    (readPiece c rest).Gives (.literal [c]) rest := by
  rw [readPiece]
  simp only [notDollar, notBracket, notBackslash, if_false]
  exact ⟨_, rfl⟩

theorem readPiece_backslash (rest : List Char) :
    (readPiece '\\' rest).Gives (.literal (readEscape rest).1) (readEscape rest).2 := by
  rw [readPiece]
  exact ⟨_, rfl⟩

/-- A written character is read as a piece that is the character. -/
theorem StandsFor.read
    {stop : Char → Bool}
    {written : List Char}
    {c : Char}
    (standsFor : StandsFor stop written c)
    (backslashGoesOn : stop '\\' = false) :
    ∃ first behind, written = first :: behind ∧ stop first = false ∧
      ∀ rest, (readPiece first (behind ++ rest)).Gives (.literal [c]) rest := by
  cases standsFor with
  | plain goesOn notDollar notBracket notBackslash =>
      exact ⟨c, [], rfl, goesOn, readPiece_plain notDollar notBracket notBackslash⟩
  | escaped behind isEscape =>
      refine ⟨'\\', behind, rfl, backslashGoesOn, fun rest => ?_⟩
      have read := readPiece_backslash (behind ++ rest)
      rwa [isEscape] at read

/-- Text that is written character by character is read as it was, in front of more pieces. -/
theorem readPieces_written_append
    (stop : Char → Bool)
    {write : Char → List Char}
    {text behind after rest : List Char}
    {word : List Piece}
    (backslashGoesOn : stop '\\' = false)
    (written : ∀ c ∈ text, StandsFor stop (write c) c)
    (spells : Spells word after)
    (others : (readPieces stop behind).Gives word rest) :
    ∃ whole, Spells whole (text ++ after) ∧
      (readPieces stop (text.flatMap write ++ behind)).Gives whole rest := by
  induction text with
  | nil => exact ⟨word, spells, others⟩
  | cons c text inductionHypothesis =>
      obtain ⟨whole, spellsWhole, readOthers⟩ := inductionHypothesis fun other member =>
        written other (List.mem_cons_of_mem c member)
      obtain ⟨first, next, form, goesOn, read⟩ :=
        (written c List.mem_cons_self).read backslashGoesOn
      refine ⟨.literal [c] :: whole, spells_cons spellsWhole [c], ?_⟩
      rw [List.flatMap_cons, form, List.append_assoc, List.cons_append]
      exact readPieces_cons goesOn (read _) readOthers

/-- Text that is written character by character is read back as it was. -/
theorem readPieces_written
    (stop : Char → Bool)
    {write : Char → List Char}
    {text rest : List Char}
    (backslashGoesOn : stop '\\' = false)
    (written : ∀ c ∈ text, StandsFor stop (write c) c)
    (stops : Stops stop rest) :
    ∃ word, Spells word text ∧ (readPieces stop (text.flatMap write ++ rest)).Gives word rest := by
  have read := readPieces_written_append stop backslashGoesOn written spells_nil
    (readPieces_of_stops stops)
  rwa [List.append_nil] at read

/-! ## Words -/

theorem stops_of_endsWord
    {nested : Bool}
    {rest : List Char}
    (ends : endsWord nested rest = true) :
    Stops (endsWordAt nested) rest := by
  cases rest with
  | nil => trivial
  | cons c rest => exact ends

/-- A word that is taken is read if it ends behind the place where it starts. -/
theorem gives_readWord_iff
    {nested : Bool}
    {c : Char}
    {cs after : List Char}
    {word : Word} :
    (readWord nested c cs).Gives word after ↔
      (takeWord nested c cs).Gives word after ∧ after.length ≤ cs.length := by
  rw [readWord]
  split
  · rename_i found behind within taken
    rw [taken, Reading.gives_complete_iff]
    split
    · rename_i moved
      rw [Reading.gives_complete_iff]
      constructor
      · rintro ⟨rfl, rfl⟩
        exact ⟨⟨rfl, rfl⟩, moved⟩
      · exact And.left
    · rename_i stays
      rw [Reading.gives_cut_iff, false_iff]
      rintro ⟨⟨-, rfl⟩, moved⟩
      exact stays moved
  · rename_i cut
    simp [cut]

theorem gives_takeWord_brace_iff
    {nested : Bool}
    {cs after : List Char}
    {word : Word} :
    (takeWord nested '{' cs).Gives word after ↔
      ∃ inside, splitBraced 0 cs = some (inside, after) ∧ endsWord nested after = true ∧
        word = [.literal (joinLines inside)] := by
  rw [takeWord]
  simp only [if_true]
  split
  next noSplit => simp [noSplit]
  next inside behind found =>
    split
    next ends =>
      simp only [Reading.gives_complete_iff, found, Option.some.injEq, Prod.mk.injEq]
      constructor
      · rintro ⟨rfl, rfl⟩
        exact ⟨inside, ⟨rfl, rfl⟩, ends, rfl⟩
      · rintro ⟨inside, ⟨rfl, rfl⟩, -, rfl⟩
        exact ⟨rfl, rfl⟩
    next goesOn =>
      simp only [Reading.gives_cut_iff, found, Option.some.injEq, Prod.mk.injEq, false_iff]
      rintro ⟨inside, ⟨rfl, rfl⟩, ends, -⟩
      exact goesOn ends

theorem gives_takeWord_quote_iff
    {nested : Bool}
    {cs after : List Char}
    {word : Word} :
    (takeWord nested '"' cs).Gives word after ↔
      ∃ mark, (readPieces (· = '"') cs).Gives word (mark :: after) ∧
        endsWord nested after = true := by
  have notBrace : ('"' = '{') = False := by decide
  rw [takeWord]
  simp only [notBrace, if_false, if_true]
  split
  next read => simp [read]
  next read => simp [read]
  next pieces mark behind within read =>
    split
    next ends =>
      simp only [Reading.gives_complete_iff, read, List.cons.injEq]
      constructor
      · rintro ⟨rfl, rfl⟩
        exact ⟨mark, ⟨rfl, rfl, rfl⟩, ends⟩
      · rintro ⟨other, ⟨rfl, rfl, rfl⟩, -⟩
        exact ⟨rfl, rfl⟩
    next goesOn =>
      simp only [Reading.gives_cut_iff, Reading.gives_complete_iff, read, List.cons.injEq,
        false_iff]
      rintro ⟨other, ⟨rfl, rfl, rfl⟩, ends⟩
      exact goesOn ends

theorem takeWord_bare
    {nested : Bool}
    {c : Char}
    {cs : List Char}
    (notBrace : c ≠ '{')
    (notQuote : c ≠ '"') :
    takeWord nested c cs = readPieces (endsWordAt nested) (c :: cs) := by
  rw [takeWord]
  simp only [notBrace, notQuote, if_false]

theorem gives_readWord_brace_iff
    {nested : Bool}
    {cs after : List Char}
    {word : Word} :
    (readWord nested '{' cs).Gives word after ↔
      ∃ inside, splitBraced 0 cs = some (inside, after) ∧ endsWord nested after = true ∧
        word = [.literal (joinLines inside)] := by
  rw [gives_readWord_iff, gives_takeWord_brace_iff, and_iff_left_iff_imp]
  rintro ⟨inside, found, -⟩
  exact Nat.le_of_lt (splitBraced_length_lt found)

theorem gives_readWord_quote_iff
    {nested : Bool}
    {cs after : List Char}
    {word : Word} :
    (readWord nested '"' cs).Gives word after ↔
      ∃ mark, (readPieces (· = '"') cs).Gives word (mark :: after) ∧
        endsWord nested after = true := by
  rw [gives_readWord_iff, gives_takeWord_quote_iff, and_iff_left_iff_imp]
  rintro ⟨mark, ⟨within, -⟩, -⟩
  exact Nat.le_of_succ_le within

/-- A bare word starts with neither a brace nor a quote, and goes on up to the end of the word. -/
theorem readWord_bare
    {nested : Bool}
    {c : Char}
    {behind after rest : List Char}
    {piece : Piece}
    {word : List Piece}
    (notBrace : c ≠ '{')
    (notQuote : c ≠ '"')
    (goesOn : endsWordAt nested c = false)
    (first : (readPiece c behind).Gives piece after)
    (others : (readPieces (endsWordAt nested) after).Gives word rest) :
    (readWord nested c behind).Gives (piece :: word) rest := by
  refine gives_readWord_iff.mpr ⟨?_, Nat.le_trans others.1 first.1⟩
  rw [takeWord_bare notBrace notQuote]
  exact readPieces_cons goesOn first others

/-- A bare word that is written character by character is read back as it was. -/
theorem readWord_written
    {nested : Bool}
    (write : Char → List Char)
    {c first : Char}
    {text behind rest : List Char}
    (form : write c = first :: behind)
    (notBrace : first ≠ '{')
    (notQuote : first ≠ '"')
    (written : ∀ other ∈ c :: text, StandsFor (endsWordAt nested) (write other) other)
    (ends : endsWord nested rest = true) :
    ∃ word, Spells word (c :: text) ∧
      (readWord nested first (behind ++ text.flatMap write ++ rest)).Gives word rest := by
  have backslashGoesOn : endsWordAt nested '\\' = false := by
    cases nested <;> decide
  obtain ⟨first', behind', form', goesOn, read⟩ :=
    (written c List.mem_cons_self).read backslashGoesOn
  obtain ⟨rfl, rfl⟩ := List.cons.inj (form.symm.trans form')
  obtain ⟨word, spells, others⟩ := readPieces_written _ backslashGoesOn
    (fun other member => written other (List.mem_cons_of_mem c member)) (stops_of_endsWord ends)
  refine ⟨.literal [c] :: word, spells_cons spells [c], ?_⟩
  rw [List.append_assoc]
  exact readWord_bare notBrace notQuote goesOn (read _) others

/-- Text that is read as one word wherever a word may start, and that the word then spells. -/
def Writes (written text : List Char) : Prop :=
  ∃ first behind, written = first :: behind ∧
    isBlank first = false ∧ first ≠ ';' ∧ first ≠ ']' ∧
    (first = '\\' → ∃ next others, behind = next :: others ∧ next ≠ '\n') ∧
    ∀ nested rest, endsWord nested rest = true →
      ∃ word, Spells word text ∧ (readWord nested first (behind ++ rest)).Gives word rest

theorem isLineBlank_eq_false
    {c : Char}
    (notBlank : isBlank c = false) :
    isLineBlank c = false := by
  have notSpace : c ≠ ' ' := by
    rintro rfl
    rw [isBlank_space] at notBlank
    contradiction
  have notTab : c ≠ '\t' := by
    rintro rfl
    exact absurd notBlank (by decide)
  simp [isLineBlank, notSpace, notTab]

/-- A word is read as the next one of a command. In front of the first word of a command a number
sign would start a comment. -/
theorem value_readScript_of_readWord
    {nested : Bool}
    (words : Option (List Word))
    {first : Char}
    {behind rest : List Char}
    {word : Word}
    (notBlank : isBlank first = false)
    (notEnd : first ≠ ';')
    (notClose : first ≠ ']')
    (notJoined : first = '\\' → behind.head? ≠ some '\n')
    (noComment : words = none → first ≠ '#')
    (read : (readWord nested first behind).Gives word rest) :
    (readScript nested words (first :: behind)).value =
      (readScript nested (some (words.getD [] ++ [word])) rest).value := by
  obtain ⟨within, read⟩ := read
  have notNewline : first ≠ '\n' := by
    rintro rfl
    rw [isBlank_newline] at notBlank
    contradiction
  have noJoin : (first = '\\' && behind.head? = some '\n') = false := by
    rw [Bool.and_eq_false_imp]
    intro backslash
    exact decide_eq_false (notJoined (of_decide_eq_true backslash))
  have noCommentHere : (words.isNone && first = '#') = false := by
    rw [Bool.and_eq_false_imp]
    intro isFirst
    exact decide_eq_false (noComment (Option.isNone_iff_eq_none.mp isFirst))
  rw [readScript]
  simp only [isLineBlank_eq_false notBlank, noJoin, notNewline, notEnd, notClose, notBlank,
    noCommentHere, read, decide_false, Bool.or_false, Bool.and_false, Bool.false_eq_true, if_false,
    Reading.value_widen]

/-- A written word is read as the next word of a command. -/
theorem value_readScript_word
    {nested : Bool}
    (words : Option (List Word))
    {written text rest : List Char}
    (writes : Writes written text)
    (noComment : words = none → written.head? ≠ some '#')
    (ends : endsWord nested rest = true) :
    ∃ word, Spells word text ∧
      (readScript nested words (written ++ rest)).value =
        (readScript nested (some (words.getD [] ++ [word])) rest).value := by
  obtain ⟨first, behind, rfl, notBlank, notEnd, notClose, notJoined, reads⟩ := writes
  obtain ⟨word, spells, read⟩ := reads nested rest ends
  refine ⟨word, spells, ?_⟩
  rw [List.cons_append]
  apply value_readScript_of_readWord words notBlank notEnd notClose ?_ ?_ read
  · intro backslash
    obtain ⟨next, others, rfl, differs⟩ := notJoined backslash
    simpa using differs
  · intro isFirst
    simpa using noComment isFirst

theorem value_readScript_lineBlank
    {nested : Bool}
    {words : Option (List Word)}
    {c : Char}
    (blank : isLineBlank c = true)
    (rest : List Char) :
    (readScript nested words (c :: rest)).value = (readScript nested words rest).value := by
  rw [readScript]
  simp only [blank, if_true, Reading.value_widen]

theorem value_readScript_space
    {nested : Bool}
    {words : Option (List Word)}
    (rest : List Char) :
    (readScript nested words (' ' :: rest)).value = (readScript nested words rest).value :=
  value_readScript_lineBlank (by decide) rest

/-- Written words with single spaces in front are read as the next words of a command. Each part is
how a word is written, and what it spells. -/
theorem value_readScript_words
    {nested : Bool}
    (words : List Word)
    {parts : List (String × String)}
    {rest : List Char}
    (writes : ∀ part ∈ parts, Writes part.1.toList part.2.toList)
    (ends : endsWord nested rest = true) :
    ∃ read, List.Forall₂ Spells read (parts.map (·.2.toList)) ∧
      (readScript nested (some words) (parts.flatMap (' ' :: ·.1.toList) ++ rest)).value =
        (readScript nested (some (words ++ read)) rest).value := by
  induction parts generalizing words with
  | nil =>
      refine ⟨[], .nil, ?_⟩
      rw [List.flatMap_nil, List.nil_append, List.append_nil]
  | cons part parts inductionHypothesis =>
      have endsHere : endsWord nested (parts.flatMap (' ' :: ·.1.toList) ++ rest) = true := by
        cases parts with
        | nil => exact ends
        | cons next parts => simp [endsWord, endsWordAt, isBlank_space]
      obtain ⟨word, spells, first⟩ := value_readScript_word (some words)
        (writes part List.mem_cons_self) (by simp) endsHere
      obtain ⟨read, spell, others⟩ := inductionHypothesis (words ++ [word])
        fun other member => writes other (List.mem_cons_of_mem part member)
      refine ⟨word :: read, .cons spells spell, ?_⟩
      rw [List.flatMap_cons, List.cons_append, List.cons_append, List.append_assoc,
        value_readScript_space, first, Option.getD_some, others, List.append_assoc,
        List.singleton_append]

/-! ## Ends of commands -/

theorem value_readScript_nil (words : List Word) :
    (readScript false (some words) []).value = .command words .done := by
  rw [readScript]
  rfl

theorem value_readScript_semicolon (words : List Word) (rest : List Char) :
    (readScript false (some words) (';' :: rest)).value =
      .command words (readScript false none rest).value := by
  rw [readScript]
  simp [isLineBlank, Script.finish]

/-! ## Commands -/

/-- Running a script that starts with literal words invokes one command with what they spell. -/
theorem runScript_command_of_spells
    (call : String → List String → Action Key Host String)
    {words : List Word}
    {name : String}
    {arguments : List String}
    (spell : List.Forall₂ Spells words ((name :: arguments).map String.toList))
    (next : Script)
    (result : String) :
    runScript call result (.command words next) = (do
      let value ← call name arguments
      runScript call value next) := by
  have substituted : substituteWords call words = pure (name :: arguments) := by
    rw [substituteWords_of_spells spell]
    simp
  rw [runScript, substituted, pure_bind]

/-- To run one command of literal words is to invoke it. -/
theorem runScript_of_spells
    {words : List Word}
    {name : String}
    {arguments : List String}
    (spell : List.Forall₂ Spells words ((name :: arguments).map String.toList))
    (call : String → List String → Action Key Host String)
    (result : String) :
    runScript call result (.command words .done) = call name arguments := by
  rw [runScript_command_of_spells call spell]
  simp only [runScript, bind_pure]

theorem script_of_spells
    {script name : String}
    {arguments : List String}
    {words : List Word}
    (read : (readScript false none script.toList).value = .command words .done)
    (spell : List.Forall₂ Spells words ((name :: arguments).map String.toList))
    (host : HostCommands Key Host)
    (fuel : Nat) :
    (evaluator host (fuel + 1)).script script =
      invoke host (evaluator host fuel) name arguments := by
  show runScript (invoke host (evaluator host fuel)) ""
    (readScript false none script.toList).value = _
  rw [read, runScript_of_spells spell]

/-- A command that is written word by word. -/
structure WrittenCommand where
  name : String
  /-- The words behind the name: how each is written, and what it spells. -/
  parts : List (String × String)
  writesName : Writes name.toList name.toList
  noComment : name.toList.head? ≠ some '#'
  writes : ∀ part ∈ parts, Writes part.1.toList part.2.toList

namespace WrittenCommand

def text (command : WrittenCommand) : String :=
  command.name ++ String.join (command.parts.map (" " ++ ·.1))

def arguments (command : WrittenCommand) : List String :=
  command.parts.map (·.2)

theorem toList_join_words (parts : List (String × String)) :
    (String.join (parts.map (" " ++ ·.1))).toList = parts.flatMap (' ' :: ·.1.toList) := by
  induction parts with
  | nil => rfl
  | cons part parts inductionHypothesis =>
      rw [List.map_cons, String.join_cons, String.toList_append, String.toList_append,
        inductionHypothesis, List.flatMap_cons]
      rfl

theorem toList_text (command : WrittenCommand) :
    command.text.toList =
      command.name.toList ++ command.parts.flatMap (' ' :: ·.1.toList) := by
  rw [text, String.toList_append, toList_join_words]

/-- A written command is read as one command, the words of which spell its name and its arguments. -/
theorem value_readScript_text
    (command : WrittenCommand)
    (rest : List Char)
    {next : Script}
    (ends : endsWord false rest = true)
    (closes : ∀ words, (readScript false (some words) rest).value = .command words next) :
    ∃ words,
      List.Forall₂ Spells words ((command.name :: command.arguments).map String.toList) ∧
      (readScript false none (command.text.toList ++ rest)).value = .command words next := by
  have endsName : endsWord false (command.parts.flatMap (' ' :: ·.1.toList) ++ rest) = true := by
    cases command.parts with
    | nil => exact ends
    | cons part parts => simp [endsWord, endsWordAt, isBlank_space]
  obtain ⟨first, spells, readName⟩ := value_readScript_word none command.writesName
    (fun _ => command.noComment) endsName
  obtain ⟨others, spell, readOthers⟩ :=
    value_readScript_words [first] command.writes ends
  have arguments : command.arguments.map String.toList = command.parts.map (·.2.toList) := by
    simp [arguments]
  refine ⟨first :: others, ?_, ?_⟩
  · rw [List.map_cons, arguments]
    exact .cons spells spell
  · rw [toList_text, List.append_assoc, readName, Option.getD_none, List.nil_append, readOthers,
      closes]
    rfl

/-- Running a script that starts with a written command invokes the command with exactly the
arguments that its words spell, and goes on with what follows. -/
theorem runScript_text
    (call : String → List String → Action Key Host String)
    (command : WrittenCommand)
    (rest : List Char)
    {next : Script}
    (ends : endsWord false rest = true)
    (closes : ∀ words, (readScript false (some words) rest).value = .command words next)
    (result : String) :
    runScript call result (readScript false none (command.text.toList ++ rest)).value = (do
      let value ← call command.name command.arguments
      runScript call value next) := by
  obtain ⟨words, spell, read⟩ := command.value_readScript_text rest ends closes
  rw [read, runScript_command_of_spells call spell]

/-- A script that is one written command does what invoking the command does. -/
theorem script_text
    (command : WrittenCommand)
    {script : String}
    (rest : String)
    (isText : script = command.text ++ rest)
    (ends : endsWord false rest.toList = true)
    (closes : ∀ words, (readScript false (some words) rest.toList).value = .command words .done)
    (host : HostCommands Key Host)
    (fuel : Nat) :
    (evaluator host (fuel + 1)).script script =
      invoke host (evaluator host fuel) command.name command.arguments := by
  obtain ⟨words, spell, read⟩ := command.value_readScript_text rest.toList ends closes
  rw [← String.toList_append, ← isText] at read
  exact script_of_spells read spell host fuel

/-- As `script_text`, where nothing stands behind the command. -/
theorem script_only
    (command : WrittenCommand)
    {script : String}
    (isText : script = command.text)
    (host : HostCommands Key Host)
    (fuel : Nat) :
    (evaluator host (fuel + 1)).script script =
      invoke host (evaluator host fuel) command.name command.arguments :=
  command.script_text "" (by rw [isText, String.append_empty]) rfl value_readScript_nil
    host fuel

/-- The script of written commands with semicolons between them. -/
def script (commands : List WrittenCommand) : String :=
  "; ".intercalate (commands.map text)

/-- A script of written commands invokes them one after the other. -/
theorem runScript_script
    {call : String → List String → Action Key Host String}
    (commands : List WrittenCommand)
    (result : String) :
    runScript call result (Script.ofText (script commands)) =
      commands.foldlM (fun _ command => call command.name command.arguments) result := by
  have separator : "; ".toList = [';', ' '] := rfl
  unfold script Script.ofText
  rw [String.toList_intercalate, separator]
  induction commands generalizing result with
  | nil =>
      rw [List.map_nil, List.map_nil, List.intercalate_nil, readScript, List.foldlM_nil]
      rfl
  | cons command commands inductionHypothesis =>
      cases commands with
      | nil =>
          have only := command.runScript_text call [] rfl value_readScript_nil result
          rw [List.append_nil] at only
          rw [List.map_singleton, List.map_singleton, List.intercalate_singleton, only,
            List.foldlM_cons]
          rfl
      | cons next commands =>
          have ends : ∀ more, endsWord false ([';', ' '] ++ more) = true := fun _ => rfl
          have closes : ∀ (more : List Char) words,
              (readScript false (some words) ([';', ' '] ++ more)).value =
                .command words (readScript false none more).value := by
            intro more words
            rw [List.cons_append, List.cons_append, List.nil_append, value_readScript_semicolon,
              value_readScript_space]
          rw [List.map_cons, List.map_cons, List.map_cons, List.map_cons,
            List.intercalate_cons_cons, List.append_assoc,
            command.runScript_text _ _ (ends _) (closes _), List.foldlM_cons]
          exact congrArg _ (funext inductionHypothesis)

end WrittenCommand

end ScriptBridge
