import ScriptBridge.Bridge.Dispatch
import ScriptBridge.Proofs.Script.WrittenLists

/-!
# Lines that go on

A backslash takes away the line end behind it, together with the blanks that follow. In front of a
word a reader skips all of that. Inside a bare word it reads a space, which becomes part of the
word: there a line end that is taken away does not separate words.
-/

namespace ScriptBridge

open Text ListText

variable {Key Host : Type}

/-! ## Between words -/

theorem value_readScript_lineBlanks
    {nested : Bool}
    {words : Option (List Word)}
    {blanks : List Char}
    (blank : ∀ c ∈ blanks, isLineBlank c = true)
    (rest : List Char) :
    (readScript nested words (blanks ++ rest)).value = (readScript nested words rest).value := by
  induction blanks with
  | nil => rfl
  | cons c blanks inductionHypothesis =>
      rw [List.cons_append, value_readScript_lineBlank (blank c List.mem_cons_self),
        inductionHypothesis fun other member => blank other (List.mem_cons_of_mem c member)]

theorem value_readScript_lineEnd
    {nested : Bool}
    (words : List Word)
    (rest : List Char) :
    (readScript nested (some words) ('\\' :: '\n' :: rest)).value =
      (readScript nested (some words) rest).value := by
  have notBlank : isLineBlank '\\' = false := by decide
  rw [readScript]
  simp only [notBlank, List.head?_cons, decide_true, Bool.and_self, Bool.false_eq_true, if_false,
    if_true, Option.getD_some]
  exact Reading.value_widen _

/-- Blanks, a line end that is taken away and blanks again are nothing to a reader of words. -/
theorem value_readScript_gap
    {nested : Bool}
    {before after : List Char}
    (blankBefore : ∀ c ∈ before, isLineBlank c = true)
    (blankAfter : ∀ c ∈ after, isLineBlank c = true)
    (words : List Word)
    (rest : List Char) :
    (readScript nested (some words) (before ++ '\\' :: '\n' :: (after ++ rest))).value =
      (readScript nested (some words) rest).value := by
  rw [value_readScript_lineBlanks blankBefore, value_readScript_lineEnd,
    value_readScript_lineBlanks blankAfter]

/-! ## Inside a word -/

/-- A line end that is taken away inside a bare word is a space of the word. -/
theorem writes_continued
    {first second blanks : List Char}
    (someFirst : first ≠ [])
    (someSecond : second ≠ [])
    (plainFirst : ∀ c ∈ first, isSpecial c = false)
    (plainSecond : ∀ c ∈ second, isSpecial c = false)
    (blank : ∀ c ∈ blanks, isLineBlank c = true) :
    Writes (first ++ '\\' :: '\n' :: (blanks ++ second)) (first ++ ' ' :: second) := by
  obtain ⟨c, first, rfl⟩ := List.exists_cons_of_ne_nil someFirst
  obtain ⟨d, second, rfl⟩ := List.exists_cons_of_ne_nil someSecond
  have plain := plainFirst c List.mem_cons_self
  refine ⟨c, first ++ '\\' :: '\n' :: (blanks ++ d :: second), rfl,
    isBlank_eq_false_of_isSpecial plain, ne_of_isSpecial plain (by decide),
    ne_of_isSpecial plain (by decide), ?_, ?_⟩
  · rintro rfl
    exact absurd plain (by decide)
  · intro nested rest ends
    have backslashGoesOn : endsWordAt nested '\\' = false := by
      cases nested <;> decide
    have written : ∀ {text : List Char}, (∀ c ∈ text, isSpecial c = false) →
        ∀ c ∈ text, StandsFor (endsWordAt nested) [c] c :=
      fun plain c member => standsFor_plain (plain c member) nested
    -- The second text, then the line end in front of it, then what is left of the first text.
    obtain ⟨last, spellsLast, readLast⟩ := readPieces_written (endsWordAt nested)
      backslashGoesOn (written plainSecond) (stops_of_endsWord ends)
    rw [List.flatMap_singleton'] at readLast
    have kept : isLineBlank d = false :=
      isLineBlank_eq_false (isBlank_eq_false_of_isSpecial (plainSecond d List.mem_cons_self))
    have escape : readEscape ('\n' :: (blanks ++ d :: second ++ rest)) =
        ([' '], d :: second ++ rest) := by
      rw [readEscape, List.append_assoc, List.dropWhile_append_of_pos blank, List.cons_append,
        List.dropWhile_cons_of_neg (by simp [kept])]
    have lineEnd := readPiece_backslash ('\n' :: (blanks ++ d :: second ++ rest))
    rw [escape] at lineEnd
    obtain ⟨word, spells, read⟩ := readPieces_written_append (endsWordAt nested) backslashGoesOn
      (written fun other member => plainFirst other (List.mem_cons_of_mem c member))
      (spells_cons spellsLast [' ']) (readPieces_cons backslashGoesOn lineEnd readLast)
    rw [List.flatMap_singleton'] at read
    refine ⟨.literal [c] :: word, spells_cons spells [c], ?_⟩
    rw [List.append_assoc, List.cons_append, List.cons_append]
    exact readWord_bare (ne_of_isSpecial plain (by decide)) (ne_of_isSpecial plain (by decide))
      (endsWordAt_eq_false_of_isSpecial plain nested)
      (readPiece_plain (ne_of_isSpecial plain (by decide)) (ne_of_isSpecial plain (by decide))
        (ne_of_isSpecial plain (by decide)) _) read

/-! ## Comments -/

/-- A comment goes on through everything but line ends and backslashes. -/
theorem dropComment_append
    {cs : List Char}
    (goesOn : ∀ c ∈ cs, c ≠ '\n' ∧ c ≠ '\\')
    (rest : List Char) :
    dropComment (cs ++ rest) = dropComment rest := by
  induction cs with
  | nil => rfl
  | cons c cs inductionHypothesis =>
      obtain ⟨notNewline, notBackslash⟩ := goesOn c List.mem_cons_self
      rw [List.cons_append, dropComment, inductionHypothesis fun other member =>
        goesOn other (List.mem_cons_of_mem c member)]
      · exact fun backslash _ => notBackslash backslash
      · exact fun _ _ backslash _ => notBackslash backslash
      · exact fun newline => notNewline newline

theorem value_readScript_comment
    {nested : Bool}
    (rest : List Char) :
    (readScript nested none ('#' :: rest)).value =
      (readScript nested none (dropComment rest)).value := by
  have notBlank : isLineBlank '#' = false := by decide
  have notSpace : isBlank '#' = false := by decide
  rw [readScript]
  simp [notBlank, notSpace]

/-! ## Commands -/

/-- A command with two words behind its name, the second of them on the next line. -/
def continuedLine (name first before after second : String) : String :=
  name ++ " " ++ first ++ before ++ "\\\n" ++ after ++ second

/-- The arguments of such a command: one for each word if a blank stands in front of the line end,
and else a single one for both. -/
def continuedArguments (first before second : String) : List String :=
  if before = "" then [first ++ " " ++ second] else [first, second]

section

variable {name first second before after : String}

/-- Without a blank in front of the line end both words are one argument. -/
theorem script_continued_word
    (writesName : Writes name.toList name.toList)
    (noComment : name.toList.head? ≠ some '#')
    (writes : Writes (first.toList ++ '\\' :: '\n' :: (after.toList ++ second.toList))
      (first.toList ++ ' ' :: second.toList))
    (host : HostCommands Key Host)
    (fuel : Nat) :
    (evaluator host (fuel + 1)).script (continuedLine name first "" after second) =
      invoke host (evaluator host fuel) name [first ++ " " ++ second] := by
  let command : WrittenCommand := {
    name
    parts := [(first ++ "\\\n" ++ after ++ second, first ++ " " ++ second)]
    writesName
    noComment
    writes := by simpa using writes }
  apply command.script_only
  simp [command, WrittenCommand.text, continuedLine, String.append_assoc]

/-- With a blank in front of it they are two. -/
theorem script_continued_words
    (writesName : Writes name.toList name.toList)
    (noComment : name.toList.head? ≠ some '#')
    (writesFirst : Writes first.toList first.toList)
    (writesSecond : Writes second.toList second.toList)
    (gap : before ≠ "")
    (blankBefore : ∀ c ∈ before.toList, isLineBlank c = true)
    (blankAfter : ∀ c ∈ after.toList, isLineBlank c = true)
    (host : HostCommands Key Host)
    (fuel : Nat) :
    (evaluator host (fuel + 1)).script (continuedLine name first before after second) =
      invoke host (evaluator host fuel) name [first, second] := by
  let behindFirst := before.toList ++ '\\' :: '\n' :: (after.toList ++ (second.toList ++ []))
  have text : (continuedLine name first before after second).toList =
      name.toList ++ ' ' :: (first.toList ++ behindFirst) := by
    simp [continuedLine, behindFirst]
  have endsName : endsWord false (' ' :: (first.toList ++ behindFirst)) = true := rfl
  have endsFirst : endsWord false behindFirst = true := by
    obtain ⟨c, rest, blanks⟩ := List.exists_cons_of_ne_nil (mt String.toList_eq_nil_iff.mp gap)
    have blank := blankBefore c (by simp [blanks])
    simp only [isLineBlank, Bool.or_eq_true, decide_eq_true_eq] at blank
    rw [show behindFirst = c :: (rest ++ _) by rw [← List.cons_append, ← blanks]]
    rcases blank with rfl | rfl
    · rfl
    · rfl
  have endsSecond : endsWord false [] = true := rfl
  obtain ⟨nameWord, spellsName, readName⟩ :=
    value_readScript_word none writesName (fun _ => noComment) endsName
  obtain ⟨firstWord, spellsFirst, readFirst⟩ :=
    value_readScript_word (some [nameWord]) writesFirst (by simp) endsFirst
  obtain ⟨secondWord, spellsSecond, readSecond⟩ :=
    value_readScript_word (some [nameWord, firstWord]) writesSecond (by simp) endsSecond
  have spell : List.Forall₂ Spells [nameWord, firstWord, secondWord]
      ([name, first, second].map String.toList) :=
    .cons spellsName (.cons spellsFirst (.cons spellsSecond .nil))
  apply script_of_spells _ spell
  rw [text, readName, value_readScript_space, Option.getD_none, List.nil_append, readFirst,
    Option.getD_some, value_readScript_gap blankBefore blankAfter]
  exact readSecond.trans (value_readScript_nil _)

/-- The two words on one line. -/
theorem script_two_words
    (writesName : Writes name.toList name.toList)
    (noComment : name.toList.head? ≠ some '#')
    (writesFirst : Writes first.toList first.toList)
    (writesSecond : Writes second.toList second.toList)
    (host : HostCommands Key Host)
    (fuel : Nat) :
    (evaluator host (fuel + 1)).script (name ++ " " ++ first ++ " " ++ second) =
      invoke host (evaluator host fuel) name [first, second] := by
  let command : WrittenCommand := {
    name
    parts := [(first, first), (second, second)]
    writesName
    noComment
    writes := by simpa using ⟨writesFirst, writesSecond⟩ }
  apply command.script_only
  simp [command, WrittenCommand.text, String.append_assoc]

/-- A comment at the start of a script that has no line end of its own is all of the script. -/
theorem script_comment
    {script : String}
    {behind : List Char}
    (text : script.toList = '#' :: behind)
    (drops : dropComment behind = [])
    (host : HostCommands Key Host)
    (fuel : Nat) :
    (evaluator host (fuel + 1)).script script = pure "" := by
  show runScript (invoke host (evaluator host fuel)) ""
    (readScript false none script.toList).value = _
  rw [text, value_readScript_comment, drops, readScript]
  rfl

theorem goesOn_of_plain
    {cs : List Char}
    (plain : ∀ c ∈ cs, isSpecial c = false) :
    ∀ c ∈ cs, c ≠ '\n' ∧ c ≠ '\\' :=
  fun c member => ⟨ne_of_isSpecial (plain c member) (by decide),
    ne_of_isSpecial (plain c member) (by decide)⟩

theorem goesOn_of_lineBlank
    {cs : List Char}
    (blank : ∀ c ∈ cs, isLineBlank c = true) :
    ∀ c ∈ cs, c ≠ '\n' ∧ c ≠ '\\' := by
  intro c member
  constructor
  · rintro rfl
    exact absurd (blank _ member) (by decide)
  · rintro rfl
    exact absurd (blank _ member) (by decide)

/-- Where the name starts a comment, both lines are all comment. -/
theorem scripts_commented
    (isComment : name.toList.head? = some '#')
    (goesOnName : ∀ c ∈ name.toList, c ≠ '\n' ∧ c ≠ '\\')
    (goesOnFirst : ∀ c ∈ first.toList, c ≠ '\n' ∧ c ≠ '\\')
    (goesOnSecond : ∀ c ∈ second.toList, c ≠ '\n' ∧ c ≠ '\\')
    (blankBefore : ∀ c ∈ before.toList, isLineBlank c = true)
    (blankAfter : ∀ c ∈ after.toList, isLineBlank c = true)
    (host : HostCommands Key Host)
    (fuel : Nat) :
    (evaluator host (fuel + 1)).script (continuedLine name first before after second) = pure "" ∧
      (evaluator host (fuel + 1)).script (name ++ " " ++ first ++ " " ++ second) = pure "" := by
  obtain ⟨behind, text⟩ := List.head?_eq_some_iff.mp isComment
  rw [text, List.forall_mem_cons] at goesOnName
  have drop : ∀ rest, dropComment (behind ++ [' '] ++ first.toList ++ rest) = dropComment rest := by
    intro rest
    rw [List.append_assoc, List.append_assoc, dropComment_append goesOnName.2,
      dropComment_append (by simp), dropComment_append goesOnFirst]
  have dropSecond : dropComment second.toList = [] := by
    simpa [dropComment] using dropComment_append goesOnSecond []
  have twoLines : (continuedLine name first before after second).toList =
      '#' :: (behind ++ [' '] ++ first.toList ++
        (before.toList ++ '\\' :: '\n' :: (after.toList ++ second.toList))) := by
    simp [continuedLine, text]
  have oneLine : (name ++ " " ++ first ++ " " ++ second).toList =
      '#' :: (behind ++ [' '] ++ first.toList ++ ([' '] ++ second.toList)) := by
    simp [text]
  constructor
  · apply script_comment twoLines
    rw [drop, dropComment_append (goesOn_of_lineBlank blankBefore), dropComment,
      dropComment_append (goesOn_of_lineBlank blankAfter), dropSecond]
  · apply script_comment oneLine
    rw [drop, dropComment_append (by simp), dropSecond]

end

/-- A backslash and a line end between two plain words separate them exactly if a blank stands in
front of the backslash; the blanks behind the line end make no difference. Without one in front the
command receives both words as a single argument with a space in the middle, unlike on one line. -/
theorem continued_line_arguments
    (name first before after second : String)
    (someFirst : first ≠ "")
    (someSecond : second ≠ "")
    (plainFirst : ∀ c ∈ first.toList, isSpecial c = false)
    (plainSecond : ∀ c ∈ second.toList, isSpecial c = false)
    (blankBefore : ∀ c ∈ before.toList, isLineBlank c = true)
    (blankAfter : ∀ c ∈ after.toList, isLineBlank c = true)
    (host : HostCommands Key Host)
    (fuel : Nat) :
    (Writes name.toList name.toList → name.toList.head? ≠ some '#' →
        (evaluator host (fuel + 1)).script (continuedLine name first before after second) =
            invoke host (evaluator host fuel) name (continuedArguments first before second) ∧
          (evaluator host (fuel + 1)).script (name ++ " " ++ first ++ " " ++ second) =
            invoke host (evaluator host fuel) name [first, second]) ∧
      ((∀ c ∈ name.toList, c ≠ '\n' ∧ c ≠ '\\') → name.toList.head? = some '#' →
        (evaluator host (fuel + 1)).script (continuedLine name first before after second) =
            pure "" ∧
          (evaluator host (fuel + 1)).script (name ++ " " ++ first ++ " " ++ second) =
            pure "") := by
  have nonemptyFirst : first.toList ≠ [] := mt String.toList_eq_nil_iff.mp someFirst
  have nonemptySecond : second.toList ≠ [] := mt String.toList_eq_nil_iff.mp someSecond
  have writesFirst := writes_plain nonemptyFirst plainFirst
  have writesSecond := writes_plain nonemptySecond plainSecond
  constructor
  · intro writesName noComment
    refine ⟨?_, script_two_words writesName noComment writesFirst writesSecond host fuel⟩
    by_cases joined : before = ""
    · subst joined
      exact script_continued_word writesName noComment
        (writes_continued nonemptyFirst nonemptySecond plainFirst plainSecond blankAfter) host fuel
    · rw [continuedArguments, if_neg joined]
      exact script_continued_words writesName noComment writesFirst writesSecond joined blankBefore
        blankAfter host fuel
  · intro goesOn isComment
    exact scripts_commented isComment goesOn (goesOn_of_plain plainFirst)
      (goesOn_of_plain plainSecond) blankBefore blankAfter host fuel

/-- The same words with and without a blank in front of the backslash. -/
theorem continued_line_arguments_of_blank :
    (evaluator Session.hostCommands 1).script "list a\\\n  b" =
        invoke Session.hostCommands (evaluator Session.hostCommands 0) "list" ["a b"] ∧
      (evaluator Session.hostCommands 1).script "list a \\\n  b" =
        invoke Session.hostCommands (evaluator Session.hostCommands 0) "list" ["a", "b"] := by
  have name : IsPlain "list".toList := by decide
  have first : IsPlain "a".toList := by decide
  have second : IsPlain "b".toList := by decide
  have none : ∀ c ∈ "".toList, isLineBlank c = true := nofun
  have one : ∀ c ∈ " ".toList, isLineBlank c = true := List.all_eq_true.mp (by decide)
  have two : ∀ c ∈ "  ".toList, isLineBlank c = true := List.all_eq_true.mp (by decide)
  have joined := continued_line_arguments "list" "a" "" "  " "b" (by decide) (by decide)
    first.plain second.plain none two Session.hostCommands 0
  have separated := continued_line_arguments "list" "a" " " "  " "b" (by decide) (by decide)
    first.plain second.plain one two Session.hostCommands 0
  exact ⟨(joined.1 name.writes name.noComment).1, (separated.1 name.writes name.noComment).1⟩

end ScriptBridge
