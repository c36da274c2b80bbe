import ScriptBridge.ListText

/-!
# Written lists are read back

Every element has one of four written forms: empty braces, the bare text, the text in braces, or
the text with backslashes. Each of them is read back as the element, whatever follows it, as long
as that is nothing or starts with a blank. Hence reading a written list gives the list.
-/

namespace ScriptBridge.ListText

open Text

/-! ## Characters of a written element -/

/-- A character that means nothing to a reader is no blank. -/
theorem isBlank_eq_false_of_isSpecial
    {c : Char}
    (plain : isSpecial c = false) :
    isBlank c = false := by
  simp only [isSpecial, Bool.or_eq_false_iff] at plain
  exact plain.1

theorem ne_of_isSpecial
    {c special : Char}
    (plain : isSpecial c = false)
    (isOne : isSpecial special = true) :
    c ≠ special := by
  rintro rfl
  rw [plain] at isOne
  contradiction

theorem isBlank_backslash : isBlank '\\' = false := by decide

/-- A backslash in front of a character that needs one stands for the character. Line feeds and
tabs are written with a letter instead. -/
theorem readEscape_cons
    {c : Char}
    (needed : (isSpecial c || c = '#') = true)
    (notNewline : c ≠ '\n')
    (rest : List Char) :
    readEscape (c :: rest) = ([c], rest) := by
  have notLetter : ∀ letter, (isSpecial letter || letter = '#') = false → c ≠ letter := by
    rintro letter plain rfl
    rw [plain] at needed
    contradiction
  have noControl : controlOf? c = none := by
    unfold controlOf?
    split
    all_goals first | rfl | exact absurd rfl (notLetter _ (by decide))
  unfold readEscape
  split
  · contradiction
  case h_2 heads => exact absurd (List.cons_eq_cons.mp heads).1 notNewline
  case h_3 heads =>
      exact absurd (List.cons_eq_cons.mp heads).1 (notLetter 'x' (by decide))
  case h_4 heads =>
      exact absurd (List.cons_eq_cons.mp heads).1 (notLetter 'u' (by decide))
  case h_5 heads =>
      obtain ⟨rfl, rfl⟩ := List.cons_eq_cons.mp heads
      rw [noControl]
      rfl

/-! ## Runs of text -/

/-- A bare run ends where an element may end. -/
theorem readUntil_isBlank_of_endsElement
    {rest : List Char}
    (ends : endsElement rest = true) :
    readUntil isBlank rest = ([], rest) := by
  cases rest with
  | nil => rw [readUntil]
  | cons c rest =>
      rw [readUntil]
      simp only [show isBlank c = true from ends, if_true]

theorem readUntil_isBlank_cons
    {c : Char}
    (plain : isSpecial c = false)
    (rest : List Char) :
    readUntil isBlank (c :: rest) =
      (c :: (readUntil isBlank rest).1, (readUntil isBlank rest).2) := by
  have notBackslash : c ≠ '\\' := ne_of_isSpecial plain (by decide)
  rw [readUntil]
  simp only [isBlank_eq_false_of_isSpecial plain, Bool.false_eq_true, if_false, notBackslash]

theorem readUntil_isBlank_backslash (rest : List Char) :
    readUntil isBlank ('\\' :: rest) =
      ((readEscape rest).1 ++ (readUntil isBlank (readEscape rest).2).1,
        (readUntil isBlank (readEscape rest).2).2) := by
  rw [readUntil]
  simp only [isBlank_backslash, Bool.false_eq_true, if_false, if_true]

/-- Text in which nothing is special is read as it stands. -/
theorem readUntil_isBlank_bare
    {item rest : List Char}
    (bare : item.any isSpecial = false)
    (ends : endsElement rest = true) :
    readUntil isBlank (item ++ rest) = (item, rest) := by
  induction item with
  | nil => exact readUntil_isBlank_of_endsElement ends
  | cons c item inductionHypothesis =>
      obtain ⟨plain, others⟩ := Bool.or_eq_false_iff.mp (List.any_cons ▸ bare)
      rw [List.cons_append, readUntil_isBlank_cons plain, inductionHypothesis others]

/-- The written form of a character is read as the character. -/
theorem readUntil_isBlank_escapeChar (c : Char) (rest : List Char) :
    readUntil isBlank (escapeChar c ++ rest) =
      (c :: (readUntil isBlank rest).1, (readUntil isBlank rest).2) := by
  by_cases newline : c = '\n'
  · subst c
    exact readUntil_isBlank_backslash ('n' :: rest)
  · by_cases tab : c = '\t'
    · subst c
      exact readUntil_isBlank_backslash ('t' :: rest)
    · by_cases needed : (isSpecial c || c = '#') = true
      · have written : escapeChar c = ['\\', c] := by
          simp only [escapeChar, newline, tab, needed, if_true, if_false]
        have read := readEscape_cons needed newline rest
        rw [written, List.cons_append, List.singleton_append, readUntil_isBlank_backslash, read]
        rfl
      · have written : escapeChar c = [c] := by
          simp only [escapeChar, newline, tab, needed, if_false, Bool.false_eq_true]
        have plain : isSpecial c = false := by
          simp only [Bool.or_eq_true, not_or, Bool.not_eq_true] at needed
          exact needed.1
        rw [written, List.singleton_append, readUntil_isBlank_cons plain]

/-- Text with backslashes where they are needed is read without them. -/
theorem readUntil_isBlank_escaped
    {rest : List Char}
    (ends : endsElement rest = true)
    (item : List Char) :
    readUntil isBlank (item.flatMap escapeChar ++ rest) = (item, rest) := by
  induction item with
  | nil => exact readUntil_isBlank_of_endsElement ends
  | cons c item inductionHypothesis =>
      rw [List.flatMap_cons, List.append_assoc, readUntil_isBlank_escapeChar,
        inductionHypothesis]

/-! ## Braces -/

theorem getLast?_ne_of_cons
    {c last : Char}
    {cs : List Char}
    (differs : (c :: cs).getLast? ≠ some last) :
    cs.getLast? ≠ some last := by
  cases cs with
  | nil => simp
  | cons => simpa only [List.getLast?_cons_cons] using differs

/-- Text whose braces match, and that ends in no backslash, is split off in front of the brace that
closes it: writer and reader agree on which braces count. -/
theorem splitBraced_of_bracesMatch
    {depth : Nat}
    {item : List Char}
    (braces : bracesMatch depth item = true)
    (noBackslash : item.getLast? ≠ some '\\')
    (rest : List Char) :
    splitBraced depth (item ++ '}' :: rest) = some (item, rest) := by
  fun_induction bracesMatch depth item with
  | case1 depth =>
      obtain rfl : depth = 0 := by simpa using braces
      rfl
  | case2 => exact absurd rfl noBackslash
  | case3 depth c item inductionHypothesis =>
      have behind := inductionHypothesis braces (getLast?_ne_of_cons (getLast?_ne_of_cons noBackslash))
      simp only [List.cons_append, splitBraced, behind, Option.map_some]
  | case4 depth item inductionHypothesis =>
      have behind := inductionHypothesis braces (getLast?_ne_of_cons noBackslash)
      simp only [List.cons_append, splitBraced, behind, Option.map_some]
  | case5 => contradiction
  | case6 item depth inductionHypothesis =>
      have behind := inductionHypothesis braces (getLast?_ne_of_cons noBackslash)
      simp only [List.cons_append, splitBraced, behind, Option.map_some]
  | case7 depth c item notLast notEscape notOpen notClose inductionHypothesis =>
      have behind := inductionHypothesis braces (getLast?_ne_of_cons noBackslash)
      rw [List.cons_append, splitBraced, behind, Option.map_some]
      · intro _ empty
        simp at empty
      · intro next others backslash behindIt
        cases item with
        | nil => exact notLast backslash rfl
        | cons => exact notEscape _ _ backslash rfl
      · exact notOpen
      · exact notClose

/-! ## Elements -/

/-- An element that opens with no brace and no quote is a bare run. -/
theorem readElement_of_bare
    {c : Char}
    (notBrace : c ≠ '{')
    (notQuote : c ≠ '"')
    (rest : List Char) :
    readElement (c :: rest) = .ok (readUntil isBlank (c :: rest)) := by
  unfold readElement
  split
  · rename_i heads
    exact absurd (List.cons_eq_cons.mp heads).1 notBrace
  · rename_i heads
    exact absurd (List.cons_eq_cons.mp heads).1 notQuote
  · rfl

/-- The written form of a character opens with a backslash or with a character that means
nothing to a reader. -/
theorem escapeChar_eq_cons (c : Char) :
    ∃ first behind,
      escapeChar c = first :: behind ∧ (first = '\\' ∨ isSpecial first = false) := by
  unfold escapeChar
  split
  · exact ⟨_, _, rfl, .inl rfl⟩
  · split
    · exact ⟨_, _, rfl, .inl rfl⟩
    · split
      · exact ⟨_, _, rfl, .inl rfl⟩
      · rename_i needless
        refine ⟨c, [], rfl, .inr ?_⟩
        simp only [Bool.or_eq_true, not_or, Bool.not_eq_true] at needless
        exact needless.1

/-- Whatever its form, a written element is read back, up to where it ends. -/
theorem readElement_writeElement
    {rest : List Char}
    (ends : endsElement rest = true)
    (item : List Char) :
    readElement (writeElement item ++ rest) = .ok (item, rest) := by
  unfold writeElement
  split
  case isTrue empty =>
      obtain rfl := List.isEmpty_iff.mp empty
      simp only [List.cons_append, List.nil_append, readElement, splitBraced, ends, if_true]
  case isFalse nonempty =>
    obtain ⟨c, cs, rfl⟩ : ∃ c cs, item = c :: cs := by
      cases item with
      | nil => exact absurd rfl nonempty
      | cons c cs => exact ⟨c, cs, rfl⟩
    split
    case isTrue bare =>
        have plain : (c :: cs).any isSpecial = false := by
          simp only [Bool.and_eq_true, Bool.not_eq_true'] at bare
          exact bare.1
        have first : isSpecial c = false := (Bool.or_eq_false_iff.mp (List.any_cons ▸ plain)).1
        have run := readUntil_isBlank_bare plain ends
        rw [List.cons_append] at run ⊢
        rw [readElement_of_bare (ne_of_isSpecial first (by decide))
          (ne_of_isSpecial first (by decide)), run]
    case isFalse =>
      split
      case isTrue braced =>
          simp only [Bool.and_eq_true, bne_iff_ne] at braced
          have inside := splitBraced_of_bracesMatch braced.1 braced.2 rest
          have opened :
              '{' :: (c :: cs) ++ ['}'] ++ rest = '{' :: (c :: cs ++ '}' :: rest) := by
            rw [List.cons_append, List.cons_append, List.append_assoc, List.singleton_append]
          rw [opened]
          simp only [readElement, inside, ends, if_true]
      case isFalse =>
          have run := readUntil_isBlank_escaped ends (c :: cs)
          obtain ⟨first, behind, written, plain⟩ := escapeChar_eq_cons c
          rw [List.flatMap_cons, written, List.cons_append, List.cons_append] at run ⊢
          have notBrace : first ≠ '{' := by
            rcases plain with rfl | plain
            · decide
            · exact ne_of_isSpecial plain (by decide)
          have notQuote : first ≠ '"' := by
            rcases plain with rfl | plain
            · decide
            · exact ne_of_isSpecial plain (by decide)
          rw [readElement_of_bare notBrace notQuote, run]

/-- No written element opens with a blank. -/
theorem writeElement_eq_cons (item : List Char) :
    ∃ first behind, writeElement item = first :: behind ∧ isBlank first = false := by
  unfold writeElement
  split
  · exact ⟨_, _, rfl, by decide⟩
  · rename_i nonempty
    cases item with
    | nil => exact absurd rfl nonempty
    | cons c cs =>
        split
        · rename_i bare
          simp only [Bool.and_eq_true, Bool.not_eq_true'] at bare
          have first := (Bool.or_eq_false_iff.mp (List.any_cons ▸ bare.1)).1
          exact ⟨c, cs, rfl, isBlank_eq_false_of_isSpecial first⟩
        · split
          · exact ⟨_, _, rfl, by decide⟩
          · obtain ⟨first, behind, written, plain⟩ := escapeChar_eq_cons c
            rw [List.flatMap_cons, written]
            refine ⟨first, _, rfl, ?_⟩
            rcases plain with rfl | plain
            · exact isBlank_backslash
            · exact isBlank_eq_false_of_isSpecial plain

/-! ## Lists -/

/-- A list that starts with a written element starts with the element. -/
theorem read_writeElement_append
    {rest : List Char}
    (ends : endsElement rest = true)
    (item : List Char) :
    read (writeElement item ++ rest) = (String.ofList item :: ·) <$> read rest := by
  obtain ⟨first, behind, written, notBlank⟩ := writeElement_eq_cons item
  have one := readElement_writeElement ends item
  rw [written, List.cons_append] at one ⊢
  rw [read]
  split
  · rename_i blank
    rw [notBlank] at blank
    contradiction
  · split
    · rename_i failed
      rw [one] at failed
      contradiction
    · rename_i succeeded
      rw [one] at succeeded
      obtain ⟨rfl, rfl⟩ := Prod.mk.inj (Except.ok.inj succeeded)
      rfl

/-- Blanks in front of a list are skipped. -/
theorem read_space (rest : List Char) : read (' ' :: rest) = read rest := by
  rw [read]
  split
  · rfl
  · rename_i notBlank
    exact absurd notBlank (by decide)

theorem read_nil : read [] = .ok [] := by rw [read]

theorem parse_element (item : String) : parse (element item) = .ok [item] := by
  have one := read_writeElement_append (show endsElement [] = true from rfl) item.toList
  rw [List.append_nil, String.ofList_toList, read_nil] at one
  rw [parse, element, String.toList_ofList, one]
  rfl

theorem parse_format (items : List String) : parse (format items) = .ok items := by
  unfold parse format
  rw [String.toList_intercalate]
  induction items with
  | nil => exact read_nil
  | cons item items inductionHypothesis =>
      cases items with
      | nil =>
          rw [List.map_singleton, List.map_singleton, List.intercalate_singleton]
          exact parse_element item
      | cons next items =>
          have space : " ".toList = [' '] := rfl
          simp only [List.map_cons, List.intercalate_cons_cons] at inductionHypothesis ⊢
          rw [space] at inductionHypothesis ⊢
          rw [List.append_assoc, List.singleton_append, element, String.toList_ofList,
            read_writeElement_append rfl, read_space, inductionHypothesis,
            String.ofList_toList]
          rfl

/-- Reading what was written gives the elements that were written, for a list and for a single
element. -/
theorem parse_written :
    (∀ items, parse (format items) = .ok items) ∧ ∀ item, parse (element item) = .ok [item] :=
  ⟨parse_format, parse_element⟩

end ScriptBridge.ListText
