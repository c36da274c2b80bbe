import ScriptBridge.Proofs.Lists.RoundTrip
import ScriptBridge.Proofs.Script.Words

/-!
# Written lists as words of a script

A script reads each written list element as one word. The word is the element, with one exception:
in braces a backslash before a line end stands for a space there, and lists know no such thing.
-/

namespace ScriptBridge

open Text ListText

/-! ## Escaped line ends -/

/-- Whether a line end stands behind a backslash that is not itself escaped. -/
def escapesLineEnd : List Char → Bool
  | [] => false
  | ['\\'] => false
  | '\\' :: '\n' :: _ => true
  | '\\' :: _ :: rest => escapesLineEnd rest
  | _ :: rest => escapesLineEnd rest

theorem joinLines_cons {c : Char} (notBackslash : c ≠ '\\') (rest : List Char) :
    joinLines (c :: rest) = c :: joinLines rest := by
  rw [joinLines]
  · exact fun backslash _ => notBackslash backslash
  · exact fun _ backslash _ => notBackslash backslash
  · exact fun _ _ backslash _ => notBackslash backslash

theorem joinLines_of_escapesLineEnd_eq_false
    {cs : List Char}
    (kept : escapesLineEnd cs = false) :
    joinLines cs = cs := by
  fun_induction escapesLineEnd cs with
  | case1 => rw [joinLines]
  | case2 => rw [joinLines]
  | case3 => contradiction
  | case4 c rest notNewline inductionHypothesis =>
      rw [joinLines, inductionHypothesis kept]
      exact notNewline
  | case5 c rest notLast notJoined notEscape inductionHypothesis =>
      rw [joinLines_cons (ne_backslash notLast notEscape), inductionHypothesis kept]

theorem length_joinLines_le (cs : List Char) : (joinLines cs).length ≤ cs.length := by
  fun_induction joinLines cs with
  | case1 => simp
  | case2 => simp
  | case3 rest inductionHypothesis =>
      have shorter := length_dropWhile_le isLineBlank rest
      simp only [List.length_cons]
      omega
  | case4 => simpa
  | case5 => simpa

theorem length_joinLines_lt
    {cs : List Char}
    (joins : escapesLineEnd cs = true) :
    (joinLines cs).length < cs.length := by
  fun_induction escapesLineEnd cs with
  | case1 => contradiction
  | case2 => contradiction
  | case3 rest =>
      have joined := length_joinLines_le (rest.dropWhile isLineBlank)
      have shorter := length_dropWhile_le isLineBlank rest
      rw [joinLines]
      simp only [List.length_cons]
      omega
  | case4 c rest notNewline inductionHypothesis =>
      rw [joinLines]
      · have shorter := inductionHypothesis joins
        simpa
      · exact notNewline
  | case5 c rest notLast notJoined notEscape inductionHypothesis =>
      have shorter := inductionHypothesis joins
      rw [joinLines_cons (ne_backslash notLast notEscape)]
      simpa

theorem joinLines_eq_self_iff (cs : List Char) :
    joinLines cs = cs ↔ escapesLineEnd cs = false := by
  constructor
  · intro same
    by_contra joins
    have shorter := length_joinLines_lt (Bool.of_not_eq_false joins)
    rw [same] at shorter
    omega
  · exact joinLines_of_escapesLineEnd_eq_false

/-! ## What joining lines leaves as it is -/

theorem bracesMatch_dropWhile_isLineBlank (depth : Nat) (cs : List Char) :
    bracesMatch depth (cs.dropWhile isLineBlank) = bracesMatch depth cs := by
  induction cs with
  | nil => rfl
  | cons c cs inductionHypothesis =>
      cases blank : isLineBlank c with
      | false => rw [List.dropWhile_cons_of_neg (by simp [blank])]
      | true =>
          rw [List.dropWhile_cons_of_pos blank, inductionHypothesis]
          simp only [isLineBlank, Bool.or_eq_true, decide_eq_true_eq] at blank
          rcases blank with rfl | rfl
          · simp [bracesMatch]
          · simp [bracesMatch]

/-- In front of a character other than a brace or a backslash nothing changes. -/
theorem bracesMatch_cons
    {c : Char}
    (notBackslash : c ≠ '\\')
    (notOpen : c ≠ '{')
    (notClose : c ≠ '}')
    (depth : Nat)
    (cs : List Char) :
    bracesMatch depth (c :: cs) = bracesMatch depth cs := by
  rw [bracesMatch]
  · rintro rfl
    contradiction
  · rintro _ _ rfl
    contradiction
  · exact notOpen
  · exact notClose

theorem bracesMatch_joinLines (depth : Nat) (cs : List Char) :
    bracesMatch depth (joinLines cs) = bracesMatch depth cs := by
  fun_induction joinLines cs generalizing depth with
  | case1 => rfl
  | case2 => rfl
  | case3 rest inductionHypothesis =>
      rw [bracesMatch_cons (by decide) (by decide) (by decide), inductionHypothesis,
        bracesMatch_dropWhile_isLineBlank]
      rfl
  | case4 c rest notNewline inductionHypothesis =>
      simp only [bracesMatch, inductionHypothesis]
  | case5 c rest notLast notJoined notEscape inductionHypothesis =>
      have notBackslash := ne_backslash notLast notEscape
      by_cases isOpen : c = '{'
      · subst isOpen
        simp only [bracesMatch, inductionHypothesis]
      · by_cases isClose : c = '}'
        · subst isClose
          cases depth with
          | zero => simp [bracesMatch]
          | succ depth => simp only [bracesMatch, inductionHypothesis]
        · rw [bracesMatch_cons notBackslash isOpen isClose,
            bracesMatch_cons notBackslash isOpen isClose, inductionHypothesis]

theorem joinLines_eq_nil_iff (cs : List Char) : joinLines cs = [] ↔ cs = [] := by
  fun_cases joinLines cs <;> simp

theorem getLast?_cons_eq_some_iff {c last : Char} {cs : List Char} :
    (c :: cs).getLast? = some last ↔ cs = [] ∧ c = last ∨ cs.getLast? = some last := by
  cases cs with
  | nil => simp
  | cons next cs => simp [List.getLast?_cons_cons]

theorem getLast?_dropWhile_isLineBlank (cs : List Char) :
    (cs.dropWhile isLineBlank).getLast? = some '\\' ↔ cs.getLast? = some '\\' := by
  induction cs with
  | nil => rfl
  | cons c cs inductionHypothesis =>
      cases blank : isLineBlank c with
      | false => rw [List.dropWhile_cons_of_neg (by simp [blank])]
      | true =>
          have notBackslash : c ≠ '\\' := by
            rintro rfl
            exact absurd blank (by decide)
          rw [List.dropWhile_cons_of_pos blank, inductionHypothesis, getLast?_cons_eq_some_iff]
          simp [notBackslash]

/-- A text ends in a backslash whether or not its lines are joined. -/
theorem getLast?_joinLines (cs : List Char) :
    (joinLines cs).getLast? = some '\\' ↔ cs.getLast? = some '\\' := by
  fun_induction joinLines cs with
  | case1 => rfl
  | case2 => rfl
  | case3 rest inductionHypothesis =>
      simp [getLast?_cons_eq_some_iff, inductionHypothesis, getLast?_dropWhile_isLineBlank]
  | case4 c rest notNewline inductionHypothesis =>
      simp [getLast?_cons_eq_some_iff, inductionHypothesis, joinLines_eq_nil_iff]
  | case5 c rest notLast notJoined notEscape inductionHypothesis =>
      simp [getLast?_cons_eq_some_iff, inductionHypothesis, joinLines_eq_nil_iff]

/-- Blanks are dropped up to what is no blank. -/
theorem dropWhile_isLineBlank_append
    {ds : List Char}
    (notBlank : ∀ c rest, ds = c :: rest → isLineBlank c = false)
    (cs : List Char) :
    (cs ++ ds).dropWhile isLineBlank = cs.dropWhile isLineBlank ++ ds := by
  have kept : ds.dropWhile isLineBlank = ds := by
    cases ds with
    | nil => rfl
    | cons c rest => rw [List.dropWhile_cons_of_neg (by simp [notBlank c rest rfl])]
  induction cs with
  | nil => rw [List.nil_append, kept, List.dropWhile_nil, List.nil_append]
  | cons c cs inductionHypothesis =>
      cases blank : isLineBlank c with
      | false => simp [blank]
      | true => simp [blank, inductionHypothesis]

/-- Joining lines goes on behind text that ends in no backslash, up to what is no blank. -/
theorem joinLines_append
    {cs ds : List Char}
    (noBackslash : cs.getLast? ≠ some '\\')
    (notBlank : ∀ c rest, ds = c :: rest → isLineBlank c = false) :
    joinLines (cs ++ ds) = joinLines cs ++ joinLines ds := by
  fun_induction joinLines cs with
  | case1 => rfl
  | case2 => exact absurd rfl noBackslash
  | case3 rest inductionHypothesis =>
      have behind : (rest.dropWhile isLineBlank).getLast? ≠ some '\\' := by
        rw [Ne, getLast?_dropWhile_isLineBlank]
        exact getLast?_ne_of_cons (getLast?_ne_of_cons noBackslash)
      rw [List.cons_append, List.cons_append, joinLines, dropWhile_isLineBlank_append notBlank,
        inductionHypothesis behind, List.cons_append]
  | case4 c rest notNewline inductionHypothesis =>
      have behind := inductionHypothesis (getLast?_ne_of_cons (getLast?_ne_of_cons noBackslash))
      rw [List.cons_append, List.cons_append, joinLines, behind, List.cons_append, List.cons_append]
      exact notNewline
  | case5 c rest notLast notJoined notEscape inductionHypothesis =>
      have behind := inductionHypothesis (getLast?_ne_of_cons noBackslash)
      rw [List.cons_append, joinLines_cons (ne_backslash notLast notEscape), behind,
        List.cons_append]

/-! ## Elements as words -/

namespace ListText

/-- Whether braces around a text close with it. Such a text is written in braces, unless nothing in
it is special. -/
def fitsBraces (item : List Char) : Bool :=
  bracesMatch 0 item && item.getLast? != some '\\'

/-- What a script gets of an element. -/
def receivedChars (item : List Char) : List Char :=
  if fitsBraces item then joinLines item else item

def received (item : String) : String :=
  String.ofList (receivedChars item.toList)

/-- An element that is written bare. -/
structure IsPlain (item : List Char) : Prop where
  nonempty : item ≠ []
  plain : ∀ c ∈ item, isSpecial c = false
  noComment : item.head? ≠ some '#'

instance IsPlain.decidable (item : List Char) : Decidable (IsPlain item) :=
  decidable_of_iff (!item.isEmpty && item.all (!isSpecial ·) && item.head? != some '#') <| by
    constructor
    · intro passes
      simp only [Bool.and_eq_true, Bool.not_eq_true', List.isEmpty_eq_false_iff, List.all_eq_true,
        bne_iff_ne] at passes
      exact ⟨passes.1.1, passes.1.2, passes.2⟩
    · rintro ⟨nonempty, plain, noComment⟩
      simp only [Bool.and_eq_true, Bool.not_eq_true', List.isEmpty_eq_false_iff, List.all_eq_true,
        bne_iff_ne]
      exact ⟨⟨nonempty, plain⟩, noComment⟩

theorem fitsBraces_joinLines (item : List Char) :
    fitsBraces (joinLines item) = fitsBraces item := by
  have sameEnd : ((joinLines item).getLast? != some '\\') = (item.getLast? != some '\\') := by
    rw [Bool.eq_iff_iff, bne_iff_ne, bne_iff_ne, Ne, Ne, getLast?_joinLines]
  rw [fitsBraces, fitsBraces, bracesMatch_joinLines, sameEnd]

/-- A script gets an element as it is, unless a line end in it is escaped and the element is written
in braces. -/
theorem receivedChars_eq_self_iff (item : List Char) :
    receivedChars item = item ↔ fitsBraces item = false ∨ escapesLineEnd item = false := by
  unfold receivedChars
  cases fitsBraces item with
  | false => simp
  | true => simp [joinLines_eq_self_iff]

/-! ## Written characters -/

theorem endsWordAt_eq_false_of_isSpecial
    {c : Char}
    (plain : isSpecial c = false)
    (nested : Bool) :
    endsWordAt nested c = false := by
  have notEnd : c ≠ ';' := ne_of_isSpecial plain (by decide)
  have notClose : c ≠ ']' := ne_of_isSpecial plain (by decide)
  simp [endsWordAt, isBlank_eq_false_of_isSpecial plain, notEnd, notClose]

/-- A character that means nothing to a reader stands for itself in a word. -/
theorem standsFor_plain
    {c : Char}
    (plain : isSpecial c = false)
    (nested : Bool) :
    StandsFor (endsWordAt nested) [c] c :=
  .plain (endsWordAt_eq_false_of_isSpecial plain nested) (ne_of_isSpecial plain (by decide))
    (ne_of_isSpecial plain (by decide)) (ne_of_isSpecial plain (by decide))

theorem standsFor_escapeChar (c : Char) (nested : Bool) :
    StandsFor (endsWordAt nested) (escapeChar c) c := by
  by_cases newline : c = '\n'
  · subst newline
    exact .escaped ['n'] fun _ => rfl
  · by_cases tab : c = '\t'
    · subst tab
      exact .escaped ['t'] fun _ => rfl
    · by_cases needed : (isSpecial c || c = '#') = true
      · have written : escapeChar c = ['\\', c] := by
          simp only [escapeChar, newline, tab, needed, if_true, if_false]
        rw [written]
        exact .escaped [c] (readEscape_cons needed newline)
      · have written : escapeChar c = [c] := by
          simp only [escapeChar, newline, tab, needed, if_false, Bool.false_eq_true]
        have plain : isSpecial c = false := by
          simp only [Bool.or_eq_true, not_or, Bool.not_eq_true] at needed
          exact needed.1
        rw [written]
        exact standsFor_plain plain nested

/-! ## Written forms -/

/-- Text in which nothing is special is a word that is the text. -/
theorem writes_plain
    {item : List Char}
    (nonempty : item ≠ [])
    (plain : ∀ c ∈ item, isSpecial c = false) :
    Writes item item := by
  cases item with
  | nil => contradiction
  | cons c item =>
      have first := plain c List.mem_cons_self
      refine ⟨c, item, rfl, isBlank_eq_false_of_isSpecial first, ne_of_isSpecial first (by decide),
        ne_of_isSpecial first (by decide), ?_, ?_⟩
      · rintro rfl
        exact absurd first (by decide)
      · intro nested rest ends
        have read := readWord_written (fun c => [c]) rfl
          (ne_of_isSpecial first (by decide)) (ne_of_isSpecial first (by decide))
          (fun other member => standsFor_plain (plain other member) nested) ends
        rwa [List.flatMap_singleton', List.nil_append] at read

theorem IsPlain.writes {item : List Char} (isPlain : IsPlain item) : Writes item item :=
  writes_plain isPlain.nonempty isPlain.plain

/-- An element in braces is a word that is the element with its lines joined. -/
theorem writes_braced {item : List Char} (fits : fitsBraces item = true) :
    Writes ('{' :: item ++ ['}']) (joinLines item) := by
  simp only [fitsBraces, Bool.and_eq_true, bne_iff_ne] at fits
  refine ⟨'{', item ++ ['}'], rfl, by decide, by decide, by decide, nofun, ?_⟩
  intro nested rest ends
  refine ⟨[.literal (joinLines item)], spells_literal _, ?_⟩
  have inside := splitBraced_of_bracesMatch fits.1 fits.2 rest
  have opened : item ++ ['}'] ++ rest = item ++ '}' :: rest := by
    rw [List.append_assoc, List.singleton_append]
  rw [opened]
  exact gives_readWord_brace_iff.mpr ⟨item, inside, ends, rfl⟩

theorem bracesMatch_of_apart
    {item : List Char}
    (apart : ∀ c ∈ item, c ≠ '\\' ∧ c ≠ '{' ∧ c ≠ '}')
    (depth : Nat) :
    bracesMatch depth item = decide (depth = 0) := by
  induction item with
  | nil => rfl
  | cons c item inductionHypothesis =>
      obtain ⟨notBackslash, notOpen, notClose⟩ := apart c List.mem_cons_self
      rw [bracesMatch_cons notBackslash notOpen notClose]
      exact inductionHypothesis fun other member => apart other (List.mem_cons_of_mem c member)

theorem joinLines_of_apart {item : List Char} (apart : ∀ c ∈ item, c ≠ '\\') :
    joinLines item = item := by
  induction item with
  | nil => rw [joinLines]
  | cons c item inductionHypothesis =>
      have others := inductionHypothesis fun other member =>
        apart other (List.mem_cons_of_mem c member)
      rw [joinLines_cons (apart c List.mem_cons_self), others]

/-- Text without braces and backslashes is what a script gets of it in braces. -/
theorem writes_braced_of_apart
    {item : List Char}
    (apart : ∀ c ∈ item, c ≠ '\\' ∧ c ≠ '{' ∧ c ≠ '}') :
    Writes ('{' :: item ++ ['}']) item := by
  have noBackslash : item.getLast? ≠ some '\\' :=
    fun last => (apart '\\' (List.mem_of_getLast? last)).1 rfl
  have fits : fitsBraces item = true := by
    simp [fitsBraces, bracesMatch_of_apart apart, noBackslash]
  have written := writes_braced fits
  rwa [joinLines_of_apart fun c member => (apart c member).1] at written

/-- A character is written as itself or as one behind a backslash, which is no line end. -/
theorem escapeChar_cases (c : Char) :
    escapeChar c = [c] ∧ isSpecial c = false ∨ ∃ next, escapeChar c = ['\\', next] ∧ next ≠ '\n' := by
  unfold escapeChar
  by_cases newline : c = '\n'
  · exact .inr ⟨'n', if_pos newline, by decide⟩
  · by_cases tab : c = '\t'
    · exact .inr ⟨'t', by rw [if_neg newline, if_pos tab], by decide⟩
    · by_cases needed : (isSpecial c || c = '#') = true
      · exact .inr ⟨c, by rw [if_neg newline, if_neg tab, if_pos needed], newline⟩
      · have plain : isSpecial c = false := by
          simp only [Bool.or_eq_true, not_or, Bool.not_eq_true] at needed
          exact needed.1
        exact .inl ⟨by rw [if_neg newline, if_neg tab, if_neg needed], plain⟩

/-- An element with backslashes is a word that is the element. -/
theorem writes_escaped {item : List Char} (nonempty : item ≠ []) :
    Writes (item.flatMap escapeChar) item := by
  cases item with
  | nil => contradiction
  | cons c item =>
      have read : ∀ first behind, escapeChar c = first :: behind → first ≠ '{' → first ≠ '"' →
          ∀ nested rest, endsWord nested rest = true →
            ∃ word, Spells word (c :: item) ∧
              (readWord nested first (behind ++ item.flatMap escapeChar ++ rest)).Gives word rest :=
        fun first behind form notBrace notQuote nested rest ends =>
          readWord_written _ form notBrace notQuote (fun other _ => standsFor_escapeChar other nested)
            ends
      rcases escapeChar_cases c with ⟨form, plain⟩ | ⟨next, form, notNewline⟩
      · have notBackslash : c ≠ '\\' := ne_of_isSpecial plain (by decide)
        exact ⟨c, item.flatMap escapeChar, by rw [List.flatMap_cons, form]; rfl,
          isBlank_eq_false_of_isSpecial plain, ne_of_isSpecial plain (by decide),
          ne_of_isSpecial plain (by decide), fun backslash => absurd backslash notBackslash,
          read c [] form (ne_of_isSpecial plain (by decide)) (ne_of_isSpecial plain (by decide))⟩
      · exact ⟨'\\', next :: item.flatMap escapeChar, by rw [List.flatMap_cons, form]; rfl,
          isBlank_backslash, by decide, by decide, fun _ => ⟨next, _, rfl, notNewline⟩,
          read '\\' [next] form (by decide) (by decide)⟩

/-- In a bare element no line end is escaped. -/
theorem escapesLineEnd_eq_false_of_plain
    {item : List Char}
    (plain : ∀ c ∈ item, isSpecial c = false) :
    escapesLineEnd item = false := by
  fun_induction escapesLineEnd item with
  | case1 => rfl
  | case2 => rfl
  | case3 => exact absurd (plain '\\' List.mem_cons_self) (by decide)
  | case4 => exact absurd (plain '\\' List.mem_cons_self) (by decide)
  | case5 c rest _ _ _ inductionHypothesis =>
      exact inductionHypothesis fun other member => plain other (List.mem_cons_of_mem c member)

theorem IsPlain.receivedChars_eq {item : List Char} (isPlain : IsPlain item) :
    receivedChars item = item :=
  (receivedChars_eq_self_iff item).mpr (.inr (escapesLineEnd_eq_false_of_plain isPlain.plain))

/-- The three forms of an element: bare, in braces and with backslashes. -/
theorem writeElement_cases (item : List Char) :
    IsPlain item ∧ writeElement item = item ∨
      fitsBraces item = true ∧ writeElement item = '{' :: item ++ ['}'] ∨
      item ≠ [] ∧ fitsBraces item = false ∧ writeElement item = item.flatMap escapeChar := by
  by_cases empty : item = []
  · subst empty
    exact .inr (.inl ⟨rfl, rfl⟩)
  · have nonempty : ¬item.isEmpty = true := by rwa [List.isEmpty_iff]
    unfold writeElement
    rw [if_neg nonempty]
    by_cases bare : (!item.any isSpecial && item.head? != some '#') = true
    · rw [if_pos bare]
      simp only [Bool.and_eq_true, Bool.not_eq_true', List.any_eq_false, bne_iff_ne,
        Bool.not_eq_true] at bare
      exact .inl ⟨⟨empty, bare.1, bare.2⟩, rfl⟩
    · rw [if_neg bare]
      by_cases fits : fitsBraces item = true
      · exact .inr (.inl ⟨fits, if_pos fits⟩)
      · exact .inr (.inr ⟨empty, (Bool.not_eq_true _).mp fits, if_neg fits⟩)

theorem IsPlain.element_eq {item : String} (isPlain : IsPlain item.toList) : element item = item := by
  have bare : (!item.toList.any isSpecial && item.toList.head? != some '#') = true := by
    simp only [Bool.and_eq_true, Bool.not_eq_true', List.any_eq_false, bne_iff_ne, Bool.not_eq_true]
    exact ⟨isPlain.plain, isPlain.noComment⟩
  have nonempty : ¬item.toList.isEmpty = true := by
    rw [List.isEmpty_iff]
    exact isPlain.nonempty
  rw [element, writeElement, if_neg nonempty, if_pos bare, String.ofList_toList]

theorem IsPlain.received_eq {item : String} (isPlain : IsPlain item.toList) :
    received item = item := by
  rw [received, isPlain.receivedChars_eq, String.ofList_toList]

/-- A written element is read as a word that is what a script gets of the element. -/
theorem writes_writeElement (item : List Char) :
    Writes (writeElement item) (receivedChars item) := by
  rcases writeElement_cases item with ⟨isPlain, form⟩ | ⟨fits, form⟩ | ⟨nonempty, fits, form⟩
  · rw [form, isPlain.receivedChars_eq]
    exact isPlain.writes
  · rw [form, receivedChars, if_pos fits]
    exact writes_braced fits
  · rw [form, receivedChars, fits]
    exact writes_escaped nonempty

/-! ## Lists as arguments -/

/-- The written form of each element and what a script gets of it. -/
def wordsOf (items : List String) : List (String × String) :=
  items.map fun item => (element item, received item)

theorem writes_element (item : String) : Writes (element item).toList (received item).toList := by
  rw [element, received, String.toList_ofList, String.toList_ofList]
  exact writes_writeElement item.toList

/-- A list behind a space is its elements with a space in front of each; an empty one is nothing. -/
theorem space_format (items : List String) :
    " " ++ format items =
      String.join ((wordsOf items).map (" " ++ ·.1)) ++ (if items = [] then " " else "") := by
  unfold format
  induction items with
  | nil => rfl
  | cons item items inductionHypothesis =>
      cases items with
      | nil => simp [wordsOf]
      | cons next items =>
          simp only [reduceCtorEq, if_false, String.append_empty] at inductionHypothesis ⊢
          rw [List.map_cons, List.map_cons, String.intercalate_cons_cons, ← List.map_cons,
            String.append_assoc, inductionHypothesis]
          simp [wordsOf, String.append_assoc]

theorem writes_wordsOf (items : List String) :
    ∀ part ∈ wordsOf items, Writes part.1.toList part.2.toList := by
  intro part member
  obtain ⟨item, -, rfl⟩ := List.mem_map.mp member
  exact writes_element item

/-- A command whose name needs no quoting. -/
def plainCommand
    (name : String)
    (isPlain : IsPlain name.toList)
    (parts : List (String × String))
    (writes : ∀ part ∈ parts, Writes part.1.toList part.2.toList) : WrittenCommand where
  name := name
  parts := parts
  writesName := isPlain.writes
  noComment := isPlain.noComment
  writes := writes

/-- A bare name with a list behind it. -/
def listCommand (name : String) (items : List String) (isPlain : IsPlain name.toList) :
    WrittenCommand :=
  plainCommand name isPlain (wordsOf items) (writes_wordsOf items)

theorem arguments_listCommand
    {name : String}
    (isPlain : IsPlain name.toList)
    (items : List String) :
    (listCommand name items isPlain).arguments = items.map received := by
  simp [WrittenCommand.arguments, listCommand, plainCommand, wordsOf]

variable {Key Host : Type}

/-- A script that is a bare name with a written list behind it invokes one command, with what a
script gets of the elements as its arguments. -/
theorem script_format
    {name : String}
    (isPlain : IsPlain name.toList)
    (items : List String)
    (host : HostCommands Key Host)
    (fuel : Nat) :
    (evaluator host (fuel + 1)).script (name ++ " " ++ format items) =
      invoke host (evaluator host fuel) name (items.map received) := by
  obtain ⟨rest, blank, text⟩ : ∃ rest, (rest = "" ∨ rest = " ") ∧
      name ++ " " ++ format items = (listCommand name items isPlain).text ++ rest := by
    refine ⟨if items = [] then " " else "", by split <;> simp, ?_⟩
    rw [String.append_assoc, space_format, ← String.append_assoc]
    rfl
  rw [← arguments_listCommand isPlain]
  apply (listCommand name items isPlain).script_text rest text
  · rcases blank with rfl | rfl
    · rfl
    · simp [endsWord, endsWordAt, isBlank_space]
  · intro words
    rcases blank with rfl | rfl
    · exact value_readScript_nil words
    · exact (value_readScript_space []).trans (value_readScript_nil words)

end ListText

/-! ## Scripts that are known -/

section Known

variable {Key Host : Type}

/-- An evaluator for which it is known what some scripts do. -/
def Evaluator.knowing
    (eval : Evaluator Key Host)
    (known : List (String × Action Key Host String)) : Evaluator Key Host :=
  { eval with
    script := fun text =>
      match known.find? (·.1 = text) with
      | some entry => entry.2
      | none => eval.script text }

theorem Evaluator.eq_knowing
    {eval : Evaluator Key Host}
    {known : List (String × Action Key Host String)}
    (agrees : ∀ entry ∈ known, eval.script entry.1 = entry.2) :
    eval = eval.knowing known := by
  have same : eval.script = (eval.knowing known).script := by
    funext text
    unfold knowing
    dsimp only
    split
    · rename_i entry found
      have isText : entry.1 = text := by simpa using List.find?_some found
      rw [← isText, agrees entry (List.mem_of_find?_eq_some found)]
    · rfl
  exact congrArg (fun script => { eval with script }) same

theorem Evaluator.eq_knowing_singleton
    {eval : Evaluator Key Host}
    {text : String}
    {action : Action Key Host String}
    (known : eval.script text = action) :
    eval = eval.knowing [(text, action)] :=
  eq_knowing (by simpa using known)

/-- Scripts that are written as lists are known to invoke their first elements with the others, if all
of these come through as they are. -/
theorem ListText.evaluator_eq_knowing
    (scripts : List (String × List String))
    (plain : ∀ script ∈ scripts,
      IsPlain script.1.toList ∧ script.2.map received = script.2)
    (host : HostCommands Key Host)
    (fuel : Nat) :
    evaluator host (fuel + 1) =
      (evaluator host (fuel + 1)).knowing (scripts.map fun script =>
        (script.1 ++ " " ++ format script.2,
          invoke host (evaluator host fuel) script.1 script.2)) := by
  apply Evaluator.eq_knowing
  intro entry listed
  obtain ⟨script, member, rfl⟩ := List.mem_map.mp listed
  obtain ⟨isPlain, unchanged⟩ := plain script member
  rw [script_format isPlain, unchanged]

end Known

end ScriptBridge
