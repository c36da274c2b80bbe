import ScriptBridge.Proofs.Numeral.Decimals
import ScriptBridge.Proofs.Script.WrittenLists

/-!
# Lists that are joined

Some commands join their arguments: they cut the blanks off the ends of each and put spaces between
them. Written lists that are joined are one written list of all their elements, with one exception:
where the last element of a list is written with backslashes and ends in a blank, that blank is cut
off. The backslash in front of it is left, and takes the space that follows.
-/

namespace ScriptBridge

open Text

namespace ListText

/-! ## Ends of elements -/

/-- An element is written with backslashes, and the last of them stands in front of a blank. -/
def endsInBlank (item : List Char) : Bool :=
  !fitsBraces item && item.getLast?.any fun c => isBlank c && c != '\n' && c != '\t'

/-- The last element of a list does not end in a blank behind a backslash. -/
def KeepsEnd (items : List String) : Prop :=
  ∀ item ∈ items.getLast?, endsInBlank item.toList = false

instance KeepsEnd.decidable (items : List String) : Decidable (KeepsEnd items) :=
  decidable_of_iff (items.getLast?.all fun item => !endsInBlank item.toList) <| by
    simp [KeepsEnd, Option.all_eq_true]

theorem getLast?_escapeChar
    {c : Char}
    (kept : (isBlank c && c != '\n' && c != '\t') = false) :
    ∃ last, (escapeChar c).getLast? = some last ∧ isBlank last = false := by
  by_cases newline : c = '\n'
  · subst newline
    exact ⟨'n', rfl, by decide⟩
  · by_cases tab : c = '\t'
    · subst tab
      exact ⟨'t', rfl, by decide⟩
    · have notBlank : isBlank c = false := by simpa [newline, tab] using kept
      by_cases needed : (isSpecial c || c = '#') = true
      · exact ⟨c, by simp only [escapeChar, newline, tab, needed, if_true, if_false]; rfl, notBlank⟩
      · exact ⟨c, by simp only [escapeChar, newline, tab, needed, if_false]; rfl, notBlank⟩

/-- An element is written without a blank at its end, unless that stands behind a backslash. -/
theorem isBlank_last_writeElement
    {item : List Char}
    (keeps : endsInBlank item = false) :
    ∀ c ∈ (writeElement item).getLast?, isBlank c = false := by
  intro c isLast
  rcases writeElement_cases item with ⟨isPlain, form⟩ | ⟨fits, form⟩ | ⟨nonempty, fits, form⟩
  · rw [form] at isLast
    exact isBlank_eq_false_of_isSpecial (isPlain.plain c (List.mem_of_getLast? isLast))
  · rw [form, List.getLast?_concat] at isLast
    cases isLast
    decide
  · obtain ⟨body, last, rfl⟩ := List.eq_nil_or_concat' item |>.resolve_left nonempty
    have kept : (isBlank last && last != '\n' && last != '\t') = false := by
      simpa [endsInBlank, fits] using keeps
    obtain ⟨written, isWritten, notBlank⟩ := getLast?_escapeChar kept
    rw [form, List.flatMap_append, List.flatMap_singleton, List.getLast?_append, isWritten]
      at isLast
    cases isLast
    exact notBlank

/-- The blank at the end of an element stands behind a backslash. -/
theorem writeElement_of_endsInBlank
    {item : List Char}
    (ends : endsInBlank item = true) :
    ∃ body c, item = body ++ [c] ∧ body ≠ [] ∧ isBlank c = true ∧
      writeElement item = body.flatMap escapeChar ++ ['\\', c] := by
  simp only [endsInBlank, Bool.and_eq_true, Bool.not_eq_true', Option.any_eq_true, bne_iff_ne]
    at ends
  obtain ⟨fits, c, isLast, ⟨blank, notNewline⟩, notTab⟩ := ends
  obtain ⟨body, rfl⟩ := List.getLast?_eq_some_iff.mp isLast
  have special : isSpecial c = true := by simp [isSpecial, blank]
  refine ⟨body, c, rfl, ?_, blank, ?_⟩
  · rintro rfl
    have noBrace : c ≠ '{' ∧ c ≠ '}' ∧ c ≠ '\\' := by
      refine ⟨?_, ?_, ?_⟩ <;> rintro rfl <;> exact absurd blank (by decide)
    simp [fitsBraces, bracesMatch, noBrace] at fits
  · rcases writeElement_cases (body ++ [c]) with ⟨isPlain, -⟩ | ⟨doesFit, -⟩ | ⟨-, -, form⟩
    · have plain := isPlain.plain c (by simp)
      rw [special] at plain
      cases plain
    · rw [doesFit] at fits
      cases fits
    · rw [form, List.flatMap_append, List.flatMap_singleton]
      simp [escapeChar, notNewline, notTab, special]

/-! ## Ends of lists -/

theorem format_cons_of_ne_nil (item : String) {items : List String} (more : items ≠ []) :
    format (item :: items) = element item ++ " " ++ format items := by
  rw [format, List.map_cons, String.intercalate_cons_of_ne_nil (by simpa using more)]
  rfl

theorem format_append
    {first second : List String}
    (some : first ≠ [])
    (more : second ≠ []) :
    format (first ++ second) = format first ++ " " ++ format second := by
  rw [format, List.map_append,
    String.intercalate_append_of_ne_nil (by simpa using some) (by simpa using more)]
  rfl

/-- The elements in front of the last one of a list, each with the space behind it. -/
def front (items : List String) : List Char :=
  items.flatMap fun item => writeElement item.toList ++ [' ']

theorem toList_format_concat (items : List String) (last : String) :
    (format (items ++ [last])).toList = front items ++ writeElement last.toList := by
  induction items with
  | nil => simp [front, format, element]
  | cons item items inductionHypothesis =>
      rw [List.cons_append, format_cons_of_ne_nil item (by simp), String.toList_append,
        String.toList_append, inductionHypothesis]
      simp [front, element]

theorem read_front (items : List String) (rest : List Char) :
    read (front items ++ rest) = (items ++ ·) <$> read rest := by
  induction items with
  | nil => simp [front]
  | cons item items inductionHypothesis =>
      have split : front (item :: items) ++ rest =
          writeElement item.toList ++ (' ' :: (front items ++ rest)) := by
        simp [front]
      rw [split, read_writeElement_append rfl, read_space, inductionHypothesis]
      cases read rest <;> simp

/-- The text of a list that is not empty starts with a written element. -/
theorem format_eq_writeElement_append {items : List String} (some : items ≠ []) :
    ∃ first rest, (format items).toList = writeElement first ++ rest := by
  obtain ⟨item, items, rfl⟩ := List.exists_cons_of_ne_nil some
  cases items with
  | nil => exact ⟨item.toList, [], by simp [format, element]⟩
  | cons next items =>
      rw [format_cons_of_ne_nil item (by simp), String.append_assoc, String.toList_append]
      exact ⟨item.toList, _, by rw [element, String.toList_ofList]⟩

theorem toList_format_ne_nil {items : List String} (some : items ≠ []) :
    (format items).toList ≠ [] := by
  obtain ⟨first, rest, starts⟩ := format_eq_writeElement_append some
  obtain ⟨c, behind, written, -⟩ := writeElement_eq_cons first
  simp [starts, written]

theorem isBlank_head_writeElement_append (item rest : List Char) :
    ∀ c ∈ (writeElement item ++ rest).head?, isBlank c = false := by
  obtain ⟨first, behind, written, notBlank⟩ := writeElement_eq_cons item
  intro c isHead
  rw [written] at isHead
  cases isHead
  exact notBlank

theorem isBlank_head_format (items : List String) :
    ∀ c ∈ (format items).toList.head?, isBlank c = false := by
  by_cases empty : items = []
  · subst empty
    nofun
  · obtain ⟨first, rest, starts⟩ := format_eq_writeElement_append empty
    rw [starts]
    exact isBlank_head_writeElement_append first rest

/-- A written list has no blanks around it if its end is kept. -/
theorem trim_format {items : List String} (keeps : KeepsEnd items) :
    trim (format items).toList = (format items).toList := by
  apply trim_eq_self (isBlank_head_format items)
  rcases List.eq_nil_or_concat' items with rfl | ⟨front, last, rfl⟩
  · nofun
  · intro c isLast
    obtain ⟨first, behind, written, -⟩ := writeElement_eq_cons last.toList
    rw [toList_format_concat, List.getLast?_append_of_ne_nil _ (by simp [written])] at isLast
    exact isBlank_last_writeElement (keeps last (by simp)) c isLast

/-- Otherwise the blank at the end is cut off, and the backslash in front of it is left. -/
theorem trim_format_of_not_keepsEnd {items : List String} (loses : ¬KeepsEnd items) :
    ∃ init body c, items = init ++ [String.ofList (body ++ [c])] ∧ body ≠ [] ∧ isBlank c = true ∧
      trim (format items).toList = front init ++ body.flatMap escapeChar ++ ['\\'] := by
  simp only [KeepsEnd, Option.mem_def, not_forall, Bool.not_eq_false] at loses
  obtain ⟨last, isLast, ends⟩ := loses
  obtain ⟨init, rfl⟩ := List.getLast?_eq_some_iff.mp isLast
  obtain ⟨body, c, whole, some, blank, written⟩ := writeElement_of_endsInBlank ends
  refine ⟨init, body, c, by rw [← whole, String.ofList_toList], some, blank, ?_⟩
  have text : (format (init ++ [last])).toList =
      front init ++ body.flatMap escapeChar ++ ['\\'] ++ [c] := by
    rw [toList_format_concat, written]
    simp
  have opens := isBlank_head_format (init ++ [last])
  rw [text] at opens ⊢
  apply trim_concat (by simp) ?_ ?_ blank
  · simpa using opens
  · simp [isBlank_backslash]

/-! ## Joined texts -/

/-- A text behind a space, if there is any. -/
def spaced : List Char → List Char
  | [] => []
  | c :: rest => ' ' :: c :: rest

theorem endsElement_spaced (rest : List Char) : endsElement (spaced rest) = true := by
  cases rest <;> rfl

theorem read_spaced (rest : List Char) : read (spaced rest) = read rest := by
  cases rest with
  | nil => rfl
  | cons c rest => exact read_space (c :: rest)

theorem spaced_of_ne_nil {rest : List Char} (some : rest ≠ []) : spaced rest = ' ' :: rest := by
  cases rest with
  | nil => contradiction
  | cons c rest => rfl

theorem intercalate_ne_empty
    {texts : List String}
    (nonempty : texts ≠ [])
    (some : ∀ text ∈ texts, text ≠ "") :
    " ".intercalate texts ≠ "" := by
  obtain ⟨text, texts, rfl⟩ := List.exists_cons_of_ne_nil nonempty
  have first := some text List.mem_cons_self
  by_cases alone : texts = []
  · simp [alone, first]
  · simp [String.intercalate_cons_of_ne_nil alone, first]

/-- A text is joined with those behind it, unless nothing but blanks is in it. -/
theorem toList_concatenation_cons (part : String) (parts : List String) :
    (Commands.concatenation (part :: parts)).toList =
      if trim part.toList = [] then (Commands.concatenation parts).toList
      else trim part.toList ++ spaced (Commands.concatenation parts).toList := by
  unfold Commands.concatenation
  by_cases empty : trim part.toList = []
  · simp [empty]
  · rw [if_neg empty, List.map_cons, List.filter_cons_of_pos (by simpa using empty)]
    have kept : ∀ text ∈ (parts.map fun part => String.ofList (trim part.toList)).filter
        (!·.isEmpty), text ≠ "" := by
      intro text member
      simpa using (List.mem_filter.mp member).2
    generalize (parts.map fun part => String.ofList (trim part.toList)).filter (!·.isEmpty) = texts
      at kept ⊢
    by_cases alone : texts = []
    · simp [alone, spaced]
    · have more : (" ".intercalate texts).toList ≠ [] := by
        rw [Ne, String.toList_eq_nil_iff]
        exact intercalate_ne_empty alone kept
      rw [String.intercalate_cons_of_ne_nil alone, spaced_of_ne_nil more, String.toList_append,
        String.toList_append, String.toList_ofList, List.append_assoc]
      rfl

/-- The text of joined lists. -/
def joined (lists : List (List String)) : List Char :=
  (Commands.concatenation (lists.map format)).toList

theorem joined_nil_cons (lists : List (List String)) : joined ([] :: lists) = joined lists := by
  rw [joined, List.map_cons, toList_concatenation_cons, if_pos (by decide), joined]

theorem joined_cons_of_keepsEnd
    {items : List String}
    (some : items ≠ [])
    (keeps : KeepsEnd items)
    (lists : List (List String)) :
    joined (items :: lists) = (format items).toList ++ spaced (joined lists) := by
  rw [joined, List.map_cons, toList_concatenation_cons, trim_format keeps,
    if_neg (toList_format_ne_nil some), joined]

/-- A list that does not keep its end is joined with a backslash in front of the space. -/
theorem joined_cons_of_not_keepsEnd
    {items : List String}
    (loses : ¬KeepsEnd items)
    (lists : List (List String)) :
    ∃ init body c, items = init ++ [String.ofList (body ++ [c])] ∧ body ≠ [] ∧ isBlank c = true ∧
      joined (items :: lists) =
        front init ++ (body.flatMap escapeChar ++ '\\' :: spaced (joined lists)) := by
  obtain ⟨init, body, c, whole, some, blank, trimmed⟩ := trim_format_of_not_keepsEnd loses
  refine ⟨init, body, c, whole, some, blank, ?_⟩
  rw [joined, List.map_cons, toList_concatenation_cons, trimmed, if_neg (by simp)]
  simp [joined]

/-! ## Reading joined lists -/

theorem readUntil_isBlank_flatMap (item rest : List Char) :
    readUntil isBlank (item.flatMap escapeChar ++ rest) =
      (item ++ (readUntil isBlank rest).1, (readUntil isBlank rest).2) := by
  induction item with
  | nil => rfl
  | cons c item inductionHypothesis =>
      rw [List.flatMap_cons, List.append_assoc, readUntil_isBlank_escapeChar, inductionHypothesis]
      rfl

/-- Read as a bare run, a written element has some text. -/
theorem readUntil_isBlank_writeElement_ne_nil (item rest : List Char) :
    (readUntil isBlank (writeElement item ++ rest)).1 ≠ [] := by
  rcases writeElement_cases item with ⟨isPlain, form⟩ | ⟨fits, form⟩ | ⟨nonempty, fits, form⟩
  · obtain ⟨c, behind, rfl⟩ := List.exists_cons_of_ne_nil isPlain.nonempty
    rw [form, List.cons_append, readUntil_isBlank_cons (isPlain.plain c List.mem_cons_self)]
    simp
  · have notBlank : isBlank '{' = false := by decide
    rw [form, List.cons_append, List.cons_append, readUntil]
    simp [notBlank]
  · rw [form, readUntil_isBlank_flatMap]
    simp [nonempty]

/-- So has the text of joined lists. -/
theorem readUntil_isBlank_joined_ne_nil
    {lists : List (List String)}
    (some : joined lists ≠ []) :
    (readUntil isBlank (joined lists)).1 ≠ [] := by
  induction lists with
  | nil => exact absurd rfl some
  | cons items lists inductionHypothesis =>
      by_cases empty : items = []
      · subst empty
        rw [joined_nil_cons] at some ⊢
        exact inductionHypothesis some
      · by_cases keeps : KeepsEnd items
        · obtain ⟨first, rest, starts⟩ := format_eq_writeElement_append empty
          rw [joined_cons_of_keepsEnd empty keeps, starts, List.append_assoc]
          exact readUntil_isBlank_writeElement_ne_nil _ _
        · obtain ⟨init, body, c, -, more, -, text⟩ := joined_cons_of_not_keepsEnd keeps lists
          rw [text]
          cases init with
          | nil =>
              rw [front, List.flatMap_nil, List.nil_append, readUntil_isBlank_flatMap]
              simp [more]
          | cons first init =>
              rw [front, List.flatMap_cons, List.append_assoc, List.append_assoc]
              exact readUntil_isBlank_writeElement_ne_nil _ _

theorem ok_of_map
    {Fault α β : Type}
    {change : α → β}
    {result : Except Fault α}
    {value : β}
    (same : change <$> result = .ok value) :
    ∃ inner, result = .ok inner ∧ change inner = value := by
  cases result with
  | ok inner => exact ⟨inner, rfl, Except.ok.inj same⟩
  | error fault => cases same

/-- A list that opens with no blank, brace or quote starts with a bare run. -/
theorem read_of_bare
    {c : Char}
    (notBlank : isBlank c = false)
    (notBrace : c ≠ '{')
    (notQuote : c ≠ '"')
    (rest : List Char) :
    read (c :: rest) =
      (String.ofList (readUntil isBlank (c :: rest)).1 :: ·) <$>
        read (readUntil isBlank (c :: rest)).2 := by
  have one := readElement_of_bare notBrace notQuote rest
  rw [read]
  split
  · rename_i blank
    rw [notBlank] at blank
    contradiction
  · split
    · rename_i failed
      rw [one] at failed
      contradiction
    · rename_i succeeded
      rw [one] at succeeded
      obtain ⟨rfl, rfl⟩ := Prod.mk.inj (Except.ok.inj succeeded)
      rfl

/-- Text with backslashes where they are needed opens a bare run. -/
theorem read_flatMap_backslash (body rest : List Char) :
    read (body.flatMap escapeChar ++ '\\' :: rest) =
      (String.ofList (body ++ (readUntil isBlank ('\\' :: rest)).1) :: ·) <$>
        read (readUntil isBlank ('\\' :: rest)).2 := by
  have run := readUntil_isBlank_flatMap body ('\\' :: rest)
  obtain ⟨first, behind, opens, plain⟩ : ∃ first behind,
      body.flatMap escapeChar ++ '\\' :: rest = first :: behind ∧
        (first = '\\' ∨ isSpecial first = false) := by
    cases body with
    | nil => exact ⟨'\\', rest, rfl, .inl rfl⟩
    | cons c body =>
        obtain ⟨first, behind, written, plain⟩ := escapeChar_eq_cons c
        rw [List.flatMap_cons, written]
        exact ⟨first, _, rfl, plain⟩
  have bare : isBlank first = false ∧ first ≠ '{' ∧ first ≠ '"' := by
    rcases plain with rfl | plain
    · decide
    · exact ⟨isBlank_eq_false_of_isSpecial plain, ne_of_isSpecial plain (by decide),
        ne_of_isSpecial plain (by decide)⟩
  rw [opens] at run ⊢
  rw [read_of_bare bare.1 bare.2.1 bare.2.2, run]

/-- A backslash that has lost its blank stands for itself at the end of the text; elsewhere it makes
the space part of its element, to which then the next list adds. Either way that is not what the
element was. -/
theorem read_cut_ne
    {body : List Char}
    {c : Char}
    (blank : isBlank c = true)
    (lists : List (List String))
    (items : List String) :
    read (body.flatMap escapeChar ++ '\\' :: spaced (joined lists)) ≠
      .ok (String.ofList (body ++ [c]) :: items) := by
  intro same
  rw [read_flatMap_backslash] at same
  obtain ⟨others, -, same⟩ := ok_of_map same
  have ends := String.ofList_injective (List.cons.inj same).1
  rw [List.append_cancel_left_eq, readUntil_isBlank_backslash] at ends
  by_cases last : joined lists = []
  · rw [last, spaced, readEscape, readUntil] at ends
    cases ends
    exact absurd blank (by decide)
  · have escape : readEscape (' ' :: joined lists) = ([' '], joined lists) := rfl
    rw [spaced_of_ne_nil last, escape] at ends
    exact readUntil_isBlank_joined_ne_nil last (List.cons.inj ends).2

/-! ## Lists of lists -/

/-- Lists that keep their ends are joined to the text of the one list of all their elements. -/
theorem concatenation_format
    {lists : List (List String)}
    (keep : ∀ items ∈ lists, KeepsEnd items) :
    Commands.concatenation (lists.map format) = format lists.flatten := by
  rw [← String.toList_inj]
  show joined lists = _
  induction lists with
  | nil => rfl
  | cons items lists inductionHypothesis =>
      have others := inductionHypothesis fun other member =>
        keep other (List.mem_cons_of_mem items member)
      rw [List.flatten_cons]
      by_cases empty : items = []
      · subst empty
        rw [joined_nil_cons, others, List.nil_append]
      · rw [joined_cons_of_keepsEnd empty (keep items List.mem_cons_self), others]
        by_cases last : lists.flatten = []
        · simp [last, format, spaced]
        · rw [spaced_of_ne_nil (toList_format_ne_nil last), format_append empty last,
            String.toList_append, String.toList_append, List.append_assoc]
          rfl

/-- Joined lists read back as the list of all their elements only if all of them keep their ends. -/
theorem keepsEnd_of_read_joined
    {lists : List (List String)}
    (readBack : read (joined lists) = .ok lists.flatten) :
    ∀ items ∈ lists, KeepsEnd items := by
  induction lists with
  | nil => nofun
  | cons items lists inductionHypothesis =>
      by_cases empty : items = []
      · subst empty
        rw [joined_nil_cons, List.flatten_cons, List.nil_append] at readBack
        intro other member
        rcases List.mem_cons.mp member with rfl | further
        · nofun
        · exact inductionHypothesis readBack other further
      · by_cases keeps : KeepsEnd items
        · -- The list is read back, so what stands behind it is.
          obtain ⟨init, last, rfl⟩ := List.eq_nil_or_concat' items |>.resolve_left empty
          rw [joined_cons_of_keepsEnd empty keeps, toList_format_concat, List.append_assoc,
            read_front, read_writeElement_append (endsElement_spaced _), read_spaced,
            String.ofList_toList, List.flatten_cons, List.append_assoc] at readBack
          obtain ⟨found, readLast, same⟩ := ok_of_map readBack
          obtain ⟨others, readOthers, rfl⟩ := ok_of_map readLast
          obtain rfl : others = lists.flatten := by simpa using same
          intro other member
          rcases List.mem_cons.mp member with rfl | further
          · exact keeps
          · exact inductionHypothesis readOthers other further
        · -- The last element of the list is not read back.
          obtain ⟨init, body, c, rfl, -, blank, text⟩ := joined_cons_of_not_keepsEnd keeps lists
          rw [text, read_front, List.flatten_cons, List.append_assoc] at readBack
          obtain ⟨found, readCut, same⟩ := ok_of_map readBack
          obtain rfl : found = String.ofList (body ++ [c]) :: lists.flatten := by simpa using same
          exact absurd readCut (read_cut_ne blank lists _)

/-- Commands that join their arguments do with several written lists what they do with the one list
of all their elements. -/
structure JoinToOne (lists : List (List String)) : Prop where
  concat : ∀ {Key Host : Type},
    (Commands.concat (lists.map format) : Action Key Host String) = return format lists.flatten
  eval : ∀ {Key Host : Type} (eval : Evaluator Key Host),
    Commands.evalArguments eval (lists.map format) = eval.script (format lists.flatten)
  namespaceEval : ∀ {Key Host : Type} (eval : Evaluator Key Host) (name : String),
    Commands.namespaces eval ("eval" :: name :: lists.map format) =
      eval.script (format lists.flatten)
  idle : ∀ {Key Host : Type},
    (Commands.after ("idle" :: lists.map format) : Action Key Host String) =
      Commands.scheduleScript none (format lists.flatten)
  delayed : ∀ {Key Host : Type} (delay : String),
    (Commands.afterDelay delay (lists.map format) : Action Key Host String) =
      Commands.afterDelay delay [format lists.flatten]
  /-- The script that they make of the lists is one command, which receives all elements. -/
  received : ∀ {Key Host : Type} (host : HostCommands Key Host) (fuel : Nat)
    (name : String) (items : List String),
    lists.flatten = name :: items → IsPlain name.toList →
      (evaluator host (fuel + 1)).script (format lists.flatten) =
        invoke host (evaluator host fuel) name (items.map received)

theorem keepsEnd_flatten
    {lists : List (List String)}
    (keep : ∀ items ∈ lists, KeepsEnd items) :
    KeepsEnd lists.flatten := by
  induction lists with
  | nil => nofun
  | cons items lists inductionHypothesis =>
      have others := inductionHypothesis fun other member =>
        keep other (List.mem_cons_of_mem items member)
      rw [List.flatten_cons]
      by_cases last : lists.flatten = []
      · rw [last, List.append_nil]
        exact keep items List.mem_cons_self
      · rw [KeepsEnd, List.getLast?_append_of_ne_nil items last]
        exact others

/-- A written list whose first element is a bare name is a command. -/
theorem script_format_cons
    {Key Host : Type}
    {name : String}
    (isPlain : IsPlain name.toList)
    (items : List String)
    (host : HostCommands Key Host)
    (fuel : Nat) :
    (evaluator host (fuel + 1)).script (format (name :: items)) =
      invoke host (evaluator host fuel) name (items.map received) := by
  by_cases alone : items = []
  · subst alone
    apply (listCommand name [] isPlain).script_only
    simp [format, isPlain.element_eq, WrittenCommand.text, listCommand, plainCommand, wordsOf]
  · rw [format_cons_of_ne_nil name alone, isPlain.element_eq, script_format isPlain]

theorem joinToOne_of_keepsEnd
    {lists : List (List String)}
    (keep : ∀ items ∈ lists, KeepsEnd items)
    (some : lists ≠ []) :
    JoinToOne lists := by
  have whole := concatenation_format keep
  obtain ⟨items, lists, rfl⟩ := List.exists_cons_of_ne_nil some
  have again : Commands.concatenation [format (items :: lists).flatten] =
      format (items :: lists).flatten := by
    have keepsEnd : ∀ other ∈ [(items :: lists).flatten], KeepsEnd other := by
      intro other member
      rw [List.mem_singleton.mp member]
      exact keepsEnd_flatten keep
    have one := concatenation_format keepsEnd
    rwa [List.map_singleton, List.flatten_singleton] at one
  rw [List.map_cons] at whole
  constructor
  case concat =>
    intros
    rw [Commands.concat, List.map_cons, whole]
  case eval =>
    intros
    rw [Commands.evalArguments, List.map_cons, whole]
    nofun
  case namespaceEval =>
    intros
    rw [List.map_cons, Commands.namespaces, whole]
  case idle =>
    intros
    rw [List.map_cons, Commands.after, whole]
  case delayed =>
    intros
    simp only [Commands.afterDelay, List.map_cons, whole, again]
  case received =>
    intro Key Host host fuel name items' same isPlain
    rw [same]
    exact script_format_cons isPlain items' host fuel

/-- Joining written lists gives a text that reads back as all their elements exactly if none of them
ends in an element that is written with backslashes and ends in a blank. Then all commands that join
their arguments treat the lists as one; the script that they make of them passes on each element. -/
theorem joined_lists_read_back_iff (lists : List (List String)) :
    (parse (Commands.concatenation (lists.map format)) = .ok lists.flatten ↔
        ∀ items ∈ lists, KeepsEnd items) ∧
      ((∀ items ∈ lists, KeepsEnd items) → lists ≠ [] → JoinToOne lists) := by
  refine ⟨⟨keepsEnd_of_read_joined, ?_⟩, joinToOne_of_keepsEnd⟩
  intro keep
  rw [concatenation_format keep, parse_format]

/-- Elements with blanks, braces and backslashes, and a list that is empty. -/
theorem joined_lists_read_back_mixed :
    parse (Commands.concatenation ([["a b", "\x7b"], [], [" c", "\\"]].map format)) =
        .ok ["a b", "\x7b", " c", "\\"] ∧
      JoinToOne [["a b", "\x7b"], [], [" c", "\\"]] := by
  have keep : ∀ items ∈ [["a b", "\x7b"], [], [" c", "\\"]], KeepsEnd items := by decide
  have law := joined_lists_read_back_iff [["a b", "\x7b"], [], [" c", "\\"]]
  exact ⟨law.1.mpr keep, law.2 keep (by simp)⟩

/-- The space that joins two lists becomes part of an element. -/
example :
    parse (Commands.concatenation ([["\x7b "], ["y"]].map format)) = .ok ["\x7b y"] := by
  cbv

end ListText

end ScriptBridge
