import ScriptBridge.Proofs.Numeral.Integers
import ScriptBridge.Proofs.Program.Arguments

/-!
# Lines of settings files

A line has nothing to do if it is blank or a comment. Otherwise it sets something, or it is faulty:
then it fails whatever the settings are.
-/

namespace ScriptBridge.Settings

open Text

/-! ## Assignments -/

/-- A valid assignment to a setting. -/
inductive Assignment where
  | dumpCommands (value : Bool)
  | evaluate (value : Bool)
  | namespaceName (name : String) (valid : isIdentifier name = true)
  deriving DecidableEq

namespace Assignment

@[simp]
def apply (settings : Settings) : Assignment → Settings
  | dumpCommands value => { settings with dumpCommands := value }
  | evaluate value => { settings with evaluate := value }
  | namespaceName name _ => { settings with namespaceName := name }

end Assignment

/-- What a line or a variable amounts to. -/
inductive Content where
  | nothing
  | assignment (assignment : Assignment)
  | fault
  deriving DecidableEq

@[simp]
def Content.apply (settings : Settings) : Content → Settings
  | .assignment found => found.apply settings
  | _ => settings

/-! ## What is written -/

def switchWords : Bool → List String
  | true => ["1", "true", "yes", "on"]
  | false => ["0", "false", "no", "off"]

/-- A truth word in any letter case. -/
def IsSwitch (text : String) (value : Bool) : Prop :=
  String.ofList (text.toList.map Char.toLower) ∈ switchWords value

/-- A key and a value of a settings file. -/
inductive Sets : String → String → Assignment → Prop
  | dumpCommands {text : String} {value : Bool} (switch : IsSwitch text value) :
      Sets "dump_commands" text (.dumpCommands value)
  | evaluate {text : String} {value : Bool} (switch : IsSwitch text value) :
      Sets "evaluate" text (.evaluate value)
  | namespaceName {name : String} (valid : isIdentifier name = true) :
      Sets "namespace" name (.namespaceName name valid)

/-- The text with blanks around it. -/
def Padded (text whole : List Char) : Prop :=
  ∃ before after, (∀ c ∈ before, isBlank c = true) ∧ (∀ c ∈ after, isBlank c = true) ∧
    whole = before ++ (text ++ after)

/-- A line of a settings file that sets something: the value is bare or in quotes. -/
inductive Assigns : List Char → Assignment → Prop
  | intro
      {key value written left right : List Char}
      {assignment : Assignment}
      (sets : Sets (String.ofList key) (String.ofList value) assignment)
      (isWritten : written = value ∨ written = '"' :: (value ++ ['"']))
      (keyed : Padded key left)
      (valued : Padded written right) :
      Assigns (left ++ '=' :: right) assignment

/-- A line of a settings file with nothing to do. -/
inductive Ignored : List Char → Prop
  | blank {line : List Char} (allBlank : ∀ c ∈ line, isBlank c = true) : Ignored line
  | comment
      {before : List Char}
      {mark : Char}
      (allBlank : ∀ c ∈ before, isBlank c = true)
      (isMark : mark = '#' ∨ mark = ';')
      (rest : List Char) :
      Ignored (before ++ mark :: rest)

def LineContent (line : List Char) : Content → Prop
  | .nothing => Ignored line
  | .assignment assignment => Assigns line assignment
  | .fault => ¬Ignored line ∧ ∀ assignment, ¬Assigns line assignment

/-! ## Values -/

section

variable {text : String} {value : Bool}

instance IsSwitch.decidable (text : String) (value : Bool) : Decidable (IsSwitch text value) :=
  inferInstanceAs (Decidable (_ ∈ _))

theorem readSwitch_of_isSwitch (switch : IsSwitch text value) (key : String) :
    readSwitch key text = .ok value := by
  cases value with
  | true =>
      simp only [IsSwitch, switchWords, List.mem_cons, List.not_mem_nil, or_false] at switch
      rcases switch with word | word | word | word <;> simp [readSwitch, word]
  | false =>
      simp only [IsSwitch, switchWords, List.mem_cons, List.not_mem_nil, or_false] at switch
      rcases switch with word | word | word | word <;> simp [readSwitch, word]

theorem readSwitch_of_none (noSwitch : ∀ value, ¬IsSwitch text value) (key : String) :
    readSwitch key text = .error (.noBoolean key text) := by
  have noTrue := noSwitch true
  have noFalse := noSwitch false
  simp only [IsSwitch, switchWords, List.mem_cons, List.not_mem_nil, or_false, not_or]
    at noTrue noFalse
  simp [readSwitch, noTrue, noFalse]

end

theorem isSpecial_toLower (c : Char) : ListText.isSpecial c.toLower = ListText.isSpecial c := by
  revert c
  apply Numeral.forall_char_of_ascii
  · decide
  · intro c beyond
    rw [Numeral.toLower_of_beyond beyond]

/-- Truth words are visible characters without quotes. -/
theorem plain_of_isSwitch {text : String} {value : Bool} (switch : IsSwitch text value) :
    text.toList ≠ [] ∧ ∀ c ∈ text.toList, ListText.isSpecial c = false := by
  have words : (switchWords value).all (fun word =>
      word.toList ≠ [] && word.toList.all (!ListText.isSpecial ·)) = true := by
    cases value <;> decide
  have word := List.all_eq_true.mp words _ switch
  simp only [Bool.and_eq_true, decide_eq_true_eq, List.all_eq_true, String.toList_ofList] at word
  refine ⟨by simpa using word.1, fun c member => ?_⟩
  rw [← isSpecial_toLower]
  simpa using word.2 _ (List.mem_map_of_mem member)

section

variable {key text : String} {assignment : Assignment}

theorem plain_of_sets (sets : Sets key text assignment) :
    text.toList ≠ [] ∧ ∀ c ∈ text.toList, ListText.isSpecial c = false := by
  cases sets with
  | dumpCommands switch => exact plain_of_isSwitch switch
  | evaluate switch => exact plain_of_isSwitch switch
  | namespaceName valid =>
      have plain := isPlain_of_isIdentifier valid
      exact ⟨plain.nonempty, plain.plain⟩

theorem isPlain_key_of_sets (sets : Sets key text assignment) :
    ListText.IsPlain key.toList ∧ '=' ∉ key.toList := by
  cases sets <;> decide

theorem assign_of_sets (sets : Sets key text assignment) (settings : Settings) :
    settings.assign key text = .ok (assignment.apply settings) := by
  cases sets with
  | dumpCommands switch => simp [Settings.assign, readSwitch_of_isSwitch switch]
  | evaluate switch => simp [Settings.assign, readSwitch_of_isSwitch switch]
  | namespaceName valid => simp [Settings.assign, valid]

theorem assign_of_none (unset : ∀ assignment, ¬Sets key text assignment) :
    ∃ fault, ∀ settings : Settings, settings.assign key text = .error fault := by
  by_cases isDump : key = "dump_commands"
  · subst isDump
    have noSwitch : ∀ value, ¬IsSwitch text value := fun _ switch => unset _ (.dumpCommands switch)
    refine ⟨.noBoolean "dump_commands" text, fun settings => ?_⟩
    rw [Settings.assign, readSwitch_of_none noSwitch]
    rfl
  by_cases isEvaluate : key = "evaluate"
  · subst isEvaluate
    have noSwitch : ∀ value, ¬IsSwitch text value := fun _ switch => unset _ (.evaluate switch)
    refine ⟨.noBoolean "evaluate" text, fun settings => ?_⟩
    rw [Settings.assign, readSwitch_of_none noSwitch]
    rfl
  by_cases isNamespace : key = "namespace"
  · subst isNamespace
    have invalid : ¬isIdentifier text = true := fun valid => unset _ (.namespaceName valid)
    exact ⟨.badNamespace text, fun settings => by simp [Settings.assign, invalid]⟩
  · refine ⟨.unknownKey key, fun settings => ?_⟩
    rw [Settings.assign] <;> assumption

end

/-! ## Blanks around texts -/

theorem padded_trim (text : List Char) : Padded (trim text) text :=
  exists_trim text

section

variable {text whole blanks : List Char}

theorem Padded.behind (padded : Padded text whole) (allBlank : ∀ c ∈ blanks, isBlank c = true) :
    Padded text (blanks ++ whole) := by
  obtain ⟨before, after, blankBefore, blankAfter, rfl⟩ := padded
  exact ⟨blanks ++ before, after, List.forall_mem_append.mpr ⟨allBlank, blankBefore⟩, blankAfter,
    by simp⟩

theorem Padded.inFrontOf (padded : Padded text whole) (allBlank : ∀ c ∈ blanks, isBlank c = true) :
    Padded text (whole ++ blanks) := by
  obtain ⟨before, after, blankBefore, blankAfter, rfl⟩ := padded
  exact ⟨before, after ++ blanks, blankBefore, List.forall_mem_append.mpr ⟨blankAfter, allBlank⟩,
    by simp⟩

theorem padded_self (text : List Char) : Padded text text :=
  ⟨[], [], by simp, by simp, by simp⟩

end

/-- The text is not empty and has no blank at its ends. -/
structure IsTrimmed (text : List Char) : Prop where
  nonempty : text ≠ []
  opens : ∀ c ∈ text.head?, isBlank c = false
  closes : ∀ c ∈ text.getLast?, isBlank c = false

theorem isTrimmed_of_plain
    {text : List Char}
    (nonempty : text ≠ [])
    (plain : ∀ c ∈ text, ListText.isSpecial c = false) :
    IsTrimmed text where
  nonempty := nonempty
  opens c isHead := ListText.isBlank_eq_false_of_isSpecial (plain c (List.mem_of_head? isHead))
  closes c isLast := ListText.isBlank_eq_false_of_isSpecial (plain c (List.mem_of_getLast? isLast))

theorem isTrimmed_quoted (value : List Char) : IsTrimmed ('"' :: (value ++ ['"'])) where
  nonempty := by simp
  opens c isHead := by
    obtain rfl : '"' = c := by simpa using isHead
    decide
  closes c isLast := by
    obtain rfl : '"' = c := by
      rw [← List.cons_append, List.getLast?_append] at isLast
      simpa using isLast
    decide

theorem IsTrimmed.append
    {first last : List Char}
    (opens : IsTrimmed first)
    (closes : IsTrimmed last)
    (between : List Char) :
    IsTrimmed (first ++ (between ++ last)) where
  nonempty := by simp [opens.nonempty]
  opens c isHead := by
    rw [List.head?_append_of_ne_nil _ opens.nonempty] at isHead
    exact opens.opens c isHead
  closes c isLast := by
    rw [← List.append_assoc, List.getLast?_append_of_ne_nil _ closes.nonempty] at isLast
    exact closes.closes c isLast

theorem IsTrimmed.trim_eq
    {text whole : List Char}
    (isTrimmed : IsTrimmed text)
    (padded : Padded text whole) :
    trim whole = text := by
  obtain ⟨before, after, blankBefore, blankAfter, rfl⟩ := padded
  exact trim_between blankBefore blankAfter isTrimmed.nonempty isTrimmed.opens isTrimmed.closes

theorem trim_of_isBlank {cs : List Char} (allBlank : ∀ c ∈ cs, isBlank c = true) :
    trim cs = [] := by
  have nothing : trimLeft cs = [] := by
    rw [trimLeft, List.dropWhile_eq_nil_iff]
    exact allBlank
  rw [trim, nothing]
  rfl

/-- Trimmed text begins with the first character that is not blank. -/
theorem head?_trim
    {before : List Char}
    {c : Char}
    (blankBefore : ∀ c ∈ before, isBlank c = true)
    (notBlank : isBlank c = false)
    (rest : List Char) :
    (trim (before ++ c :: rest)).head? = some c := by
  have left : trimLeft (before ++ c :: rest) = c :: rest := by
    rw [trimLeft_append blankBefore, trimLeft, List.dropWhile_cons_of_neg (by simp [notBlank])]
  obtain ⟨after, blankAfter, right⟩ := exists_trimLeft (c :: rest).reverse
  have whole : c :: rest = trim (before ++ c :: rest) ++ after.reverse := by
    rw [trim, left, ← List.reverse_append, ← right, List.reverse_reverse]
  cases isTrimmed : trim (before ++ c :: rest) with
  | nil =>
      rw [isTrimmed, List.nil_append] at whole
      have member : c ∈ after := List.mem_reverse.mp (whole ▸ List.mem_cons_self)
      rw [blankAfter c member] at notBlank
      contradiction
  | cons first others =>
      rw [isTrimmed, List.cons_append] at whole
      rw [List.head?_cons, (List.cons.inj whole).1]

/-! ## Quotes -/

theorem unquote_of_plain
    {value : List Char}
    (plain : ∀ c ∈ value, ListText.isSpecial c = false) :
    unquote value = value := by
  cases value with
  | nil => rfl
  | cons c rest =>
      have noQuote : c ≠ '"' := ListText.ne_of_isSpecial (plain c List.mem_cons_self) (by decide)
      rw [unquote]
      intro _ same
      exact noQuote (List.cons.inj same).1

theorem unquote_quoted (value : List Char) : unquote ('"' :: (value ++ ['"'])) = value := by
  simp [unquote]

/-- What a value may look like before its quotes are taken off. -/
theorem unquote_cases (written : List Char) :
    written = unquote written ∨ written = '"' :: (unquote written ++ ['"']) := by
  cases written with
  | nil => exact .inl rfl
  | cons c rest =>
      by_cases opened : c = '"'
      · subst opened
        by_cases closed : rest.getLast? = some '"'
        · obtain ⟨value, rfl⟩ := List.getLast?_eq_some_iff.mp closed
          simp [unquote]
        · simp [unquote, closed]
      · left
        rw [unquote]
        intro _ same
        exact opened (List.cons.inj same).1

/-- The written form of a value that can be set. -/
theorem written_of_sets
    {key : String}
    {value written : List Char}
    {assignment : Assignment}
    (sets : Sets key (String.ofList value) assignment)
    (isWritten : written = value ∨ written = '"' :: (value ++ ['"'])) :
    IsTrimmed written ∧ unquote written = value := by
  obtain ⟨nonempty, plain⟩ := plain_of_sets sets
  rw [String.toList_ofList] at nonempty plain
  rcases isWritten with rfl | rfl
  · exact ⟨isTrimmed_of_plain nonempty plain, unquote_of_plain plain⟩
  · exact ⟨isTrimmed_quoted value, unquote_quoted value⟩

/-! ## Lines -/

theorem noComment_of_isPlain
    {key : List Char}
    (keyPlain : ListText.IsPlain key)
    (rest : List Char) :
    ∀ c ∈ (key ++ rest).head?, c ≠ '#' ∧ c ≠ ';' := by
  intro c isHead
  rw [List.head?_append_of_ne_nil _ keyPlain.nonempty] at isHead
  have plain := keyPlain.plain c (List.mem_of_head? isHead)
  refine ⟨?_, ListText.ne_of_isSpecial plain (by decide)⟩
  rintro rfl
  exact keyPlain.noComment isHead

/-- A line that is no comment is taken apart at its first equals sign. -/
theorem applyLine_of_noComment
    {line : List Char}
    (nonempty : trim line ≠ [])
    (noComment : ∀ c ∈ (trim line).head?, c ≠ '#' ∧ c ≠ ';')
    (settings : Settings) :
    settings.applyLine line =
      match (trim line).dropWhile (· ≠ '=') with
      | [] => .error (.noAssignment (String.ofList (trim line)))
      | _ :: value =>
          settings.assign
            (String.ofList (trim ((trim line).takeWhile (· ≠ '='))))
            (String.ofList (unquote (trim value))) := by
  rw [Settings.applyLine]
  split
  · contradiction
  · rename_i isComment
    exact absurd rfl (noComment '#' (by rw [isComment]; rfl)).1
  · rename_i isComment
    exact absurd rfl (noComment ';' (by rw [isComment]; rfl)).2
  · rfl

theorem applyLine_of_trim
    {line key value : List Char}
    (trimmed : trim line = key ++ '=' :: value)
    (noComment : ∀ c ∈ (trim line).head?, c ≠ '#' ∧ c ≠ ';')
    (noEquals : '=' ∉ key)
    (settings : Settings) :
    settings.applyLine line =
      settings.assign (String.ofList (trim key)) (String.ofList (unquote (trim value))) := by
  have apart : ∀ c ∈ key, decide (c ≠ '=') = true := by
    intro c member
    rw [decide_eq_true_eq]
    rintro rfl
    exact noEquals member
  have behind : (trim line).dropWhile (· ≠ '=') = '=' :: value := by
    rw [trimmed, List.dropWhile_append_of_pos apart, List.dropWhile_cons_of_neg (by decide)]
  have front : (trim line).takeWhile (· ≠ '=') = key := by
    rw [trimmed, List.takeWhile_append_of_pos apart, List.takeWhile_cons_of_neg (by decide),
      List.append_nil]
  rw [applyLine_of_noComment (by simp [trimmed]) noComment, behind, front]

section

variable {line : List Char}

theorem applyLine_of_ignored (ignored : Ignored line) (settings : Settings) :
    settings.applyLine line = .ok settings := by
  cases ignored with
  | blank allBlank =>
      rw [Settings.applyLine, trim_of_isBlank allBlank]
  | @comment before mark allBlank isMark rest =>
      have notBlank : isBlank mark = false := by rcases isMark with rfl | rfl <;> decide
      obtain ⟨others, isTrimmed⟩ := List.head?_eq_some_iff.mp (head?_trim allBlank notBlank rest)
      rw [Settings.applyLine, isTrimmed]
      rcases isMark with rfl | rfl <;> rfl

theorem applyLine_of_assigns
    {assignment : Assignment}
    (assigns : Assigns line assignment)
    (settings : Settings) :
    settings.applyLine line = .ok (assignment.apply settings) := by
  obtain @⟨key, value, written, left, right, _, sets, isWritten, keyed, valued⟩ := assigns
  obtain ⟨keyPlain, noEquals⟩ := isPlain_key_of_sets sets
  rw [String.toList_ofList] at keyPlain noEquals
  have keyTrimmed := isTrimmed_of_plain keyPlain.nonempty keyPlain.plain
  obtain ⟨writtenTrimmed, unquoted⟩ := written_of_sets sets isWritten
  obtain ⟨before, behindKey, blankBefore, blankBehindKey, rfl⟩ := keyed
  obtain ⟨beforeValue, after, blankBeforeValue, blankAfter, rfl⟩ := valued
  have trimmed : trim (before ++ (key ++ behindKey) ++ '=' :: (beforeValue ++ (written ++ after))) =
      (key ++ behindKey) ++ '=' :: (beforeValue ++ written) := by
    have inner := keyTrimmed.append writtenTrimmed (behindKey ++ '=' :: beforeValue)
    rw [inner.trim_eq ⟨before, after, blankBefore, blankAfter, by simp⟩]
    simp
  have noComment : ∀ c ∈ ((key ++ behindKey) ++ '=' :: (beforeValue ++ written)).head?,
      c ≠ '#' ∧ c ≠ ';' := by
    rw [List.append_assoc]
    exact noComment_of_isPlain keyPlain _
  have noEqualsBefore : '=' ∉ key ++ behindKey := by
    rw [List.mem_append, not_or]
    exact ⟨noEquals, fun member => absurd (blankBehindKey _ member) (by decide)⟩
  rw [applyLine_of_trim trimmed (by rwa [trimmed]) noEqualsBefore,
    keyTrimmed.trim_eq ((padded_self key).inFrontOf blankBehindKey),
    writtenTrimmed.trim_eq ((padded_self written).behind blankBeforeValue), unquoted]
  exact assign_of_sets sets settings

theorem trim_of_not_ignored (unused : ¬Ignored line) :
    trim line ≠ [] ∧ ∀ c ∈ (trim line).head?, c ≠ '#' ∧ c ≠ ';' := by
  obtain ⟨before, after, blankBefore, blankAfter, whole⟩ := exists_trim line
  constructor
  · intro isEmpty
    apply unused
    rw [whole, isEmpty]
    exact .blank (List.forall_mem_append.mpr ⟨blankBefore, blankAfter⟩)
  · intro c isHead
    rw [← not_or]
    intro isMark
    obtain ⟨rest, parts⟩ := List.head?_eq_some_iff.mp isHead
    apply unused
    rw [whole, parts]
    exact .comment blankBefore isMark (rest ++ after)

/-- A key and a value that can be set make the line an assignment. -/
theorem assigns_of_trim
    {key value : List Char}
    {assignment : Assignment}
    (trimmed : trim line = key ++ '=' :: value)
    (sets : Sets (String.ofList (trim key)) (String.ofList (unquote (trim value))) assignment) :
    Assigns line assignment := by
  obtain ⟨before, after, blankBefore, blankAfter, whole⟩ := exists_trim line
  have parts : line = (before ++ key) ++ '=' :: (value ++ after) := by
    rw [whole, trimmed]
    simp
  rw [parts]
  exact .intro sets (unquote_cases (trim value)) ((padded_trim key).behind blankBefore)
    ((padded_trim value).inFrontOf blankAfter)

theorem applyLine_of_fault
    (unused : ¬Ignored line)
    (noAssignment : ∀ assignment, ¬Assigns line assignment) :
    ∃ fault, ∀ settings : Settings, settings.applyLine line = .error fault := by
  obtain ⟨nonempty, noComment⟩ := trim_of_not_ignored unused
  by_cases hasEquals : '=' ∈ trim line
  · obtain ⟨key, value, trimmed, noEquals⟩ := List.eq_append_cons_of_mem hasEquals
    obtain ⟨fault, fails⟩ := assign_of_none fun assignment sets =>
      noAssignment assignment (assigns_of_trim trimmed sets)
    refine ⟨fault, fun settings => ?_⟩
    rw [applyLine_of_trim trimmed noComment noEquals, fails]
  · refine ⟨.noAssignment (String.ofList (trim line)), fun settings => ?_⟩
    have passed : (trim line).dropWhile (· ≠ '=') = [] := by
      rw [List.dropWhile_eq_nil_iff]
      intro c member
      rw [decide_eq_true_eq]
      rintro rfl
      exact hasEquals member
    rw [applyLine_of_noComment nonempty noComment, passed]

end

/-! ## Contents -/

/-- The change of settings that a content stands for. A fault does not depend on the settings. -/
def Content.Describes (change : Settings → Except SettingFault Settings) : Content → Prop
  | .nothing => ∀ settings, change settings = .ok settings
  | .assignment found => ∀ settings, change settings = .ok (found.apply settings)
  | .fault => ∃ fault, ∀ settings, change settings = .error fault

theorem describes_of_lineContent
    {line : List Char}
    {content : Content}
    (amount : LineContent line content) :
    content.Describes (·.applyLine line) := by
  cases content with
  | nothing => exact applyLine_of_ignored amount
  | assignment found => exact applyLine_of_assigns amount
  | fault => exact applyLine_of_fault amount.1 amount.2

theorem attempt_of_describes
    {change : Settings → Except SettingFault Settings}
    {content : Content}
    (describes : content.Describes change)
    (number : Nat) :
    ∃ errors : List SettingError, errors.map SettingError.line = [content].idxsOf .fault number ∧
      ∀ settings : Settings, settings.attempt number (change settings) =
        (content.apply settings, errors) := by
  cases content with
  | nothing =>
      refine ⟨[], rfl, fun settings => ?_⟩
      rw [describes settings]
      rfl
  | assignment found =>
      refine ⟨[], rfl, fun settings => ?_⟩
      rw [describes settings]
      rfl
  | fault =>
      obtain ⟨fault, fails⟩ := describes
      refine ⟨[⟨number, fault⟩], rfl, fun settings => ?_⟩
      rw [fails settings]
      rfl

/-- Whatever an assignment sets, there are settings that it changes. -/
theorem Assignment.exists_apply_ne (assignment : Assignment) :
    ∃ settings, assignment.apply settings ≠ settings := by
  cases assignment with
  | dumpCommands value => exact ⟨{ dumpCommands := !value }, by simp⟩
  | evaluate value => exact ⟨{ evaluate := !value }, by simp⟩
  | namespaceName name valid =>
      refine ⟨{ namespaceName := "" }, ?_⟩
      rintro same
      obtain rfl : name = "" := congrArg Settings.namespaceName same
      contradiction

theorem Assignment.eq_of_apply
    {first second : Assignment}
    (alike : ∀ settings, first.apply settings = second.apply settings) :
    first = second := by
  have here := alike { dumpCommands := false, evaluate := false, namespaceName := "" }
  have there := alike { dumpCommands := true, evaluate := true, namespaceName := "" }
  cases first <;> cases second <;> simp_all

theorem Content.Describes.unique
    {change : Settings → Except SettingFault Settings}
    {first second : Content}
    (describes : first.Describes change)
    (also : second.Describes change) :
    first = second := by
  cases first with
  | nothing =>
      cases second with
      | nothing => rfl
      | assignment found =>
          obtain ⟨settings, changes⟩ := found.exists_apply_ne
          exact absurd (Except.ok.inj ((also settings).symm.trans (describes settings))) changes
      | fault =>
          obtain ⟨fault, fails⟩ := also
          cases (describes {}).symm.trans (fails {})
  | assignment found =>
      cases second with
      | nothing =>
          obtain ⟨settings, changes⟩ := found.exists_apply_ne
          exact absurd (Except.ok.inj ((describes settings).symm.trans (also settings))) changes
      | assignment other =>
          rw [Assignment.eq_of_apply fun settings =>
            Except.ok.inj ((describes settings).symm.trans (also settings))]
      | fault =>
          obtain ⟨fault, fails⟩ := also
          cases (describes {}).symm.trans (fails {})
  | fault =>
      obtain ⟨fault, fails⟩ := describes
      cases second with
      | nothing => cases (also {}).symm.trans (fails {})
      | assignment found => cases (also {}).symm.trans (fails {})
      | fault => rfl

/-- A line amounts to exactly one thing. -/
theorem existsUnique_lineContent (line : List Char) : ∃! content, LineContent line content := by
  have exists_content : ∃ content, LineContent line content := by
    by_cases ignored : Ignored line
    · exact ⟨.nothing, ignored⟩
    by_cases assigns : ∃ assignment, Assigns line assignment
    · obtain ⟨assignment, assigns⟩ := assigns
      exact ⟨.assignment assignment, assigns⟩
    · exact ⟨.fault, ignored, not_exists.mp assigns⟩
  obtain ⟨content, amount⟩ := exists_content
  exact ⟨content, amount, fun other also =>
    (describes_of_lineContent also).unique (describes_of_lineContent amount)⟩

end ScriptBridge.Settings
