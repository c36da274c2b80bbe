import ScriptBridge.Proofs.Bridge.GeneratedNames
import ScriptBridge.Proofs.Script.WrittenLists
import ScriptBridge.Vocabulary.Starters

/-!
# Scripts of bound callbacks

A callback is bound by a script that is its name with codes of event fields behind it. When the
event happens each code is replaced by one list element. Which parts of a script are codes does not
depend on the data of the event, and each element stays one inert word, so the script invokes the
callback and does nothing else, whatever the data.
-/

namespace ScriptBridge

open Text ListText

/-! ## Generated names in scripts -/

namespace Settings

variable {settings : Settings} {slot : Nat}

/-- The characters of generated names. -/
def isNameCharacter (c : Char) : Bool :=
  isNameStart c || c.isDigit || c = ':'

theorem isNameCharacter_callbackName
    (valid : settings.validate = .ok ())
    {c : Char}
    (member : c ∈ (settings.callbackName slot).toList) :
    isNameCharacter c = true := by
  have identifier := validate_eq_ok_iff.mp valid
  have stem : "::callback".toList.all isNameCharacter = true := by decide
  simp only [callbackName, callbackStem, String.toList_append, List.mem_append] at member
  rcases member with (inNamespace | inStem) | inNumber
  · unfold isIdentifier at identifier
    split at identifier
    · cases identifier
    · rename_i first others characters
      simp only [Bool.and_eq_true, List.all_eq_true] at identifier
      rw [characters] at inNamespace
      rcases List.mem_cons.mp inNamespace with rfl | inOthers
      · simp [isNameCharacter, identifier.1]
      · have other := identifier.2 c inOthers
        simp only [isNameCharacter, other, Bool.true_or]
  · exact List.all_eq_true.mp stem c inStem
  · simp [isNameCharacter, Numeral.isDigit_of_mem_toString inNumber]

theorem isSpecial_of_isNameCharacter
    {c : Char}
    (named : isNameCharacter c = true) :
    isSpecial c = false := by
  have between (first last : Char) (atLeast : first.val ≤ c.val) (atMost : c.val ≤ last.val) :
      first.toNat ≤ c.toNat ∧ c.toNat ≤ last.toNat :=
    ⟨UInt32.le_iff_toNat_le.mp atLeast, UInt32.le_iff_toNat_le.mp atMost⟩
  have bounds : 0x20 < c.toNat ∧ c.toNat < 0x85 := by
    have known := named
    simp only [isNameCharacter, isNameStart, Bool.or_eq_true, decide_eq_true_eq] at known
    rcases known with ((letter | rfl) | digit) | rfl
    · rcases Bool.or_eq_true_iff.mp letter with upper | lower
      · obtain ⟨atLeast, atMost⟩ := of_decide_eq_true upper
        have range := between 'A' 'Z' atLeast atMost
        have first : 'A'.toNat = 65 := rfl
        have last : 'Z'.toNat = 90 := rfl
        omega
      · obtain ⟨atLeast, atMost⟩ := Bool.and_eq_true_iff.mp lower
        have range := between 'a' 'z' (of_decide_eq_true atLeast) (of_decide_eq_true atMost)
        have first : 'a'.toNat = 97 := rfl
        have last : 'z'.toNat = 122 := rfl
        omega
    · decide
    · obtain ⟨atLeast, atMost⟩ := Bool.and_eq_true_iff.mp digit
      have range := between '0' '9' (of_decide_eq_true atLeast) (of_decide_eq_true atMost)
      have first : '0'.toNat = 48 := rfl
      have last : '9'.toNat = 57 := rfl
      omega
    · decide
  exact Numeral.isSpecial_of_bounds isNameCharacter named (by decide) bounds.1 bounds.2

theorem ne_of_isNameCharacter
    {c other : Char}
    (named : isNameCharacter c = true)
    (unnamed : isNameCharacter other = false) :
    c ≠ other := by
  intro same
  rw [same, unnamed] at named
  contradiction

/-- A generated name is a word of a script as it stands. -/
theorem isPlain_callbackName
    (valid : settings.validate = .ok ())
    (slot : Nat) :
    IsPlain (settings.callbackName slot).toList := by
  have named : ∀ c ∈ (settings.callbackName slot).toList, isNameCharacter c = true :=
    fun _ member => isNameCharacter_callbackName valid member
  refine ⟨?_, fun c member => isSpecial_of_isNameCharacter (named c member), ?_⟩
  · simp [callbackName, callbackStem]
  · intro comment
    have first := named '#' (List.mem_of_mem_head? comment)
    exact absurd first (by decide)

end Settings

/-! ## Fields -/

namespace Commands

/-- A part of a bound script: a character that stays, or the letter of a field. -/
inductive BindingPart where
  | kept (c : Char)
  | field (letter : Char)
  deriving DecidableEq

def bindingParts : List Char → List BindingPart
  | [] => []
  | ['%'] => [.kept '%']
  | '%' :: '%' :: rest => .kept '%' :: bindingParts rest
  | '%' :: letter :: rest => .field letter :: bindingParts rest
  | c :: rest => .kept c :: bindingParts rest

variable (fields : EventFields)

/-- How the data of a field is written, and what a script gets of it. -/
def fieldWord (letter : Char) : String × String :=
  match fields.lookup letter with
  | some value => (element value, received value)
  | none => ("??", "??")

def BindingPart.text : BindingPart → List Char
  | .kept c => [c]
  | .field letter => (fieldWord fields letter).1.toList

/-- The argument that a callback gets for a field. -/
def fieldArgument (code : EventField) : String :=
  (fieldWord fields code.letter).2

/-- The text that is run for an event. -/
def boundText (script : String) : String :=
  String.ofList (replaceFields fields script.toList)

/-- Fields are replaced one by one: no data is looked at for further fields. -/
theorem replaceFields_eq_flatMap (script : List Char) :
    replaceFields fields script = (bindingParts script).flatMap (·.text fields) := by
  fun_induction bindingParts script with
  | case1 => rfl
  | case2 => rfl
  | case3 rest inductionHypothesis =>
      rw [replaceFields, inductionHypothesis]
      rfl
  | case4 letter rest notPercent inductionHypothesis =>
      rw [replaceFields, inductionHypothesis, List.flatMap_cons, BindingPart.text, fieldWord]
      · cases fields.lookup letter with
        | none => rfl
        | some value => simp [format]
      · exact notPercent
  | case5 c rest notLast notPercent notField inductionHypothesis =>
      rw [replaceFields, inductionHypothesis]
      · rfl
      · exact notLast
      · exact notPercent
      · exact notField

variable {fields}

theorem replaceFields_field {letter : Char} (notPercent : letter ≠ '%') (rest : List Char) :
    replaceFields fields ('%' :: letter :: rest) =
      (fieldWord fields letter).1.toList ++ replaceFields fields rest := by
  rw [replaceFields_eq_flatMap, replaceFields_eq_flatMap, bindingParts, List.flatMap_cons,
    BindingPart.text]
  exact notPercent

theorem replaceFields_append
    {text : List Char}
    (noPercent : ∀ c ∈ text, c ≠ '%')
    (rest : List Char) :
    replaceFields fields (text ++ rest) = text ++ replaceFields fields rest := by
  induction text with
  | nil => rfl
  | cons c text inductionHypothesis =>
      have kept : c ≠ '%' := noPercent c List.mem_cons_self
      rw [List.cons_append, replaceFields, inductionHypothesis, List.cons_append]
      · exact fun other member => noPercent other (List.mem_cons_of_mem c member)
      · exact fun percent _ => kept percent
      · exact fun _ percent _ => kept percent
      · exact fun _ _ percent _ => kept percent

theorem writes_fieldWord (letter : Char) :
    Writes (fieldWord fields letter).1.toList (fieldWord fields letter).2.toList := by
  have unknown : IsPlain "??".toList := by decide
  unfold fieldWord
  cases fields.lookup letter with
  | none => exact unknown.writes
  | some value => exact writes_element value

end Commands

/-! ## Scripts with fields -/

theorem toList_scriptWithFields (name : String) (letters : List Char) :
    (scriptWithFields name letters).toList =
      name.toList ++ letters.flatMap fun letter => [' ', '%', letter] := by
  unfold scriptWithFields
  induction letters generalizing name with
  | nil => simp
  | cons letter letters inductionHypothesis =>
      rw [List.foldl_cons, inductionHypothesis]
      simp

theorem EventField.letter_ne_percent (code : EventField) : code.letter ≠ '%' := by
  cases code <;> decide

theorem EventField.isNameStart_letter (code : EventField) : isNameStart code.letter = true := by
  cases code <;> decide

/-- A script is padded where it is written between braces. -/
def IsMargin (margin : String) : Prop :=
  margin = "" ∨ margin = " "

section Scripts

variable {name : String}
  (isPlain : IsPlain name.toList)
  (codes : List EventField)
  (fields : Commands.EventFields)

/-- A command with the data of an event as its arguments. -/
def eventCommand : WrittenCommand :=
  plainCommand name isPlain (codes.map fun code => Commands.fieldWord fields code.letter) <| by
    intro part member
    obtain ⟨code, -, rfl⟩ := List.mem_map.mp member
    exact Commands.writes_fieldWord code.letter

theorem arguments_eventCommand :
    (eventCommand isPlain codes fields).arguments = codes.map (Commands.fieldArgument fields) := by
  simp [WrittenCommand.arguments, eventCommand, plainCommand, Commands.fieldArgument]

theorem replaceFields_codes
    {rest : List Char}
    (noPercent : ∀ c ∈ rest, c ≠ '%') :
    Commands.replaceFields fields
        (codes.flatMap (fun code => [' ', '%', code.letter]) ++ rest) =
      codes.flatMap (fun code => ' ' :: (Commands.fieldWord fields code.letter).1.toList) ++
        rest := by
  induction codes with
  | nil =>
      have kept : Commands.replaceFields fields (rest ++ []) =
          rest ++ Commands.replaceFields fields [] :=
        Commands.replaceFields_append noPercent []
      rwa [List.append_nil, Commands.replaceFields, List.append_nil] at kept
  | cons code codes inductionHypothesis =>
      have blank : ∀ behind, Commands.replaceFields fields (' ' :: behind) =
          ' ' :: Commands.replaceFields fields behind :=
        Commands.replaceFields_append (List.forall_mem_singleton.mpr (by decide))
      simp only [List.flatMap_cons, List.append_assoc, List.cons_append, List.nil_append, blank,
        Commands.replaceFields_field code.letter_ne_percent, inductionHypothesis]

/-- What is run for an event is the command with the data, as long as the name has no fields. -/
theorem boundText_scriptWithFields
    (noPercent : ∀ c ∈ name.toList, c ≠ '%')
    {margin : String}
    (isMargin : IsMargin margin) :
    Commands.boundText fields
        (margin ++ scriptWithFields name (codes.map EventField.letter) ++ margin) =
      margin ++ (eventCommand isPlain codes fields).text ++ margin := by
  have padding : ∀ c ∈ margin.toList, c ≠ '%' := by
    rcases isMargin with rfl | rfl
    · simp
    · simp
  have letters : (codes.map EventField.letter).flatMap (fun letter => [' ', '%', letter]) =
      codes.flatMap fun code => [' ', '%', code.letter] :=
    List.flatMap_map ..
  have words : (eventCommand isPlain codes fields).text.toList = name.toList ++
      codes.flatMap fun code => ' ' :: (Commands.fieldWord fields code.letter).1.toList := by
    rw [WrittenCommand.toList_text]
    exact congrArg (name.toList ++ ·) (List.flatMap_map ..)
  rw [← String.toList_inj, Commands.boundText, String.toList_ofList]
  simp only [String.toList_append, toList_scriptWithFields, List.append_assoc, letters, words]
  rw [Commands.replaceFields_append padding, Commands.replaceFields_append noPercent,
    replaceFields_codes codes fields padding]

end Scripts

/-- A written command with a margin around it is read as one command, and nothing else. -/
theorem WrittenCommand.ofText_margin
    (command : WrittenCommand)
    {margin : String}
    (isMargin : IsMargin margin) :
    ∃ words,
      Script.ofText (margin ++ command.text ++ margin) = .command words .done ∧
      List.Forall₂ Spells words ((command.name :: command.arguments).map String.toList) := by
  have ends : endsWord false margin.toList = true := by
    rcases isMargin with rfl | rfl
    · rfl
    · decide
  have closes : ∀ words, (readScript false (some words) margin.toList).value =
      .command words .done := by
    intro words
    rcases isMargin with rfl | rfl
    · exact value_readScript_nil words
    · exact (value_readScript_space []).trans (value_readScript_nil words)
  obtain ⟨words, spell, read⟩ := command.value_readScript_text margin.toList ends closes
  refine ⟨words, ?_, spell⟩
  rw [Script.ofText, String.append_assoc, String.toList_append, String.toList_append, ← read]
  rcases isMargin with rfl | rfl
  · rfl
  · exact value_readScript_space _

/-! ## Binding -/

section Binding

variable {tag sequence name : String}
  (tagIsPlain : IsPlain tag.toList)
  (sequenceIsPlain : IsPlain sequence.toList)
  (isPlain : IsPlain name.toList)
  (codes : List EventField)

include isPlain in
/-- The script of a plain name and field codes can be written in braces. -/
theorem apart_scriptWithFields :
    ∀ c ∈ (" " ++ scriptWithFields name (codes.map EventField.letter) ++ " ").toList,
      c ≠ '\\' ∧ c ≠ '{' ∧ c ≠ '}' := by
  intro c member
  have apart : isSpecial c = false → c ≠ '\\' ∧ c ≠ '{' ∧ c ≠ '}' := fun plain =>
    ⟨ne_of_isSpecial plain (by decide), ne_of_isSpecial plain (by decide),
      ne_of_isSpecial plain (by decide)⟩
  simp only [String.toList_append, toList_scriptWithFields, List.mem_append, List.mem_flatMap,
    List.mem_map] at member
  rcases member with (blank | inName | ⟨letter, ⟨code, -, rfl⟩, inCode⟩) | blank
  · obtain rfl := List.mem_singleton.mp blank
    decide
  · exact apart (isPlain.plain c inName)
  · simp only [List.mem_cons, List.not_mem_nil, or_false] at inCode
    rcases inCode with rfl | rfl | rfl
    · decide
    · decide
    · apply apart
      apply Settings.isSpecial_of_isNameCharacter
      simp [Settings.isNameCharacter, code.isNameStart_letter]
  · obtain rfl := List.mem_singleton.mp blank
    decide

/-- What a binding is started with: the widget, the event, and the script in braces. -/
def bindingCommand : WrittenCommand :=
  let script := scriptWithFields name (codes.map EventField.letter)
  plainCommand "bind" (by decide)
    [(tag, tag), (sequence, sequence), ("\x7b " ++ script ++ " \x7d", " " ++ script ++ " ")] <| by
    have braced : ("\x7b " ++ script ++ " \x7d").toList =
        '{' :: (" " ++ script ++ " ").toList ++ ['}'] := by
      simp
    intro part member
    simp only [List.mem_cons, List.not_mem_nil, or_false] at member
    rcases member with rfl | rfl | rfl
    · exact tagIsPlain.writes
    · exact sequenceIsPlain.writes
    · rw [braced]
      exact writes_braced_of_apart (apart_scriptWithFields isPlain codes)

theorem text_bindingCommand :
    Starters.bind tag sequence name codes =
      .start (bindingCommand tagIsPlain sequenceIsPlain isPlain codes).text := by
  refine congrArg Draft.start (String.toList_inj.mp ?_)
  simp [WrittenCommand.text, bindingCommand, plainCommand]

end Binding

/-! ## Main statement -/

/-- Events cannot inject commands. The starter binds the script of a callback, which is the name of
its command with field codes behind it. Which parts of any script are replaced does not depend on the
data, so data is never looked at for further fields. With any data put in, the script is one command
of literal words: running it invokes the callback with one argument for each field, and neither
invokes another command nor reads a variable. -/
theorem event_script_invokes_callback
    {settings : Settings}
    (valid : settings.validate = .ok ())
    (slot : Nat)
    (codes : List EventField)
    (fields : Commands.EventFields) :
    let name := settings.callbackName slot
    let script := scriptWithFields name (codes.map EventField.letter)
    (∀ tag sequence, IsPlain tag.toList → IsPlain sequence.toList →
      ∃ text, Starters.bind tag sequence name codes = .start text ∧
        ∀ (Key Host : Type) (call : String → List String → Action Key Host String),
          runScript call "" (Script.ofText text) =
            call "bind" [tag, sequence, " " ++ script ++ " "]) ∧
    (∀ bound : List Char, Commands.replaceFields fields bound =
      (Commands.bindingParts bound).flatMap (·.text fields)) ∧
    ∀ margin, IsMargin margin →
      ∃ words,
        Script.ofText (Commands.boundText fields (margin ++ script ++ margin)) =
          .command words .done ∧
        List.Forall₂ Spells words
          ((name :: codes.map (Commands.fieldArgument fields)).map String.toList) ∧
        ∀ (Key Host : Type) (call : String → List String → Action Key Host String),
          runScript call ""
              (Script.ofText (Commands.boundText fields (margin ++ script ++ margin))) =
            call name (codes.map (Commands.fieldArgument fields)) := by
  intro name script
  have isPlain : IsPlain name.toList := Settings.isPlain_callbackName valid slot
  have noPercent : ∀ c ∈ name.toList, c ≠ '%' := fun c member =>
    Settings.ne_of_isNameCharacter (Settings.isNameCharacter_callbackName valid member) (by decide)
  refine ⟨?_, Commands.replaceFields_eq_flatMap fields, ?_⟩
  · intro tag sequence tagIsPlain sequenceIsPlain
    refine ⟨_, text_bindingCommand tagIsPlain sequenceIsPlain isPlain codes, ?_⟩
    intro Key Host call
    obtain ⟨words, read, spell⟩ :=
      (bindingCommand tagIsPlain sequenceIsPlain isPlain codes).ofText_margin (.inl rfl)
    rw [String.empty_append, String.append_empty] at read
    rw [read]
    exact runScript_of_spells spell call ""
  · intro margin isMargin
    obtain ⟨words, read, spell⟩ := (eventCommand isPlain codes fields).ofText_margin isMargin
    rw [← boundText_scriptWithFields isPlain codes fields noPercent isMargin] at read
    rw [arguments_eventCommand] at spell
    refine ⟨words, read, spell, ?_⟩
    intro Key Host call
    rw [read]
    exact runScript_of_spells spell call ""

/-- Data with brackets, a field code, unmatched braces and a line end, and a field that the event
does not have. -/
theorem event_script_invokes_callback_of_brackets :
    let fields := [('x', "[exit] $a %W \x7b"), ('W', "\x7d;\n")]
    let script := " rtk::callback0 %x %K %W "
    ({} : Settings).validate = .ok () ∧ IsMargin " " ∧
    Commands.boundText fields script =
      " rtk::callback0 \\[exit\\]\\ \\$a\\ %W\\ \\\x7b ?? \\\x7d\\;\\n " ∧
    ∀ (Key Host : Type) (call : String → List String → Action Key Host String),
      runScript call "" (Script.ofText (Commands.boundText fields script)) =
        call "rtk::callback0" ["[exit] $a %W \x7b", "??", "\x7d;\n"] := by
  intro fields script
  have valid : ({} : Settings).validate = .ok () := by decide
  have margin : IsMargin " " := .inr rfl
  obtain ⟨words, read, spell, runs⟩ :=
    (event_script_invokes_callback valid 0 [.x, .keysym, .window] fields).2.2 " " margin
  exact ⟨valid, margin, by decide, runs⟩

end ScriptBridge
