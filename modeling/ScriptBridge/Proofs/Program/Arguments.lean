import ScriptBridge.Program
import ScriptBridge.Proofs.Numeral.Decimals
import ScriptBridge.Proofs.Vocabulary.ListValues

/-!
# The arguments of a run

A run writes its arguments as one list and the list as the value of a variable, so that each of them
is a list element inside a list element. A script that takes them apart gets them back, as far as a
script gets such elements.
-/

namespace ScriptBridge

open Text ListText

/-! ## Lists as elements of lists -/

namespace ListText

theorem joinLines_plain_append
    {item : List Char}
    (plain : ∀ c ∈ item, isSpecial c = false)
    (rest : List Char) :
    joinLines (item ++ rest) = item ++ joinLines rest := by
  induction item with
  | nil => rfl
  | cons c item inductionHypothesis =>
      have notBackslash : c ≠ '\\' := ne_of_isSpecial (plain c List.mem_cons_self) (by decide)
      rw [List.cons_append, joinLines_cons notBackslash,
        inductionHypothesis fun other member => plain other (List.mem_cons_of_mem c member),
        List.cons_append]

theorem joinLines_escapeChar_append (c : Char) (rest : List Char) :
    joinLines (escapeChar c ++ rest) = escapeChar c ++ joinLines rest := by
  rcases escapeChar_cases c with ⟨form, plain⟩ | ⟨next, form, notNewline⟩
  · rw [form, List.singleton_append, joinLines_cons (ne_of_isSpecial plain (by decide)),
      List.singleton_append]
  · rw [form, List.cons_append, List.singleton_append, joinLines]
    · rfl
    · exact notNewline

theorem joinLines_escaped_append (item rest : List Char) :
    joinLines (item.flatMap escapeChar ++ rest) = item.flatMap escapeChar ++ joinLines rest := by
  induction item with
  | nil => rfl
  | cons c item inductionHypothesis =>
      rw [List.flatMap_cons, List.append_assoc, joinLines_escapeChar_append, inductionHypothesis,
        List.append_assoc]

theorem joinLines_braced_append
    {item : List Char}
    (fits : fitsBraces item = true)
    (rest : List Char) :
    joinLines ('{' :: item ++ ['}'] ++ rest) = '{' :: joinLines item ++ ['}'] ++ joinLines rest := by
  simp only [fitsBraces, Bool.and_eq_true, bne_iff_ne] at fits
  have opened : '{' :: item ++ ['}'] ++ rest = '{' :: (item ++ '}' :: rest) := by simp
  rw [opened, joinLines_cons (by decide), joinLines_append fits.2, joinLines_cons (by decide)]
  · simp
  · rintro c others same
    obtain ⟨rfl, -⟩ := List.cons.inj same
    decide

/-- Where lines are joined, there is a space afterwards. -/
theorem mem_joinLines_of_escapesLineEnd
    {cs : List Char}
    (joins : escapesLineEnd cs = true) :
    ' ' ∈ joinLines cs := by
  fun_induction escapesLineEnd cs with
  | case1 => contradiction
  | case2 => contradiction
  | case3 rest =>
      rw [joinLines]
      exact List.mem_cons_self
  | case4 c rest notNewline inductionHypothesis =>
      rw [joinLines]
      · exact List.mem_cons_of_mem _ (List.mem_cons_of_mem _ (inductionHypothesis joins))
      · exact notNewline
  | case5 c rest notLast notJoined notEscape inductionHypothesis =>
      rw [joinLines_cons (ne_backslash notLast notEscape)]
      exact List.mem_cons_of_mem _ (inductionHypothesis joins)

/-- What a script gets of an element is written in the same form as the element. -/
theorem writeElement_joinLines
    {item : List Char}
    (fits : fitsBraces item = true)
    (form : writeElement item = '{' :: item ++ ['}']) :
    writeElement (joinLines item) = '{' :: joinLines item ++ ['}'] := by
  cases joins : escapesLineEnd item with
  | false => rw [joinLines_of_escapesLineEnd_eq_false joins, form]
  | true =>
      rcases writeElement_cases (joinLines item) with ⟨plain, -⟩ | ⟨-, same⟩ | ⟨-, unfit, -⟩
      · have space := plain.plain ' ' (mem_joinLines_of_escapesLineEnd joins)
        exact absurd space (by decide)
      · exact same
      · rw [fitsBraces_joinLines, fits] at unfit
        contradiction

/-- Joining the lines of a list joins those of the elements in braces. -/
theorem joinLines_writeElement_append (item rest : List Char) :
    joinLines (writeElement item ++ rest) =
      writeElement (receivedChars item) ++ joinLines rest := by
  rcases writeElement_cases item with ⟨isPlain, form⟩ | ⟨fits, form⟩ | ⟨nonempty, unfit, form⟩
  · rw [isPlain.receivedChars_eq, form, joinLines_plain_append isPlain.plain]
  · rw [receivedChars, if_pos fits, writeElement_joinLines fits form, form,
      joinLines_braced_append fits]
  · rw [receivedChars, unfit]
    simp only [Bool.false_eq_true, if_false]
    rw [form, joinLines_escaped_append]

theorem joinLines_format (items : List String) :
    joinLines (format items).toList = (format (items.map received)).toList := by
  have separator : " ".toList = [' '] := rfl
  have chars (item : String) : (element (received item)).toList =
      writeElement (receivedChars item.toList) := by
    rw [element, received, String.toList_ofList, String.toList_ofList]
  unfold format
  rw [String.toList_intercalate, String.toList_intercalate, separator]
  induction items with
  | nil =>
      rw [List.map_nil, List.map_nil, List.intercalate_nil, joinLines]
      rfl
  | cons item items inductionHypothesis =>
      cases items with
      | nil =>
          have one := joinLines_writeElement_append item.toList []
          rw [List.append_nil, joinLines, List.append_nil] at one
          simp only [List.map_singleton, List.intercalate_singleton]
          rw [chars, element, String.toList_ofList, one]
      | cons next items =>
          simp only [List.map_cons, List.intercalate_cons_cons] at inductionHypothesis ⊢
          rw [List.append_assoc, List.singleton_append, element, String.toList_ofList,
            joinLines_writeElement_append, joinLines_cons (by decide), inductionHypothesis,
            chars item, List.append_assoc, List.singleton_append]

/-- What a script gets of a list as an element: the list of what it gets of the elements, unless the
list cannot be written in braces. -/
theorem received_format (items : List String) :
    received (format items) =
      format (if fitsBraces (format items).toList then items.map received else items) := by
  rw [received, receivedChars]
  split
  · rw [joinLines_format, String.ofList_toList]
  · rw [String.ofList_toList]

end ListText

/-! ## Elements by their index -/

section Index

variable {Key Host : Type}

theorem isPlain_toString (number : Nat) : IsPlain (toString number).toList where
  nonempty := by
    rw [Numeral.toList_toString]
    exact Nat.toDigits_ne_nil
  plain c member := Numeral.isSpecial_of_isDigit (Numeral.isDigit_of_mem_toString member)
  noComment := by
    intro comment
    have digit := Numeral.isDigit_of_mem_toString (List.mem_of_head? comment)
    exact absurd digit (by decide)

/-- The decimal form of a position in a list means that position. -/
theorem resolve_toString
    {index length : Nat}
    (inside : index < length)
    (fits : (index : Int) ≤ Int64.maxValue.toInt) :
    (Index.resolve (toString index) length : Action Key Host (Option Nat)) = pure (some index) := by
  have digits : ∀ c ∈ (toString index).toList, c.isDigit = true :=
    fun _ member => Numeral.isDigit_of_mem_toString member
  have trimmed : trim (toString index).toList = (toString index).toList :=
    Numeral.trim_of_isBlank_eq_false fun c member => Numeral.isBlank_of_isDigit (digits c member)
  have noEnd : Index.dropStart? ['e', 'n', 'd'] (toString index).toList = none := by
    cases start : (toString index).toList with
    | nil => rfl
    | cons c cs =>
        have differs : 'e' ≠ c := by
          rintro rfl
          exact absurd (digits 'e' (start ▸ List.mem_cons_self)) (by decide)
        simp [Index.dropStart?, differs]
  obtain ⟨word, read, value⟩ := Numeral.readWord?_toString fits
  have position : Index.read? (toString index) length = some (index : Int) := by
    unfold Index.read?
    rw [trimmed]
    dsimp only
    rw [noEnd]
    simp only [Index.integer?, String.ofList_toList, read, Option.map_some, value]
  have within : Index.inside? length (index : Int) = some index := by
    simp [Index.inside?, inside]
  unfold Index.resolve
  rw [position]
  dsimp only
  rw [within]

/-- A name behind a dollar sign refers to a variable. -/
theorem readReference_of_takeName
    (cs : List Char)
    (notBrace : cs.head? ≠ some '{')
    (named : (takeName cs).1.isEmpty = false) :
    (readReference cs).Gives (.variable (String.ofList (takeName cs).1)) (takeName cs).2 := by
  unfold readReference
  split
  · exact absurd rfl notBrace
  · exact ⟨takeName_length_le cs, by simp [named]⟩

/-- The reference to the variable that holds the arguments is one word. -/
theorem readWord_argv (rest : List Char) :
    (readWord false '$' (['a', 'r', 'g', 'v'] ++ ' ' :: rest)).Gives [.variable "argv"]
      (' ' :: rest) := by
  have letters : isAlphanumeric 'a' = true ∧ isAlphanumeric 'r' = true ∧
      isAlphanumeric 'g' = true ∧ isAlphanumeric 'v' = true ∧ isAlphanumeric ' ' = false := by
    decide
  have name : takeName (['a', 'r', 'g', 'v'] ++ ' ' :: rest) =
      (['a', 'r', 'g', 'v'], ' ' :: rest) := by
    simp [takeName, letters]
  have reference : (readPiece '$' (['a', 'r', 'g', 'v'] ++ ' ' :: rest)).Gives (.variable "argv")
      (' ' :: rest) := by
    have named := readReference_of_takeName (['a', 'r', 'g', 'v'] ++ ' ' :: rest)
      (by simp) (by rw [name]; rfl)
    rw [name] at named
    rw [readPiece]
    simp only [if_true]
    exact named
  exact readWord_bare (by decide) (by decide) (by decide) reference
    (readPieces_of_stops (stops_of_endsWord (by simp [endsWord, endsWordAt, isBlank_space])))

/-- A script that asks for an element of the arguments reads the variable that holds them. -/
theorem script_lindex
    (index : Nat)
    (host : HostCommands Key Host)
    (fuel : Nat) :
    (evaluator host (fuel + 1)).script ("lindex $argv " ++ toString index) = (do
      let text ← Action.readVariable "argv"
      invoke host (evaluator host fuel) "lindex" [text, toString index]) := by
  have plainName : IsPlain "lindex".toList := by decide
  have text : ("lindex $argv " ++ toString index).toList =
      "lindex".toList ++ ' ' :: '$' :: (['a', 'r', 'g', 'v'] ++ ' ' :: (toString index).toList) := by
    simp
  obtain ⟨name, spellsName, readName⟩ := value_readScript_word none plainName.writes
    (fun _ => plainName.noComment)
    (show endsWord false
      (' ' :: '$' :: (['a', 'r', 'g', 'v'] ++ ' ' :: (toString index).toList)) = true by
        simp [endsWord, endsWordAt, isBlank_space])
  have readReference := value_readScript_of_readWord (some [name]) (by decide) (by decide)
    (by decide) (fun backslash => absurd backslash (by decide)) (fun _ => by decide)
    (readWord_argv (toString index).toList)
  obtain ⟨position, spellsPosition, readPosition⟩ := value_readScript_word
    (some [name, [.variable "argv"]]) (isPlain_toString index).writes (by simp)
    (show endsWord false [] = true from rfl)
  have read : Script.ofText ("lindex $argv " ++ toString index) =
      .command [name, [.variable "argv"], position] .done := by
    rw [List.append_nil] at readPosition
    unfold Script.ofText
    rw [text, readName, Option.getD_none, List.nil_append, value_readScript_space, readReference,
      Option.getD_some, List.singleton_append, value_readScript_space, readPosition,
      value_readScript_nil]
    rfl
  show runScript (invoke host (evaluator host fuel)) "" (Script.ofText _) = _
  rw [read]
  simp only [runScript, substituteWords, substitutePieces_of_spells spellsName,
    substitutePieces_of_spells spellsPosition, substitutePieces, substitutePiece, pure_bind,
    bind_assoc, String.empty_append, String.ofList_toList, bind_pure]

end Index

/-! ## Scripts of a run -/

namespace Scene

variable {scene : Scene}

/-- An element of a list in a variable, by its index. -/
theorem yields_lindex
    {text item : String}
    {items : List String}
    {index : Nat}
    (known : scene.interp.command? "lindex" = some (.builtin .lindex))
    (shallow : scene.interp.depth < maxDepth)
    (stored : scene.interp.store.get? scene.cells "argv" = some text)
    (parsed : parse text = .ok items)
    (found : items[index]? = some item)
    (fits : (index : Int) ≤ Int64.maxValue.toInt)
    (fuel : Nat) :
    scene.Yields ((Session.evaluatorOf (fuel + 1)).script ("lindex $argv " ++ toString index)) item
      scene := by
  have inside : index < items.length := (List.getElem?_eq_some_iff.mp found).1
  have ran : (scene.atDepth (scene.interp.depth + 1)).Yields
      ((Command.builtin .lindex).run Session.hostCommands (Session.evaluatorOf fuel) "lindex"
        [text, toString index]) item (scene.atDepth (scene.interp.depth + 1)) := by
    show Scene.Yields _ (Commands.lindex [text, toString index]) item _
    unfold Commands.lindex
    apply (yields_orFail parsed _).bind
    rw [resolve_toString inside fits, pure_bind, Option.bind_some, found, Option.getD_some]
    exact yields_pure _ item
  rw [Session.evaluatorOf, script_lindex]
  exact (yields_readVariable stored).bind (ran.invoke known shallow)

end Scene

/-! ## Setting a run up -/

theorem isPlain_set : IsPlain "set".toList := by
  decide

/-- The commands that tell a run its arguments. -/
def argumentCommands (line : CommandLine) : List WrittenCommand :=
  [listCommand "set" ["argv0", line.script.getD Program.name] isPlain_set,
    listCommand "set" ["argv", format line.scriptArguments] isPlain_set,
    listCommand "set" ["argc", toString line.scriptArguments.length] isPlain_set]

theorem argumentScript_eq (line : CommandLine) :
    Program.argumentScript line = WrittenCommand.script (argumentCommands line) := by
  have names : element "argv0" = "argv0" ∧ element "argv" = "argv" ∧ element "argc" = "argc" :=
    ⟨by decide, by decide, by decide⟩
  have count := (isPlain_toString line.scriptArguments.length).element_eq
  unfold Program.argumentScript WrittenCommand.script argumentCommands
  generalize toString line.scriptArguments.length = number at count ⊢
  rw [← String.toList_inj]
  simp [WrittenCommand.text, listCommand, plainCommand, wordsOf, format, names, count]

/-- The store in which a run finds its arguments. -/
def argumentStore (line : CommandLine) : VariableStore where
  globals :=
    ((({} : Std.TreeMap String String).insert "argv0"
      (received (line.script.getD Program.name))).insert "argv"
        (received (format line.scriptArguments))).insert "argc"
          (toString line.scriptArguments.length)

/-- A new interpreter that has been told the arguments of a run. -/
def argumentScene (line : CommandLine) (cells : Cells) : Scene where
  interp := { Interp.initial with store := argumentStore line }
  cells := cells

/-- Setting a variable in an interpreter in which there are neither procedures nor links. -/
theorem yields_invoke_set_initial
    {globals : Std.TreeMap String String}
    {name : String}
    (simple : Name.isQualified name = false)
    (cells : Cells)
    (value : String)
    (eval : SessionEvaluator) :
    Scene.Yields ⟨{ Interp.initial with store := { globals } }, cells⟩
      (invoke Session.hostCommands eval "set" [name, value]) value
      ⟨{ Interp.initial with store := { globals := globals.insert name value } }, cells⟩ := by
  have isGlobal : VariableStore.globalKey? { globals } name = some name :=
    VariableStore.globalKey?_of_outside rfl simple
  have sets : Interp.command? { (Interp.initial : Interp Nat) with store := { globals } } "set" =
      some (.builtin .set) :=
    command?_initial (by simp [Builtin.table]) rfl
  have shallow : (Interp.initial : Interp Nat).depth < maxDepth := by decide
  exact yields_invoke_set sets shallow
    (VariableStore.set_of_global isGlobal Std.TreeMap.getElem?_emptyc value) eval

theorem yields_argumentScript (line : CommandLine) (cells : Cells) (fuel : Nat) :
    Scene.Yields ⟨.initial, cells⟩
      ((Session.evaluatorOf (fuel + 1)).script (Program.argumentScript line))
      (toString line.scriptArguments.length) (argumentScene line cells) := by
  have count := (isPlain_toString line.scriptArguments.length).received_eq
  have names : received "argv0" = "argv0" ∧ received "argv" = "argv" ∧ received "argc" = "argc" :=
    ⟨IsPlain.received_eq (by decide), IsPlain.received_eq (by decide),
      IsPlain.received_eq (by decide)⟩
  rw [argumentScript_eq]
  show Scene.Yields _ (runScript (invoke Session.hostCommands (Session.evaluatorOf fuel)) ""
    (Script.ofText (WrittenCommand.script (argumentCommands line)))) _ _
  rw [WrittenCommand.runScript_script]
  simp only [argumentCommands, List.foldlM_cons, List.foldlM_nil, arguments_listCommand,
    List.map_cons, List.map_nil, names, count]
  apply (yields_invoke_set_initial rfl cells _ _).bind
  apply (yields_invoke_set_initial rfl cells _ _).bind
  apply (yields_invoke_set_initial rfl cells _ _).bind
  exact Scene.yields_pure _ _

theorem get?_argv (line : CommandLine) (cells : Cells) :
    (argumentStore line).get? cells "argv" = some (received (format line.scriptArguments)) := by
  have isGlobal : (argumentStore line).globalKey? "argv" = some "argv" :=
    VariableStore.globalKey?_of_outside rfl rfl
  have unlinked : (argumentStore line).links["argv"]? = none := Std.TreeMap.getElem?_emptyc
  rw [VariableStore.get?, isGlobal]
  dsimp only
  rw [VariableStore.getGlobal?, unlinked]
  show (argumentStore line).globals["argv"]? = _
  have apart : ¬compare "argc" "argv" = .eq := by decide
  rw [argumentStore, Std.TreeMap.getElem?_insert, if_neg apart, Std.TreeMap.getElem?_insert_self]

/-- The characters of identifiers mean nothing to a reader. -/
theorem isSpecial_of_isNameStart
    {c : Char}
    (letter : (isNameStart c || c.isDigit) = true) :
    isSpecial c = false := by
  have bounds : 0x20 < c.toNat ∧ c.toNat < 0x85 := by
    rcases Bool.or_eq_true_iff.mp letter with start | digit
    · rcases Bool.or_eq_true_iff.mp start with alpha | underscore
      · rcases Bool.or_eq_true_iff.mp alpha with upper | lower
        · have range : 65 ≤ c.toNat ∧ c.toNat ≤ 90 := of_decide_eq_true upper
          omega
        · obtain ⟨low, high⟩ := Bool.and_eq_true_iff.mp lower
          have least : 97 ≤ c.toNat := of_decide_eq_true low
          have greatest : c.toNat ≤ 122 := of_decide_eq_true high
          omega
      · obtain rfl := of_decide_eq_true underscore
        decide
    · have bounds := Numeral.toNat_of_isDigit digit
      omega
  exact Numeral.isSpecial_of_bounds (fun c => isNameStart c || c.isDigit) letter (by decide)
    bounds.1 bounds.2

/-- The name of a namespace needs no quoting. -/
theorem isPlain_of_isIdentifier {name : String} (identifier : isIdentifier name = true) :
    IsPlain name.toList := by
  unfold isIdentifier at identifier
  split at identifier
  · contradiction
  · rename_i c rest isName
    obtain ⟨first, others⟩ := Bool.and_eq_true_iff.mp identifier
    rw [isName]
    refine ⟨by simp, ?_, ?_⟩
    · rw [List.forall_mem_cons]
      refine ⟨isSpecial_of_isNameStart (by rw [first, Bool.true_or]), fun other member => ?_⟩
      exact isSpecial_of_isNameStart (List.all_eq_true.mp others other member)
    · rintro comment
      obtain rfl := Option.some.inj comment
      exact absurd first (by decide)

theorem yields_namespace
    {settings : Settings}
    (valid : settings.validate = .ok ())
    (cells : Cells)
    (fuel : Nat) :
    Scene.Yields ⟨.initial, cells⟩
      ((Session.evaluatorOf (fuel + 2)).script
        ("namespace eval " ++ settings.namespaceName ++ " \x7b\x7d")) "" ⟨.initial, cells⟩ := by
  have plain := isPlain_of_isIdentifier (Settings.validate_eq_ok_iff.mp valid)
  have plainName : IsPlain "namespace".toList := by decide
  have words : element "eval" = "eval" ∧ element "" = "\x7b\x7d" ∧ received "eval" = "eval" ∧
      received "" = "" :=
    ⟨by decide, by decide, IsPlain.received_eq (by decide),
      by simp [received, receivedChars, joinLines]⟩
  have text : "namespace eval " ++ settings.namespaceName ++ " \x7b\x7d" =
      "namespace" ++ " " ++ format ["eval", settings.namespaceName, ""] := by
    rw [← String.toList_inj]
    simp [format, words, plain.element_eq]
  have script := script_format plainName ["eval", settings.namespaceName, ""] Session.hostCommands
    (fuel + 1)
  rw [← text] at script
  simp only [List.map_cons, List.map_nil, words, plain.received_eq] at script
  have nothing : Scene.Yields (Scene.atDepth ⟨.initial, cells⟩ 1)
      ((Session.evaluatorOf (fuel + 1)).script "") "" (Scene.atDepth ⟨.initial, cells⟩ 1) := by
    show Scene.Yields _ (runScript _ "" (Script.ofText "")) _ _
    have empty : Script.ofText "" = .done := by
      show (readScript false none []).value = .done
      rw [readScript]
      rfl
    rw [empty, runScript]
    exact Scene.yields_pure _ _
  have ran : Scene.Yields (Scene.atDepth ⟨.initial, cells⟩ 1)
      ((Command.builtin .namespaces).run Session.hostCommands (Session.evaluatorOf (fuel + 1))
        "namespace" ["eval", settings.namespaceName, ""]) "" (Scene.atDepth ⟨.initial, cells⟩ 1) :=
    nothing
  rw [Session.evaluatorOf, script]
  exact ran.invoke (command?_initial (by simp [Builtin.table]) rfl) (show 0 < maxDepth by decide)

namespace World

variable {world : World} {settings : Settings} (valid : settings.validate = .ok ())
  (evaluates : settings.evaluate = true)

include valid evaluates

/-- Opening a session gives one with a new interpreter. -/
theorem outcome_openSession (access : InterpAccess) (fuel : Nat) :
    ∃ final : World,
      (openSession access settings).outcome (Session.evaluatorOf (fuel + 2)) world =
        (.ok (.ok world.sessions.size), final) ∧
      final.Shows world.sessions.size ⟨.initial, world.cells⟩ := by
  let dump := if settings.dumpCommands then DumpStream.errorStream else .none
  let opened : World :=
    { world with sessions := world.sessions.push ⟨.initial, { settings, access, dump }⟩ }
  have shows : opened.Shows world.sessions.size ⟨.initial, world.cells⟩ :=
    ⟨⟨_, Array.getElem?_push_size, evaluates⟩, rfl⟩
  have yields := (yields_namespace valid world.cells fuel).submit
  obtain ⟨final, ran, showsFinal, -⟩ := inSession_of_yields (submit · _) shows yields
  refine ⟨final, ?_, showsFinal⟩
  unfold openSession
  rw [valid]
  exact outcome_bind ran

end World

/-! ## What a run sees of its arguments -/

namespace Program

variable {α β : Type} {eval : SessionEvaluator} {world final : World} {output : String}

/-- What a part of a run makes of what has been printed and of the world. -/
def RunAction.outcome
    (action : RunAction α)
    (eval : SessionEvaluator)
    (output : String)
    (world : World) : Except Unfinished (Except Failure α × String) × World :=
  (action.run.run output).outcome eval world

theorem outcome_work_bind
    {action : WorldAction (Except Failure α)}
    {value : α}
    {next : α → RunAction β}
    (worked : action.outcome eval world = (.ok (.ok value), final)) :
    (work action >>= next).outcome eval output world = (next value).outcome eval output final := by
  unfold RunAction.outcome work
  rw [ExceptT.run_bind, ExceptT.run_mk, StateT.run_bind, StateT.run_lift, bind_assoc,
    World.outcome_bind worked, pure_bind]

theorem outcome_discard_work_bind
    {action : WorldAction (Except Failure α)}
    {value : α}
    {next : PUnit → RunAction β}
    (worked : action.outcome eval world = (.ok (.ok value), final)) :
    ((discard (work action) : RunAction PUnit) >>= next).outcome eval output world =
      (next ⟨⟩).outcome eval output final := by
  have whole : ((discard (work action) : RunAction PUnit) >>= next) =
      work action >>= fun _ => next ⟨⟩ := by
    show ((fun _ => PUnit.unit) <$> work action) >>= next = _
    rw [map_eq_pure_bind, bind_assoc]
    simp only [pure_bind]
  rw [whole, outcome_work_bind worked]

/-- Setting a run up gives a session in which it finds its arguments. -/
theorem outcome_setUp
    (line : CommandLine)
    {settings : Settings}
    (valid : settings.validate = .ok ())
    (evaluates : settings.evaluate = true)
    (output : String)
    (world : World)
    (fuel : Nat) :
    ∃ (session : SessionId) (ready : World),
      (setUp line settings).outcome (Session.evaluatorOf (fuel + 2)) output world =
        (.ok (.ok session, output), ready) ∧
      ready.current = some session ∧
      ready.Shows session ((argumentScene line world.cells).withResult
        (toString line.scriptArguments.length)) := by
  obtain ⟨opened, openedRan, showsOpened⟩ :=
    World.outcome_openSession valid evaluates .open fuel
  let installed : World := { opened with current := some world.sessions.size }
  have installedRan : (World.always (World.install world.sessions.size)).outcome
      (Session.evaluatorOf (fuel + 2)) opened = (.ok (.ok opened.current), installed) :=
    rfl
  have yields := yields_argumentScript line world.cells (fuel + 1)
  obtain ⟨ready, told, showsReady, sameCurrent, -⟩ := World.evaluate_of_yields
    (show installed.Shows _ _ from ⟨showsOpened.found, showsOpened.cells⟩) yields
  refine ⟨world.sessions.size, ready, ?_, sameCurrent, showsReady⟩
  unfold setUp
  rw [outcome_work_bind openedRan]
  exact (outcome_discard_work_bind installedRan).trans (outcome_discard_work_bind told)

/-- Once a run has been set up, a script that asks for one of its arguments gets it as a script gets a
list element, if the list of all of them could be written in braces, and as it is otherwise. -/
theorem outcome_setUp_lindex
    (line : CommandLine)
    {settings : Settings}
    (valid : settings.validate = .ok ())
    (evaluates : settings.evaluate = true)
    (output : String)
    (world : World)
    (fuel : Nat) :
    ∃ (session : SessionId) (ready : World),
      (setUp line settings).outcome (Session.evaluatorOf (fuel + 2)) output world =
        (.ok (.ok session, output), ready) ∧
      ∀ (index : Nat) (item : String),
        line.scriptArguments[index]? = some item → (index : Int) ≤ Int64.maxValue.toInt →
          ((World.inSession session fun eval =>
            Session.evaluate eval ("lindex $argv " ++ toString index)).outcome
              (Session.evaluatorOf (fuel + 2)) ready).1 =
            .ok (.ok (if fitsBraces (format line.scriptArguments).toList then received item
              else item)) := by
  obtain ⟨session, ready, ran, -, shows⟩ := outcome_setUp line valid evaluates output world fuel
  refine ⟨session, ready, ran, fun index item found fits => ?_⟩
  have parsed : parse (received (format line.scriptArguments)) =
      .ok (if fitsBraces (format line.scriptArguments).toList
        then line.scriptArguments.map received else line.scriptArguments) := by
    rw [received_format, parse_format]
  have foundThere : (if fitsBraces (format line.scriptArguments).toList
      then line.scriptArguments.map received else line.scriptArguments)[index]? =
        some (if fitsBraces (format line.scriptArguments).toList then received item else item) := by
    split
    · rw [List.getElem?_map, found, Option.map_some]
    · exact found
  have known : ((argumentScene line world.cells).withResult
      (toString line.scriptArguments.length)).interp.command? "lindex" =
        some (.builtin .lindex) :=
    command?_initial (by simp [Builtin.table]) rfl
  have yields := Scene.yields_lindex known (show 0 < maxDepth by decide)
    (get?_argv line world.cells) parsed foundThere fits (fuel + 1)
  obtain ⟨final, answered, -⟩ := World.evaluate_of_yields shows yields
  rw [answered]

end Program

/-! ## Elements in scripts -/

/-- What becomes of values that are written as list elements for scripts. A bare name with a written
list behind it invokes one command, with what a script gets of the elements as its arguments. A
script gets each element as it is, unless a line end in it is escaped and it is written in braces,
where lines are joined. So it is with the values that the vocabulary sets variables to or merges into
commands, and with the arguments of a run. -/
theorem script_receives_elements
    {Key Host : Type}
    (host : HostCommands Key Host)
    (fuel : Nat)
    (world : World) :
    (∀ (name : String) (items : List String), IsPlain name.toList →
      (evaluator host (fuel + 1)).script (name ++ " " ++ format items) =
        invoke host (evaluator host fuel) name (items.map received)) ∧
    (∀ item, received item = item ↔
      fitsBraces item.toList = false ∨ escapesLineEnd item.toList = false) ∧
    (∀ (session : SessionId) (scene : Scene) (name value : String),
      world.current = some session → world.Shows session scene →
      scene.interp.depth < maxDepth → scene.interp.command? "set" = some (.builtin .set) →
      IsPlain name.toList → scene.interp.store.Unlinked name →
        ∃ (final : World) (after : Scene),
          (do
            let expression ← Expression.gather (Starters.set name value) []
            expression.text).outcome (Session.evaluatorOf (fuel + 1)) world =
              (.ok (.ok (received value)), final) ∧
          final.Shows session after ∧
          after.interp.store.get? after.cells name = some (received value)) ∧
    (∀ (eval : SessionEvaluator) (name : String) (additions : List Addition),
      IsPlain name.toList → (∀ addition ∈ additions, addition.IsPlain) →
        ∃ (commands : CommandTable) (text : String),
          (Expression.gather (Starters.script name) (additions.map Addition.draft)).outcome eval
            world = (.ok (.starter world.commands.nextId), { world with commands }) ∧
          World.Pends { world with commands } world.commands.nextId text ∧
          (evaluator host (fuel + 1)).script text =
            invoke host (evaluator host fuel) name (additions.flatMap Addition.arguments)) ∧
    ∀ (line : CommandLine) (settings : Settings) (output : String),
      settings.validate = .ok () → settings.evaluate = true →
        ∃ (session : SessionId) (ready : World),
          (Program.setUp line settings).outcome (Session.evaluatorOf (fuel + 2)) output world =
            (.ok (.ok session, output), ready) ∧
          ∀ (index : Nat) (item : String),
            line.scriptArguments[index]? = some item → (index : Int) ≤ Int64.maxValue.toInt →
              ((World.inSession session fun eval =>
                Session.evaluate eval ("lindex $argv " ++ toString index)).outcome
                  (Session.evaluatorOf (fuel + 2)) ready).1 =
                .ok (.ok (if fitsBraces (format line.scriptArguments).toList then received item
                  else item)) := by
  refine ⟨?_, ?_, ?_, ?_, ?_⟩
  · intro name items isPlain
    exact script_format isPlain items host fuel
  · intro item
    rw [← receivedChars_eq_self_iff, received, ← String.toList_inj, String.toList_ofList]
  · intro session scene name value current shows shallow sets isPlain unlinked
    exact outcome_set isPlain sets shallow unlinked current shows value fuel
  · intro eval name additions isPlain arePlain
    exact gather_additions isPlain arePlain eval world host fuel
  · intro line settings output valid evaluates
    exact Program.outcome_setUp_lindex line valid evaluates output world fuel

/-- A value with an escaped line end: the list gives it back, the script does not. -/
theorem script_receives_elements_of_escaped_line_end :
    let value := "a\\\nb"
    let world : World := { World.opened (fun _ => none) [(.open, {})] with current := some 0 }
    received value = "a b" ∧
    (evaluator Session.hostCommands 1).script ("list" ++ " " ++ format [value]) =
      invoke Session.hostCommands (evaluator Session.hostCommands 0) "list" ["a b"] ∧
    (∃ (final : World) (after : Scene),
      (do
        let expression ← Expression.gather (Starters.set "x" value) []
        expression.text).outcome (Session.evaluatorOf 1) world = (.ok (.ok "a b"), final) ∧
      after.interp.store.get? after.cells "x" = some "a b") ∧
    ∃ (session : SessionId) (ready : World),
      (Program.setUp { scriptArguments := [value] } {}).outcome (Session.evaluatorOf 2) "" world =
        (.ok (.ok session, ""), ready) ∧
      ((World.inSession session fun eval => Session.evaluate eval "lindex $argv 0").outcome
        (Session.evaluatorOf 2) ready).1 = .ok (.ok "a b") := by
  intro value world
  have joined : received value = "a b" := by decide +kernel
  have plain : IsPlain "list".toList := by decide
  have plainName : IsPlain "x".toList := by decide
  have shows : world.Shows 0 ⟨.initial, {}⟩ := ⟨⟨{ access := .open, settings := {} }, rfl, rfl⟩, rfl⟩
  obtain ⟨listed, -, stores, -, setsUp⟩ := script_receives_elements Session.hostCommands 0 world
  have script := listed "list" [value] plain
  have sets : (Interp.initial : Interp Nat).command? "set" = some (.builtin .set) :=
    command?_initial (by simp [Builtin.table]) rfl
  obtain ⟨final, after, set, -, stored⟩ :=
    stores 0 ⟨.initial, {}⟩ "x" value rfl shows (by decide) sets plainName fun _ _ =>
      Std.TreeMap.getElem?_emptyc
  obtain ⟨session, ready, ran, asked⟩ :=
    setsUp { scriptArguments := [value] } {} "" (by decide) rfl
  have argument := asked 0 value rfl (by decide)
  rw [joined] at set stored argument
  have braced : fitsBraces (format [value]).toList = true := by decide
  rw [if_pos braced] at argument
  rw [List.map_cons, List.map_nil, joined] at script
  exact ⟨joined, script, ⟨final, after, set, stored⟩, session, ready, ran, argument⟩

end ScriptBridge
