import ScriptBridge.CommandLine

/-!
# Written command lines

A command line can be written down in many ways. Switches stand alone or together behind one hyphen,
in any order. A flag with a value is the last one of its argument: the path of a settings file is
attached to it, a command is attached to it or is the argument behind. A double hyphen divides the
flags from the script, so that a script may be called as it likes. However a command line is
written, reading gives it back, with all that stands behind the script untouched.
-/

namespace ScriptBridge

/-! ## Flags -/

/-- The flags that have no value. -/
inductive Switch where
  | dump | recordOnly | noLoop
  deriving Repr, DecidableEq

@[simp]
def Switch.letter : Switch → Char
  | dump => 'd'
  | recordOnly => 'n'
  | noLoop => 'q'

/-- What stands behind the switches of an argument. -/
inductive LastFlag where
  | nothing
  | skip
  | file (path : String)
  | attachedCommand (command : String)
  | separateCommand (command : String)
  deriving Repr, DecidableEq

namespace LastFlag

@[simp]
def text : LastFlag → List Char
  | nothing => []
  | skip => ['F']
  | file path => 'F' :: path.toList
  | attachedCommand command => 'c' :: command.toList
  | separateCommand _ => ['c']

/-- The arguments that belong to the flag and stand behind its own. -/
@[simp]
def following : LastFlag → List String
  | separateCommand command => [command]
  | _ => []

def settingsFile? : LastFlag → Option SettingsFile
  | skip => some .skip
  | file path => some (.file path)
  | _ => none

def command? : LastFlag → Option String
  | attachedCommand command => some command
  | separateCommand command => some command
  | _ => none

end LastFlag

/-- An argument that holds flags. What is attached to a flag is not empty. -/
structure FlagArgument where
  switches : List Switch
  last : LastFlag
  nonempty : switches ≠ [] ∨ last ≠ .nothing
  namesFile : last ≠ .file ""
  attaches : last ≠ .attachedCommand ""

namespace FlagArgument

/-- A switch that stands alone. -/
def ofSwitch (switch : Switch) : FlagArgument where
  switches := [switch]
  last := .nothing
  nonempty := by simp
  namesFile := by simp
  attaches := by simp

/-- A flag without switches in front of it. -/
def ofLast
    (last : LastFlag)
    (nonempty : last ≠ .nothing)
    (namesFile : last ≠ .file "")
    (attaches : last ≠ .attachedCommand "") : FlagArgument where
  switches := []
  last := last
  nonempty := .inr nonempty
  namesFile := namesFile
  attaches := attaches

def letters (argument : FlagArgument) : List Char :=
  argument.switches.map Switch.letter ++ argument.last.text

def text (argument : FlagArgument) : String :=
  String.ofList ('-' :: argument.letters)

/-- The argument with those that belong to its last flag. -/
def texts (argument : FlagArgument) : List String :=
  argument.text :: argument.last.following

/-- Behind the hyphen stands the letter of a flag. -/
theorem exists_letter (argument : FlagArgument) :
    ∃ letter rest, argument.letters = letter :: rest ∧ letter ≠ '-' := by
  rw [letters]
  cases switches : argument.switches with
  | cons switch switches => cases switch <;> simp
  | nil =>
      have flagged := argument.nonempty
      rw [switches] at flagged
      cases last : argument.last <;> simp_all

theorem startsWith_text (argument : FlagArgument) : argument.text.startsWith "-" = true := by
  simp [text, String.startsWith_string_iff]

/-- An argument of flags is neither the double hyphen nor a hyphen alone. -/
theorem text_ne (argument : FlagArgument) : argument.text ≠ "--" ∧ argument.text ≠ "-" := by
  obtain ⟨letter, rest, isLetters, notHyphen⟩ := argument.exists_letter
  simp [text, isLetters, ← String.toList_inj, notHyphen]

end FlagArgument

namespace CommandLine

/-! ## What flags mean -/

def isSet (line : CommandLine) : Switch → Bool
  | .dump => line.dump
  | .recordOnly => line.recordOnly
  | .noLoop => line.noLoop

/-- Arguments of flags write the flags of a command line: the switches that occur are those that are
set, and the last settings file and the last command count. -/
structure WrittenBy (line : CommandLine) (flags : List FlagArgument) : Prop where
  switches : ∀ switch, line.isSet switch = true ↔ ∃ argument ∈ flags, switch ∈ argument.switches
  settingsFile :
    line.settingsFile = (flags.filterMap (·.last.settingsFile?)).getLast?.getD .search
  command : line.command = (flags.filterMap (·.last.command?)).getLast?

def withSwitches (line : CommandLine) (switches : List Switch) : CommandLine :=
  { line with
    dump := line.dump || switches.contains .dump
    recordOnly := line.recordOnly || switches.contains .recordOnly
    noLoop := line.noLoop || switches.contains .noLoop }

def withLast (line : CommandLine) (last : LastFlag) : CommandLine :=
  { line with
    settingsFile := last.settingsFile?.getD line.settingsFile
    command := last.command?.or line.command }

def withFlags (line : CommandLine) (argument : FlagArgument) : CommandLine :=
  (line.withSwitches argument.switches).withLast argument.last

section

variable (line : CommandLine) (flags : List FlagArgument)

theorem isSet_withFlags (argument : FlagArgument) (switch : Switch) :
    (line.withFlags argument).isSet switch =
      (line.isSet switch || argument.switches.contains switch) := by
  cases switch <;> rfl

theorem isSet_foldl_withFlags (switch : Switch) :
    (flags.foldl withFlags line).isSet switch = true ↔
      line.isSet switch = true ∨ ∃ argument ∈ flags, switch ∈ argument.switches := by
  induction flags generalizing line with
  | nil => simp
  | cons argument flags inductionHypothesis =>
      simp [inductionHypothesis, isSet_withFlags, or_assoc]

theorem settingsFile_foldl_withFlags :
    (flags.foldl withFlags line).settingsFile =
      (flags.filterMap (·.last.settingsFile?)).getLast?.getD line.settingsFile := by
  induction flags generalizing line with
  | nil => simp
  | cons argument flags inductionHypothesis =>
      rw [List.foldl_cons, inductionHypothesis]
      simp [withFlags, withLast, withSwitches, Option.getD_or]

theorem command_foldl_withFlags :
    (flags.foldl withFlags line).command =
      (flags.filterMap (·.last.command?)).getLast?.or line.command := by
  induction flags generalizing line with
  | nil => simp
  | cons argument flags inductionHypothesis =>
      rw [List.foldl_cons, inductionHypothesis]
      simp [withFlags, withLast, withSwitches, Option.or_assoc]

theorem script_foldl_withFlags :
    (flags.foldl withFlags line).script = line.script ∧
      (flags.foldl withFlags line).scriptArguments = line.scriptArguments := by
  induction flags generalizing line with
  | nil => simp
  | cons argument flags inductionHypothesis =>
      exact inductionHypothesis (line.withFlags argument)

end

/-- The flags that a command line is written by make it up, except for the script. -/
theorem WrittenBy.foldl_withFlags
    {line : CommandLine}
    {flags : List FlagArgument}
    (written : line.WrittenBy flags) :
    flags.foldl withFlags {} = { line with script := none, scriptArguments := [] } := by
  have switch (switch : Switch) : (flags.foldl withFlags {}).isSet switch = line.isSet switch := by
    rw [Bool.eq_iff_iff, isSet_foldl_withFlags, written.switches]
    cases switch <;> simp [isSet]
  have settingsFile : (flags.foldl withFlags {}).settingsFile = line.settingsFile := by
    rw [settingsFile_foldl_withFlags, written.settingsFile]
  have command : (flags.foldl withFlags {}).command = line.command := by
    rw [command_foldl_withFlags, written.command, Option.or_none]
  obtain ⟨script, scriptArguments⟩ := script_foldl_withFlags {} flags
  have dump := switch .dump
  have recordOnly := switch .recordOnly
  have noLoop := switch .noLoop
  simp only [isSet] at dump recordOnly noLoop
  rcases made : flags.foldl withFlags {} with ⟨_, _, _, _, _, _, _⟩
  simp_all

/-! ## Reading flags -/

/-- The next argument cannot be taken for the path of a settings file. -/
def Apart (rest : List String) : Prop :=
  ∀ next ∈ rest.head?, next.startsWith "-" = true

theorem readFlags_switches
    (line : CommandLine)
    (rest : List String)
    (switches : List Switch)
    (tail : List Char) :
    line.readFlags rest (switches.map Switch.letter ++ tail) =
      (line.withSwitches switches).readFlags rest tail := by
  induction switches generalizing line with
  | nil => simp [withSwitches]
  | cons switch switches inductionHypothesis =>
      cases switch <;> simp [readFlags, inductionHypothesis, withSwitches]

theorem readFlags_last
    (line : CommandLine)
    {last : LastFlag}
    (namesFile : last ≠ .file "")
    (attaches : last ≠ .attachedCommand "")
    {rest : List String}
    (apart : Apart rest) :
    line.readFlags (last.following ++ rest) last.text = .ok (line.withLast last, rest) := by
  cases last with
  | nothing => simp [readFlags, withLast, LastFlag.settingsFile?, LastFlag.command?]
  | skip =>
      cases rest with
      | nil => simp [readFlags, withLast, LastFlag.settingsFile?, LastFlag.command?]
      | cons next others =>
          have flagged : next.startsWith "-" = true := apart next rfl
          simp [readFlags, withLast, LastFlag.settingsFile?, LastFlag.command?, flagged]
  | file path =>
      have named : path.toList ≠ [] := by
        simpa [String.toList_eq_nil_iff] using namesFile
      simp [readFlags, withLast, LastFlag.settingsFile?, LastFlag.command?]
  | attachedCommand command =>
      have given : command.toList ≠ [] := by
        simpa [String.toList_eq_nil_iff] using attaches
      simp [readFlags, withLast, LastFlag.settingsFile?, LastFlag.command?]
  | separateCommand command =>
      simp [readFlags, withLast, LastFlag.settingsFile?, LastFlag.command?]

/-- One argument of flags is read with all that belongs to it. -/
theorem readFrom_texts
    (line : CommandLine)
    (argument : FlagArgument)
    {rest : List String}
    (apart : Apart rest) :
    line.readFrom (argument.texts ++ rest) = (line.withFlags argument).readFrom rest := by
  have flags : isFlags argument.text = true := by
    simp [isFlags, argument.startsWith_text, argument.text_ne]
  have letters : argument.text.toList.drop 1 = argument.letters := by
    simp [FlagArgument.text]
  have read : line.readFlags (argument.last.following ++ rest) (argument.text.toList.drop 1) =
      .ok (line.withFlags argument, rest) := by
    rw [letters, FlagArgument.letters, readFlags_switches,
      readFlags_last _ argument.namesFile argument.attaches apart, withFlags]
  rw [FlagArgument.texts, List.cons_append, readFrom, if_neg argument.text_ne.1, if_pos flags]
  split <;> simp_all

theorem apart_flatMap_texts
    (flags : List FlagArgument)
    {rest : List String}
    (apart : Apart rest) :
    Apart (flags.flatMap FlagArgument.texts ++ rest) := by
  cases flags with
  | nil => simpa using apart
  | cons argument flags =>
      intro next isHead
      obtain rfl : argument.text = next := by simpa [FlagArgument.texts] using isHead
      exact argument.startsWith_text

/-- Arguments of flags are read one after the other, up to what stands behind them. -/
theorem readFrom_flatMap_texts
    (line : CommandLine)
    (flags : List FlagArgument)
    {rest : List String}
    (apart : Apart rest) :
    line.readFrom (flags.flatMap FlagArgument.texts ++ rest) =
      (flags.foldl withFlags line).readFrom rest := by
  induction flags generalizing line with
  | nil => simp
  | cons argument flags inductionHypothesis =>
      rw [List.flatMap_cons, List.append_assoc,
        readFrom_texts line argument (apart_flatMap_texts flags apart), inductionHypothesis,
        List.foldl_cons]

/-- Behind the double hyphen all is taken as it is. -/
theorem readFrom_doubleHyphen (line : CommandLine) (behind : List String) :
    line.readFrom ("--" :: behind) = .ok (line.withScript behind) := by
  rw [readFrom, if_pos rfl]

theorem withScript_script
    {line : CommandLine}
    (ownerless : line.script = none → line.scriptArguments = []) :
    { line with script := none, scriptArguments := [] : CommandLine }.withScript
      (line.script.toList ++ line.scriptArguments) = line := by
  rcases line with ⟨settingsFile, command, dump, recordOnly, noLoop, script, scriptArguments⟩
  cases script with
  | none =>
      obtain rfl : scriptArguments = [] := ownerless rfl
      rfl
  | some script => rfl

/-! ## Writing -/

theorem exists_settingsFlags
    {file : SettingsFile}
    (named : file ≠ .file "") :
    ∃ flags : List FlagArgument,
      (∀ argument ∈ flags, argument.switches = []) ∧
        flags.filterMap (·.last.command?) = [] ∧
        file = (flags.filterMap (·.last.settingsFile?)).getLast?.getD .search := by
  cases file with
  | search => exact ⟨[], by simp⟩
  | skip =>
      refine ⟨[.ofLast .skip (by simp) (by simp) (by simp)], ?_⟩
      simp [FlagArgument.ofLast, LastFlag.command?, LastFlag.settingsFile?]
  | file path =>
      refine ⟨[.ofLast (.file path) (by simp) (by simpa using named) (by simp)], ?_⟩
      simp [FlagArgument.ofLast, LastFlag.command?, LastFlag.settingsFile?]

theorem exists_commandFlags (command : Option String) :
    ∃ flags : List FlagArgument,
      (∀ argument ∈ flags, argument.switches = []) ∧
        flags.filterMap (·.last.settingsFile?) = [] ∧
        command = (flags.filterMap (·.last.command?)).getLast? := by
  cases command with
  | none => exact ⟨[], by simp⟩
  | some command =>
      refine ⟨[.ofLast (.separateCommand command) (by simp) (by simp) (by simp)], ?_⟩
      simp [FlagArgument.ofLast, LastFlag.command?, LastFlag.settingsFile?]

/-- Every command line can be written if its settings file has a name. -/
theorem exists_writtenBy
    {line : CommandLine}
    (named : line.settingsFile ≠ .file "") :
    ∃ flags, line.WrittenBy flags := by
  obtain ⟨settingsFlags, noSwitches, noCommand, settingsFile⟩ := exists_settingsFlags named
  obtain ⟨commandFlags, noOtherSwitches, noSettings, command⟩ := exists_commandFlags line.command
  let switches := [Switch.dump, .recordOnly, .noLoop].filter line.isSet
  refine ⟨switches.map .ofSwitch ++ (settingsFlags ++ commandFlags), ?_, ?_, ?_⟩
  · intro switch
    have isFlag : switch ∈ [Switch.dump, .recordOnly, .noLoop] := by cases switch <;> simp
    constructor
    · intro isSet
      have member : switch ∈ switches := List.mem_filter.mpr ⟨isFlag, isSet⟩
      refine ⟨.ofSwitch switch, ?_, by simp [FlagArgument.ofSwitch]⟩
      exact List.mem_append_left _ (List.mem_map_of_mem member)
    · rintro ⟨argument, member, occurs⟩
      rw [List.mem_append, List.mem_append] at member
      rcases member with member | member | member
      · obtain ⟨other, isSet, rfl⟩ := List.mem_map.mp member
        obtain rfl : switch = other := by simpa [FlagArgument.ofSwitch] using occurs
        exact (List.mem_filter.mp isSet).2
      · simp [noSwitches argument member] at occurs
      · simp [noOtherSwitches argument member] at occurs
  · have none : (switches.map FlagArgument.ofSwitch).filterMap (·.last.settingsFile?) = [] := by
      simp [FlagArgument.ofSwitch, LastFlag.settingsFile?]
    rw [List.filterMap_append, List.filterMap_append, none, noSettings, settingsFile]
    simp
  · have none : (switches.map FlagArgument.ofSwitch).filterMap (·.last.command?) = [] := by
      simp [FlagArgument.ofSwitch, LastFlag.command?]
    rw [List.filterMap_append, List.filterMap_append, none, noCommand, command]
    simp

/-! ## Main statement -/

/-- A command line is read back from whatever flags it is written by, with the double hyphen, the
script and the script's arguments behind them; and if it has no script, from the flags alone. -/
theorem written_arguments_read_back
    (line : CommandLine)
    (named : line.settingsFile ≠ .file "")
    (ownerless : line.script = none → line.scriptArguments = []) :
    (∃ flags, line.WrittenBy flags) ∧
      ∀ flags, line.WrittenBy flags →
        ofArguments
            (flags.flatMap FlagArgument.texts ++
              "--" :: (line.script.toList ++ line.scriptArguments)) = .ok line ∧
          (line.script = none → ofArguments (flags.flatMap FlagArgument.texts) = .ok line) := by
  refine ⟨exists_writtenBy named, fun flags written => ?_⟩
  have separated : Apart ("--" :: (line.script.toList ++ line.scriptArguments)) := by
    intro next isHead
    obtain rfl : "--" = next := by simpa using isHead
    simp [String.startsWith_string_iff]
  constructor
  · rw [ofArguments, readFrom_flatMap_texts {} flags separated, written.foldl_withFlags,
      readFrom_doubleHyphen, withScript_script ownerless]
  · intro scriptless
    have read := readFrom_flatMap_texts {} flags (show Apart [] by simp [Apart])
    have whole := withScript_script ownerless
    rw [List.append_nil, written.foldl_withFlags] at read
    simp only [scriptless, ownerless scriptless, Option.toList_none, List.append_nil] at whole
    rw [ofArguments, read, readFrom]
    exact congrArg Except.ok whole

/-- Flags in clusters, a command that looks like the double hyphen, and a script with its arguments
that look like flags. -/
theorem written_arguments_read_back_of_odd_names :
    let line : CommandLine :=
      { settingsFile := .skip, command := some "--", dump := true, noLoop := true,
        script := some "-odd.tcl", scriptArguments := ["-n", "", "--"] }
    ofArguments ["-qdqF", "-c", "--", "--", "-odd.tcl", "-n", "", "--"] = .ok line := by
  intro line
  let flags : List FlagArgument :=
    [⟨[.noLoop, .dump, .noLoop], .skip, by simp, by simp, by simp⟩,
      .ofLast (.separateCommand "--") (by simp) (by simp) (by simp)]
  have written : line.WrittenBy flags := by
    refine ⟨?_, by decide, by decide⟩
    intro switch
    cases switch <;> simp [flags, line, isSet, FlagArgument.ofLast]
  have texts : flags.flatMap FlagArgument.texts = ["-qdqF", "-c", "--"] := by decide
  have read := ((written_arguments_read_back line (by decide) (by decide)).2 flags written).1
  rw [texts] at read
  exact read

end CommandLine

end ScriptBridge
