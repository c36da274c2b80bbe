import Mathlib.Data.List.Forall2
import ScriptBridge.Proofs.Program.SettingsLines

/-!
# Layers of settings

Of all valid assignments to a setting the last one counts, in the order of the defaults, the lines
of the settings file, the variables of the environment and the flags. What is neither empty nor a
comment nor a valid assignment is reported once, a line with its number, and changes nothing.
-/

namespace ScriptBridge.Settings

open Text

/-! ## Sources of assignments -/

/-- The contents are what the sources amount to, and nothing else is. -/
def Amounts
    {Source : Type}
    (amount : Source → Content → Prop)
    (sources : List Source)
    (contents : List Content) : Prop :=
  ∀ others, List.Forall₂ amount sources others ↔ others = contents

def flagAssignments (line : CommandLine) : List Assignment :=
  (if line.dump then [.dumpCommands true] else []) ++
    (if line.recordOnly then [.evaluate false] else [])

@[simp]
def Content.assignment? : Content → Option Assignment
  | .assignment found => some found
  | _ => none

abbrev assignmentsIn (contents : List Content) : List Assignment :=
  contents.filterMap Content.assignment?

namespace Assignment

@[simp]
def dumpCommands? : Assignment → Option Bool
  | dumpCommands value => some value
  | _ => none

@[simp]
def evaluate? : Assignment → Option Bool
  | evaluate value => some value
  | _ => none

@[simp]
def namespaceName? : Assignment → Option String
  | namespaceName name _ => some name
  | _ => none

end Assignment

/-- Each setting has the value of the last assignment to it, or its default. -/
structure Last (assignments : List Assignment) (settings : Settings) : Prop where
  dumpCommands : settings.dumpCommands =
    (assignments.filterMap Assignment.dumpCommands?).getLastD false
  evaluate : settings.evaluate = (assignments.filterMap Assignment.evaluate?).getLastD true
  namespaceName : settings.namespaceName =
    (assignments.filterMap Assignment.namespaceName?).getLastD "rtk"

/-! ## Variables -/

/-- For a variable it is enough to be set to nothing. -/
def IsFlag (text : String) (value : Bool) : Prop :=
  text = "" ∧ value = true ∨ IsSwitch text value

inductive Variable where
  | dumpCommands
  | dontEvaluate
  | namespaceName

def Variable.name : Variable → String
  | dumpCommands => "RTK_DUMP_COMMANDS"
  | dontEvaluate => "RTK_DONT_EVALUATE"
  | namespaceName => "RTK_NAMESPACE"

/-- A variable and its value. -/
inductive VariableSets : Variable → String → Assignment → Prop
  | dumpCommands {text : String} {value : Bool} (flag : IsFlag text value) :
      VariableSets .dumpCommands text (.dumpCommands value)
  | dontEvaluate {text : String} {value : Bool} (flag : IsFlag text value) :
      VariableSets .dontEvaluate text (.evaluate !value)
  | namespaceName {name : String} (valid : isIdentifier name = true) :
      VariableSets .namespaceName name (.namespaceName name valid)

def VariableContent (environment : Settings.Environment) (kind : Variable) : Content → Prop
  | .nothing => environment kind.name = none
  | .assignment assignment =>
      ∃ value, environment kind.name = some value ∧ VariableSets kind value assignment
  | .fault =>
      ∃ value, environment kind.name = some value ∧
        ∀ assignment, ¬VariableSets kind value assignment

section

variable {text : String} {value : Bool}

theorem readFlag_of_isFlag (flag : IsFlag text value) : readFlag text = .ok value := by
  rcases flag with ⟨rfl, rfl⟩ | switch
  · rfl
  · have nonempty : text.isEmpty = false := by
      by_contra isEmpty
      simp only [Bool.not_eq_false, String.isEmpty_iff] at isEmpty
      subst isEmpty
      cases value <;> exact absurd switch (by decide)
    rw [readFlag, nonempty]
    exact readSwitch_of_isSwitch switch _

theorem readFlag_of_none (noFlag : ∀ value, ¬IsFlag text value) :
    readFlag text = .error (.noBoolean "environment flag" text) := by
  have nonempty : text.isEmpty = false := by
    by_contra isEmpty
    simp only [Bool.not_eq_false, String.isEmpty_iff] at isEmpty
    exact noFlag true (.inl ⟨isEmpty, rfl⟩)
  rw [readFlag, nonempty]
  exact readSwitch_of_none (fun value switch => noFlag value (.inr switch)) _

end

namespace Variable

def setTo (kind : Variable) (settings : Settings) (value : String) :
    Except SettingFault Settings :=
  match kind with
  | dumpCommands => do return { settings with dumpCommands := ← readFlag value }
  | dontEvaluate => do return { settings with evaluate := !(← readFlag value) }
  | namespaceName => settings.assign "namespace" value

/-- What is tried for a variable: nothing, or to set it. -/
def change (environment : Settings.Environment) (kind : Variable) (settings : Settings) :
    Except SettingFault Settings :=
  (environment kind.name).elim (.ok settings) (kind.setTo settings)

theorem applyVariable_eq
    (environment : Settings.Environment)
    (kind : Variable)
    (settings : Settings) :
    settings.applyVariable environment kind.name (kind.setTo settings) =
      settings.attempt 0 (kind.change environment settings) := by
  rw [Settings.applyVariable, change]
  cases environment kind.name <;> rfl

end Variable

section

variable {kind : Variable} {value : String}

theorem setTo_of_sets
    {assignment : Assignment}
    (sets : VariableSets kind value assignment)
    (settings : Settings) :
    kind.setTo settings value = .ok (assignment.apply settings) := by
  cases sets with
  | dumpCommands flag => rw [Variable.setTo, readFlag_of_isFlag flag]; rfl
  | dontEvaluate flag => rw [Variable.setTo, readFlag_of_isFlag flag]; rfl
  | namespaceName valid => exact assign_of_sets (.namespaceName valid) settings

theorem setTo_of_none (unset : ∀ assignment, ¬VariableSets kind value assignment) :
    ∃ fault, ∀ settings : Settings, kind.setTo settings value = .error fault := by
  cases kind with
  | dumpCommands =>
      have noFlag : ∀ flag, ¬IsFlag value flag := fun _ flag => unset _ (.dumpCommands flag)
      refine ⟨.noBoolean "environment flag" value, fun settings => ?_⟩
      rw [Variable.setTo, readFlag_of_none noFlag]
      rfl
  | dontEvaluate =>
      have noFlag : ∀ flag, ¬IsFlag value flag := fun _ flag => unset _ (.dontEvaluate flag)
      refine ⟨.noBoolean "environment flag" value, fun settings => ?_⟩
      rw [Variable.setTo, readFlag_of_none noFlag]
      rfl
  | namespaceName =>
      have invalid : ¬isIdentifier value = true := fun valid => unset _ (.namespaceName valid)
      refine ⟨.badNamespace value, fun settings => ?_⟩
      simp [Variable.setTo, Settings.assign, invalid]

end

theorem describes_of_variableContent
    {environment : Settings.Environment}
    {kind : Variable}
    {content : Content}
    (amount : VariableContent environment kind content) :
    content.Describes (kind.change environment) := by
  cases content with
  | nothing =>
      intro settings
      rw [Variable.change, amount]
      rfl
  | assignment found =>
      obtain ⟨value, isSet, sets⟩ := amount
      intro settings
      rw [Variable.change, isSet]
      exact setTo_of_sets sets settings
  | fault =>
      obtain ⟨value, isSet, unset⟩ := amount
      obtain ⟨fault, fails⟩ := setTo_of_none unset
      refine ⟨fault, fun settings => ?_⟩
      rw [Variable.change, isSet]
      exact fails settings

/-- A variable amounts to exactly one thing. -/
theorem existsUnique_variableContent
    (environment : Settings.Environment)
    (kind : Variable) :
    ∃! content, VariableContent environment kind content := by
  have exists_content : ∃ content, VariableContent environment kind content := by
    cases isSet : environment kind.name with
    | none => exact ⟨.nothing, isSet⟩
    | some value =>
        by_cases sets : ∃ assignment, VariableSets kind value assignment
        · obtain ⟨assignment, sets⟩ := sets
          exact ⟨.assignment assignment, value, isSet, sets⟩
        · exact ⟨.fault, value, isSet, not_exists.mp sets⟩
  obtain ⟨content, amount⟩ := exists_content
  exact ⟨content, amount, fun other also =>
    (describes_of_variableContent also).unique (describes_of_variableContent amount)⟩

/-! ## Runs of changes -/

theorem exists_amounts
    {Source : Type}
    {amount : Source → Content → Prop}
    (unique : ∀ source, ∃! content, amount source content)
    (sources : List Source) :
    ∃ contents, Amounts amount sources contents := by
  induction sources with
  | nil => exact ⟨[], fun others => List.forall₂_nil_left_iff⟩
  | cons source sources inductionHypothesis =>
      obtain ⟨content, isContent, only⟩ := unique source
      obtain ⟨contents, areContents⟩ := inductionHypothesis
      refine ⟨content :: contents, fun others => ?_⟩
      rw [List.forall₂_cons_left_iff]
      constructor
      · rintro ⟨other, others, also, alsoOthers, rfl⟩
        rw [only other also, (areContents others).mp alsoOthers]
      · rintro rfl
        exact ⟨content, contents, isContent, (areContents contents).mpr rfl, rfl⟩

theorem foldl_apply (contents : List Content) (settings : Settings) :
    contents.foldl Content.apply settings =
      (assignmentsIn contents).foldl Assignment.apply settings := by
  induction contents generalizing settings with
  | nil => rfl
  | cons content contents inductionHypothesis =>
      cases content <;> exact inductionHypothesis _

/-- The lines make their assignments one after the other, and every fault is reported with the
number of its line. The reports do not depend on the settings. -/
theorem applyLines_of_contents
    {lines : List (List Char)}
    {contents : List Content}
    (amounts : List.Forall₂ LineContent lines contents)
    (number : Nat) :
    ∃ errors : List SettingError, errors.map SettingError.line = contents.idxsOf .fault number ∧
      ∀ settings : Settings, settings.applyLines number lines =
        (contents.foldl Content.apply settings, errors) := by
  induction amounts generalizing number with
  | nil => exact ⟨[], rfl, fun settings => rfl⟩
  | @cons line content lines contents amount amounts inductionHypothesis =>
      -- The errors of the line are fixed here, before the settings are known.
      obtain ⟨errors, numbers, attempted⟩ :=
        attempt_of_describes (describes_of_lineContent amount) number
      obtain ⟨later, laterNumbers, applied⟩ := inductionHypothesis (number + 1)
      refine ⟨errors ++ later, ?_, fun settings => ?_⟩
      · rw [List.map_append, numbers, laterNumbers]
        cases content <;> rfl
      · rw [Settings.applyLines, attempted]
        dsimp only
        rw [applied]
        rfl

theorem applyEnvironment_eq (environment : Settings.Environment) (settings : Settings) :
    settings.applyEnvironment environment =
      let (settings, dumpErrors) :=
        settings.attempt 0 (Variable.dumpCommands.change environment settings)
      let (settings, evaluateErrors) :=
        settings.attempt 0 (Variable.dontEvaluate.change environment settings)
      let (settings, namespaceErrors) :=
        settings.attempt 0 (Variable.namespaceName.change environment settings)
      (settings, dumpErrors ++ evaluateErrors ++ namespaceErrors) := by
  simp only [← Variable.applyVariable_eq]
  rfl

theorem applyEnvironment_of_contents
    {environment : Settings.Environment}
    {contents : List Content}
    (amounts : List.Forall₂ (VariableContent environment)
      [.dumpCommands, .dontEvaluate, .namespaceName] contents)
    (settings : Settings) :
    ∃ errors : List SettingError,
      errors.map SettingError.line = List.replicate (contents.count .fault) 0 ∧
      settings.applyEnvironment environment = (contents.foldl Content.apply settings, errors) := by
  simp only [List.forall₂_cons_left_iff, List.forall₂_nil_left_iff] at amounts
  obtain ⟨dump, _, isDump, ⟨evaluate, _, isEvaluate, ⟨name, _, isName, rfl, rfl⟩, rfl⟩, rfl⟩ :=
    amounts
  obtain ⟨dumpErrors, dumpLines, dumped⟩ :=
    attempt_of_describes (describes_of_variableContent isDump) 0
  obtain ⟨evaluateErrors, evaluateLines, evaluated⟩ :=
    attempt_of_describes (describes_of_variableContent isEvaluate) 0
  obtain ⟨nameErrors, nameLines, named⟩ :=
    attempt_of_describes (describes_of_variableContent isName) 0
  refine ⟨dumpErrors ++ evaluateErrors ++ nameErrors, ?_, ?_⟩
  · rw [List.map_append, List.map_append, dumpLines, evaluateLines, nameLines]
    cases dump <;> cases evaluate <;> cases name <;> rfl
  · rw [applyEnvironment_eq, dumped]
    dsimp only
    rw [evaluated]
    dsimp only
    rw [named]
    rfl

theorem applyFlags_eq (line : CommandLine) (settings : Settings) :
    Program.applyFlags line settings = (flagAssignments line).foldl Assignment.apply settings := by
  rw [Program.applyFlags, flagAssignments]
  cases line.dump <;> cases line.recordOnly <;> simp

/-! ## The last assignment -/

attribute [ext] Settings

/-- What a run of assignments leaves in a setting. -/
theorem getter_foldl
    {α : Type}
    {getter : Settings → α}
    {read : Assignment → Option α}
    (step : ∀ settings assignment,
      getter (assignment.apply settings) = (read assignment).getD (getter settings))
    (assignments : List Assignment)
    (settings : Settings) :
    getter (assignments.foldl Assignment.apply settings) =
      (assignments.filterMap read).getLastD (getter settings) := by
  induction assignments generalizing settings with
  | nil => rfl
  | cons assignment assignments inductionHypothesis =>
      rw [List.foldl_cons, inductionHypothesis, step]
      cases isRead : read assignment with
      | none => rw [List.filterMap_cons_none isRead]; rfl
      | some value => rw [List.filterMap_cons_some isRead, List.getLastD_cons]; rfl

section

variable (assignments : List Assignment) (settings : Settings)

theorem dumpCommands_foldl :
    (assignments.foldl Assignment.apply settings).dumpCommands =
      (assignments.filterMap Assignment.dumpCommands?).getLastD settings.dumpCommands :=
  getter_foldl (fun settings assignment => by cases assignment <;> rfl) assignments settings

theorem evaluate_foldl :
    (assignments.foldl Assignment.apply settings).evaluate =
      (assignments.filterMap Assignment.evaluate?).getLastD settings.evaluate :=
  getter_foldl (fun settings assignment => by cases assignment <;> rfl) assignments settings

theorem namespaceName_foldl :
    (assignments.foldl Assignment.apply settings).namespaceName =
      (assignments.filterMap Assignment.namespaceName?).getLastD settings.namespaceName :=
  getter_foldl (fun settings assignment => by cases assignment <;> rfl) assignments settings

theorem last_foldl : (assignments.foldl Assignment.apply {}).Last assignments where
  dumpCommands := dumpCommands_foldl assignments {}
  evaluate := evaluate_foldl assignments {}
  namespaceName := namespaceName_foldl assignments {}

/-- A second run of the same assignments changes nothing. -/
theorem foldl_foldl :
    assignments.foldl Assignment.apply (assignments.foldl Assignment.apply settings) =
      assignments.foldl Assignment.apply settings := by
  have again {α : Type} (values : List α) (start : α) :
      values.getLastD (values.getLastD start) = values.getLastD start := by
    rw [List.getLastD_eq_getLast?, List.getLastD_eq_getLast?]
    cases values.getLast? <;> rfl
  ext
  · simp only [dumpCommands_foldl, again]
  · simp only [evaluate_foldl, again]
  · simp only [namespaceName_foldl, again]

end

/-- The name of the namespace is valid whatever the assignments are. -/
theorem Last.validate
    {assignments : List Assignment}
    {settings : Settings}
    (last : settings.Last assignments) :
    settings.validate = .ok () := by
  rw [validate_eq_ok_iff]
  have member := List.getLastD_mem_cons
    (l := assignments.filterMap Assignment.namespaceName?) (a := "rtk")
  rw [← last.namespaceName, List.mem_cons, List.mem_filterMap] at member
  rcases member with isDefault | ⟨assignment, -, isName⟩
  · rw [isDefault]
    decide
  · cases assignment with
    | namespaceName name valid =>
        obtain rfl : name = settings.namespaceName := by simpa using isName
        exact valid
    | dumpCommands value => contradiction
    | evaluate value => contradiction

/-! ## Main statement -/

/-- The settings file of a run has a text; where there is no file, this is empty. -/
inductive ReadsText (surroundings : Surroundings) (choice : SettingsFile) : String → String → Prop
  | noFile (missing : Program.settingsPath? surroundings choice = none) (path : String) :
      ReadsText surroundings choice path ""
  | file
      {path text : String}
      (found : Program.settingsPath? surroundings choice = some path)
      (content : surroundings.fileContent path = .ok text) :
      ReadsText surroundings choice path text

def reports (source : String) (errors : List SettingError) : List String :=
  errors.map fun error => "rtk: " ++ source ++ ": " ++ error.report

theorem loadSettings_of_readsText
    {surroundings : Surroundings}
    {line : CommandLine}
    {path text : String}
    (reads : ReadsText surroundings line.settingsFile path text) :
    Program.loadSettings surroundings line =
      let (settings, fileErrors) := ({} : Settings).applyText text
      let (settings, environmentErrors) := settings.applyEnvironment surroundings.environment
      let settings := Program.applyFlags line settings
      (settings.validate.map fun _ => settings,
        reports path fileErrors ++ reports "environment" environmentErrors) := by
  have program : Program.name ++ ": " = "rtk: " := by decide
  have environment : Program.name ++ ": environment: " = "rtk: " ++ "environment" ++ ": " := by
    decide
  cases reads with
  | noFile missing path =>
      rw [Program.loadSettings, missing, environment]
      rfl
  | file found content =>
      rw [Program.loadSettings, found, environment]
      dsimp only
      rw [Program.loadFile, content, program]
      rfl

/-- The settings of a run are valid, and each is the last valid assignment to it in the lines of the
file, the variables and the flags, or its default. Every faulty line is reported with its number and
every faulty variable without one. Reading a text for a second time changes nothing and gives the
same reports. -/
theorem settings_are_the_last_valid
    (surroundings : Surroundings)
    (line : CommandLine)
    {path text : String}
    (reads : ReadsText surroundings line.settingsFile path text) :
    ∃ ofFile ofEnvironment : List Content,
      Amounts LineContent (linesOf text.toList) ofFile ∧
      Amounts (VariableContent surroundings.environment)
        [.dumpCommands, .dontEvaluate, .namespaceName] ofEnvironment ∧
      ∃ settings fileErrors environmentErrors,
        Program.loadSettings surroundings line =
          (.ok settings, reports path fileErrors ++ reports "environment" environmentErrors) ∧
        settings.validate = .ok () ∧
        settings.Last (assignmentsIn ofFile ++ assignmentsIn ofEnvironment ++ flagAssignments line) ∧
        fileErrors.map SettingError.line = ofFile.idxsOf .fault 1 ∧
        environmentErrors.map SettingError.line = List.replicate (ofEnvironment.count .fault) 0 ∧
        ∀ before : Settings, (before.applyText text).2 = fileErrors ∧
          (before.applyText text).1.applyText text = before.applyText text := by
  obtain ⟨ofFile, areLines⟩ := exists_amounts existsUnique_lineContent (linesOf text.toList)
  obtain ⟨ofEnvironment, areVariables⟩ :=
    exists_amounts (existsUnique_variableContent surroundings.environment)
      [.dumpCommands, .dontEvaluate, .namespaceName]
  obtain ⟨fileErrors, numbers, applied⟩ := applyLines_of_contents ((areLines ofFile).mpr rfl) 1
  have changedByFile (before : Settings) : before.applyText text =
      ((assignmentsIn ofFile).foldl Assignment.apply before, fileErrors) := by
    rw [Settings.applyText, applied, foldl_apply]
  obtain ⟨environmentErrors, zeros, changed⟩ :=
    applyEnvironment_of_contents ((areVariables ofEnvironment).mpr rfl)
      ((assignmentsIn ofFile).foldl Assignment.apply {})
  have last := last_foldl (assignmentsIn ofFile ++ assignmentsIn ofEnvironment ++ flagAssignments line)
  refine ⟨ofFile, ofEnvironment, areLines, areVariables, _, fileErrors, environmentErrors, ?_,
    last.validate, last, numbers, zeros, fun before => ⟨?_, ?_⟩⟩
  · rw [loadSettings_of_readsText reads, changedByFile]
    dsimp only
    rw [changed]
    dsimp only
    rw [applyFlags_eq, foldl_apply, ← List.foldl_append, ← List.foldl_append, ← List.append_assoc,
      last.validate]
    rfl
  · rw [changedByFile]
  · rw [changedByFile, changedByFile, foldl_foldl]

/-- A file with a faulty line, a variable that is no name, and a flag. -/
theorem settings_are_the_last_valid_of_faults :
    let text := "evaluate = no\nnamespace = \"App\"\ncolour = red\nevaluate = YES\n"
    let surroundings : Surroundings :=
      ⟨fun _ => .ok text, fun name => if name = "RTK_NAMESPACE" then some "9bad" else none⟩
    let line : CommandLine := { settingsFile := .file "rc", dump := true }
    let settings : Settings := ⟨true, true, "App"⟩
    Program.loadSettings surroundings line =
        (.ok settings, ["rtk: rc: line 3: unknown key `colour`",
          "rtk: environment: invalid namespace `9bad`"]) ∧
      settings.validate = .ok () ∧
      ∀ before : Settings, (before.applyText text).1.applyText text = before.applyText text := by
  intro text surroundings line settings
  have reads : ReadsText surroundings line.settingsFile "rc" text := .file rfl rfl
  obtain ⟨ofFile, ofEnvironment, -, -, loaded, fileErrors, environmentErrors, isLoaded, valid, -, -,
    -, again⟩ := settings_are_the_last_valid surroundings line reads
  have computed : Program.loadSettings surroundings line =
      (.ok settings, ["rtk: rc: line 3: unknown key `colour`",
        "rtk: environment: invalid namespace `9bad`"]) := by
    dsimp only [text, surroundings, line, settings]
    rfl
  obtain rfl : settings = loaded := by
    rw [computed, Prod.mk.injEq] at isLoaded
    exact Except.ok.inj isLoaded.1
  exact ⟨computed, valid, fun before => (again before).2⟩

end ScriptBridge.Settings
