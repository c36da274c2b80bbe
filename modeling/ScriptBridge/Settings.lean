import ScriptBridge.Failure
import ScriptBridge.Text.Blank

/-!
# Settings

The settings of a session have defaults, which a settings file, the environment and the command
line override in this order. A faulty line or variable is reported and changes nothing.
-/

namespace ScriptBridge

structure Settings where
  /-- Copy every submitted command to the dump stream. -/
  dumpCommands : Bool := false
  /-- Submit commands; otherwise they are recorded only, and every result is empty. -/
  evaluate : Bool := true
  /-- Generated names are in this namespace. -/
  namespaceName : String := "rtk"
  deriving Repr, DecidableEq

/-! ## Faults -/

inductive SettingFault where
  | noAssignment (line : String)
  | noBoolean (key value : String)
  | badNamespace (value : String)
  | unknownKey (key : String)
  deriving Repr, DecidableEq

def SettingFault.message : SettingFault → String
  | .noAssignment line => "expected `key = value`, got `" ++ line ++ "`"
  | .noBoolean key value => "`" ++ key ++ "` expects a boolean, got `" ++ value ++ "`"
  | .badNamespace value => "invalid namespace `" ++ value ++ "`"
  | .unknownKey key => "unknown key `" ++ key ++ "`"

structure SettingError where
  line : Nat
  fault : SettingFault
  deriving Repr, DecidableEq

def SettingError.report (error : SettingError) : String :=
  if error.line = 0 then error.fault.message
  else "line " ++ toString error.line ++ ": " ++ error.fault.message

/-! ## Values -/

def isNameStart (c : Char) : Bool :=
  c.isAlpha || c = '_'

def isIdentifier (text : String) : Bool :=
  match text.toList with
  | [] => false
  | c :: rest => isNameStart c && rest.all fun c => isNameStart c || c.isDigit

def unquote (value : List Char) : List Char :=
  match value with
  | '"' :: rest => if rest.getLast? = some '"' then rest.dropLast else value
  | _ => value

def readSwitch (key value : String) : Except SettingFault Bool :=
  match String.ofList (value.toList.map Char.toLower) with
  | "1" | "true" | "yes" | "on" => .ok true
  | "0" | "false" | "no" | "off" => .ok false
  | _ => .error (.noBoolean key value)

/-- The truth value of an environment variable, for which being set to nothing is enough. -/
def readFlag (value : String) : Except SettingFault Bool :=
  if value.isEmpty then .ok true else readSwitch "environment flag" value

namespace Settings

/-! ## Assignments -/

def assign (settings : Settings) (key value : String) : Except SettingFault Settings :=
  match key with
  | "dump_commands" => do return { settings with dumpCommands := ← readSwitch key value }
  | "evaluate" => do return { settings with evaluate := ← readSwitch key value }
  | "namespace" =>
      if isIdentifier value then .ok { settings with namespaceName := value }
      else .error (.badNamespace value)
  | _ => .error (.unknownKey key)

def attempt
    (settings : Settings)
    (line : Nat)
    (change : Except SettingFault Settings) : Settings × List SettingError :=
  match change with
  | .ok changed => (changed, [])
  | .error fault => (settings, [⟨line, fault⟩])

/-! ## Files -/

/-- A line of a settings file: nothing to do, or an assignment. -/
def applyLine (settings : Settings) (line : List Char) : Except SettingFault Settings :=
  let line := Text.trim line
  match line with
  | [] => .ok settings
  | '#' :: _ | ';' :: _ => .ok settings
  | _ =>
      match line.dropWhile (· ≠ '=') with
      | [] => .error (.noAssignment (String.ofList line))
      | _ :: value =>
          settings.assign
            (String.ofList (Text.trim (line.takeWhile (· ≠ '='))))
            (String.ofList (unquote (Text.trim value)))

/-- The settings after lines, the first of which has the number `number`, with their errors. -/
def applyLines
    (settings : Settings)
    (number : Nat) : List (List Char) → Settings × List SettingError
  | [] => (settings, [])
  | line :: lines =>
      let (settings, errors) := settings.attempt number (settings.applyLine line)
      let (settings, later) := applyLines settings (number + 1) lines
      (settings, errors ++ later)

/-- The settings after the text of a file, with the errors in it. -/
def applyText (settings : Settings) (text : String) : Settings × List SettingError :=
  settings.applyLines 1 (Text.linesOf text.toList)

/-! ## Environment -/

abbrev Environment := String → Option String

def applyVariable
    (settings : Settings)
    (environment : Environment)
    (name : String)
    (change : String → Except SettingFault Settings) : Settings × List SettingError :=
  match environment name with
  | some value => settings.attempt 0 (change value)
  | none => (settings, [])

def applyEnvironment
    (settings : Settings)
    (environment : Environment) : Settings × List SettingError :=
  let (settings, dumpErrors) := settings.applyVariable environment "RTK_DUMP_COMMANDS" fun value =>
    do return { settings with dumpCommands := ← readFlag value }
  let (settings, evaluateErrors) :=
    settings.applyVariable environment "RTK_DONT_EVALUATE" fun value =>
      do return { settings with evaluate := !(← readFlag value) }
  let (settings, namespaceErrors) := settings.applyVariable environment "RTK_NAMESPACE" fun value =>
    settings.assign "namespace" value
  (settings, dumpErrors ++ evaluateErrors ++ namespaceErrors)

def ofEnvironment (environment : Environment) : Settings :=
  (({} : Settings).applyEnvironment environment).1

/-! ## Names -/

def validate (settings : Settings) : Except Failure Unit :=
  if isIdentifier settings.namespaceName then .ok ()
  else .error (.settings settings.namespaceName)

theorem validate_eq_ok_iff {settings : Settings} :
    settings.validate = .ok () ↔ isIdentifier settings.namespaceName = true := by
  simp [validate]

def callbackStem (settings : Settings) : String :=
  settings.namespaceName ++ "::callback"

def variableStem (settings : Settings) : String :=
  settings.namespaceName ++ "::variable"

end Settings

end ScriptBridge
