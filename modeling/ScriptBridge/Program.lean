import ScriptBridge.Bridge.Dispatch
import ScriptBridge.CommandLine

/-!
# The script runner

The program reads its settings, opens a session, and runs the script file, the command of the
command line and the event loop. Lines that scripts print are collected and written out behind the
result of the command, and once more behind the event loop. All input is given: the arguments, the
files and the environment; the outcome is what the program writes and its exit status.
-/

namespace ScriptBridge

structure Surroundings where
  fileContent : String → Except FileFault String
  environment : Settings.Environment

structure Report where
  status : Nat
  output : String
  errors : String
  deriving Repr, DecidableEq

namespace Program

def name : String := "rtk"

def usage : String :=
  "Usage: rtk [-dnq] [-F[<config>]] [-c<cmd>] [<script> [<arg> ...]]"

def usageStatus : Nat := 2

/-! ## Settings -/

def Surroundings.hasFile (surroundings : Surroundings) (path : String) : Bool :=
  match surroundings.fileContent path with
  | .error .missing => false
  | _ => true

def usualPlaces (surroundings : Surroundings) : List String :=
  [(surroundings.environment "HOME").getD "" ++ "/.rtkrc", "./.rtkrc"]

def settingsPath? (surroundings : Surroundings) : SettingsFile → Option String
  | .skip => none
  | .file path => some path
  | .search => (usualPlaces surroundings).find? (Surroundings.hasFile surroundings)

abbrev Loaded := Except Failure Settings × List String

def loadFile (surroundings : Surroundings) (path : String) : Loaded :=
  match surroundings.fileContent path with
  | .error fault => (.error (.file fault), [])
  | .ok text =>
      let (settings, errors) := ({} : Settings).applyText text
      (.ok settings, errors.map fun error => name ++ ": " ++ path ++ ": " ++ error.report)

def applyFlags (line : CommandLine) (settings : Settings) : Settings :=
  { settings with
    dumpCommands := settings.dumpCommands || line.dump
    evaluate := settings.evaluate && !line.recordOnly }

/-- The settings of a run: the defaults, then the file, the environment and the flags. -/
def loadSettings (surroundings : Surroundings) (line : CommandLine) : Loaded :=
  let (fromFile, fileReports) : Loaded :=
    match settingsPath? surroundings line.settingsFile with
    | some path => loadFile surroundings path
    | none => (.ok {}, [])
  match fromFile with
  | .error failure => (.error failure, fileReports)
  | .ok settings =>
      let (settings, errors) := settings.applyEnvironment surroundings.environment
      let settings := applyFlags line settings
      let reports := errors.map fun error => name ++ ": environment: " ++ error.report
      (settings.validate.map fun _ => settings, fileReports ++ reports)

/-! ## Running -/

/-- A part of a run: it prints, works in a world, and may fail. -/
abbrev RunAction := ExceptT Failure (StateT String WorldAction)

def printLine (line : String) : RunAction Unit :=
  modifyThe String (· ++ line ++ "\n")

def work {α : Type} (action : WorldAction (Except Failure α)) : RunAction α :=
  ExceptT.mk (StateT.lift action)

/-- Works in the world without failing. -/
def workOk {α : Type} (action : WorldAction α) : RunAction α :=
  work (World.always action)

def evaluate (session : SessionId) (script : String) : RunAction String :=
  work (World.inSession session fun eval => Session.evaluate eval script)

def flushOutput (session : SessionId) : RunAction Unit := do
  let lines ← workOk (World.inSession session fun _ => Session.takeOutput)
  for line in lines do
    printLine line

def argumentScript (line : CommandLine) : String :=
  "set argv0 " ++ ListText.format [line.script.getD name] ++
    "; set argv " ++ ListText.format [ListText.format line.scriptArguments] ++
    "; set argc " ++ toString line.scriptArguments.length

def runFile
    (surroundings : Surroundings)
    (session : SessionId)
    (path : String) : RunAction Unit :=
  match surroundings.fileContent path with
  | .error fault => throw (.file fault)
  | .ok script => discard <| evaluate session script

/-- Runs the command of the command line and prints its result, if there is one. -/
def runCommand (session : SessionId) (command : String) : RunAction Unit := do
  let result ← evaluate session command
  if !result.isEmpty then
    printLine result

/-- The exit status that a code stands for; one that is no status counts as a failure. -/
def statusOfCode (code : Int32) : Nat :=
  if 0 ≤ code.toInt ∧ code.toInt < 256 then code.toInt.toNat else 1

/-- The exit status of a run that came to its end: a failure if a command that nobody read has
failed, else the code that a script has asked for. -/
def finalStatus (session : SessionId) : RunAction Nat :=
  workOk <| World.inSession session fun _ => do
    match ← Session.takeDeferred with
    | some failure => do
        Session.modifyHost (·.writeError (name ++ ": " ++ failure.message))
        return 1
    | none => return ((← Action.getInterp).exitCode.map statusOfCode).getD 0

/-- Opens the session of a run and tells it the arguments. -/
def setUp (line : CommandLine) (settings : Settings) : RunAction SessionId := do
  let session ← work (World.openSession .open settings)
  discard <| workOk (World.install session)
  discard <| evaluate session (argumentScript line)
  return session

def runWith
    (surroundings : Surroundings)
    (line : CommandLine)
    (settings : Settings) : RunAction Nat := do
  let session ← setUp line settings
  match line.script with
  | some path => runFile surroundings session path
  | none => pure ()
  match line.command with
  | some command => runCommand session command
  | none => pure ()
  flushOutput session
  if !line.noLoop then
    workOk (World.inSession session Session.runLoop)
    flushOutput session
  finalStatus session

def unlines (lines : List String) : String :=
  String.join (lines.map (· ++ "\n"))

def failed (output errors : String) (failure : Failure) : Report where
  status := 1
  output := output
  errors := errors ++ name ++ ": " ++ failure.message ++ "\n"

/-- Runs the program; `none` if a script does not end. -/
def run (surroundings : Surroundings) (arguments : List String) : Option Report :=
  match CommandLine.ofArguments arguments with
  | .error fault =>
      some
        { status := usageStatus
          output := ""
          errors := unlines [name ++ ": " ++ fault.message, usage] }
  | .ok line =>
      let (loaded, reports) := loadSettings surroundings line
      match loaded with
      | .error failure => some (failed "" (unlines reports) failure)
      | .ok settings =>
          let world : World :=
            { environment := surroundings.environment, errorOutput := unlines reports }
          let (outcome, world) :=
            WorldAction.outcome ((runWith surroundings line settings).run.run "")
              (Session.evaluatorOf ampleFuel) world
          match outcome with
          | .error _ => none
          | .ok (.error failure, output) => some (failed output world.errorOutput failure)
          | .ok (.ok status, output) =>
              some { status, output, errors := world.errorOutput }

end Program

end ScriptBridge
