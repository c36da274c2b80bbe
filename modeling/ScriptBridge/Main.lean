import ScriptBridge.Program

/-!
# The command

Reads the files that the command line asks for and writes the report of the run.
-/

open ScriptBridge

def readContent (path : String) : IO (Except FileFault String) := do
  try
    let bytes ← IO.FS.readBinFile path
    match String.fromUTF8? bytes with
    | some text => return .ok text
    | none => return .error .noText
  catch
    | .noFileOrDirectory .. => return .error .missing
    | .inappropriateType .. => return .error .directory
    | error => return .error (.other (toString error))

/-- The files that a run may read: those of the usual places, and those on the command line. -/
def filesOf (environment : Settings.Environment) (arguments : List String) : List String :=
  let usual := Program.usualPlaces { fileContent := fun _ => .error .missing, environment }
  match CommandLine.ofArguments arguments with
  | .error _ => usual
  | .ok line =>
      let named := match line.settingsFile with
        | .file path => [path]
        | _ => []
      usual ++ named ++ line.script.toList

def variableNames : List String :=
  ["HOME", "RTK_DUMP_COMMANDS", "RTK_DONT_EVALUATE", "RTK_NAMESPACE"]

def main (arguments : List String) : IO UInt32 := do
  let mut values : List (String × String) := []
  for name in variableNames do
    match ← IO.getEnv name with
    | some value => values := (name, value) :: values
    | none => pure ()
  let environment : Settings.Environment := (values.lookup ·)
  let mut contents : List (String × Except FileFault String) := []
  for path in filesOf environment arguments do
    contents := (path, ← readContent path) :: contents
  let fileContent (path : String) : Except FileFault String :=
    (contents.lookup path).getD (.error .missing)
  match Program.run { fileContent, environment } arguments with
  | some report => do
      (← IO.getStdout).putStr report.output
      (← IO.getStderr).putStr report.errors
      return report.status.toUInt32
  | none => do
      (← IO.getStderr).putStr "rtk: the script does not end\n"
      return 1
