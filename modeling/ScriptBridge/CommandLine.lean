/-!
# The command line

Flags may stand together behind one hyphen. The first argument that is no flag is the script, and
everything behind it belongs to the script.
-/

namespace ScriptBridge

/-- Which settings file to read. -/
inductive SettingsFile where
  /-- The user's own, in the usual places. -/
  | search
  | skip
  | file (path : String)
  deriving Repr, DecidableEq

structure CommandLine where
  settingsFile : SettingsFile := .search
  /-- A command to run after the script. -/
  command : Option String := none
  /-- Copy every command to the error stream. -/
  dump : Bool := false
  /-- Record commands without evaluating them. -/
  recordOnly : Bool := false
  noLoop : Bool := false
  script : Option String := none
  scriptArguments : List String := []
  deriving Repr, DecidableEq

inductive UsageFault where
  | missingCommand
  | unknownFlag (flag : Char)
  deriving Repr, DecidableEq

def UsageFault.message : UsageFault → String
  | .missingCommand => "-c requires a command argument"
  | .unknownFlag flag => "unknown option: -" ++ flag.toString

namespace CommandLine

/-- Reads the flags of one argument. `rest` are the arguments behind it, of which a flag may take
the first. -/
def readFlags
    (line : CommandLine)
    (rest : List String) : List Char → Except UsageFault (CommandLine × List String)
  | [] => .ok (line, rest)
  | 'd' :: flags => { line with dump := true }.readFlags rest flags
  | 'n' :: flags => { line with recordOnly := true }.readFlags rest flags
  | 'q' :: flags => { line with noLoop := true }.readFlags rest flags
  | ['F'] =>
      match rest with
      | [] => .ok ({ line with settingsFile := .skip }, [])
      | path :: others =>
          if path.startsWith "-" then .ok ({ line with settingsFile := .skip }, rest)
          else .ok ({ line with settingsFile := .file path }, others)
  | 'F' :: path => .ok ({ line with settingsFile := .file (String.ofList path) }, rest)
  | ['c'] =>
      match rest with
      | [] => .error .missingCommand
      | command :: others => .ok ({ line with command := some command }, others)
  | 'c' :: command => .ok ({ line with command := some (String.ofList command) }, rest)
  | flag :: _ => .error (.unknownFlag flag)

theorem readFlags_length_le
    {line found : CommandLine}
    {rest left : List String}
    {flags : List Char}
    (read : line.readFlags rest flags = .ok (found, left)) :
    left.length ≤ rest.length := by
  fun_induction readFlags line rest flags with
  | case1 => simp_all
  | case2 line flags ih => exact ih read
  | case3 line flags ih => exact ih read
  | case4 line flags ih => exact ih read
  | case5 => simp_all
  | case6 => simp_all
  | case7 => simp at read; obtain ⟨-, rfl⟩ := read; simp_all
  | case8 => simp_all
  | case9 => simp at read
  | case10 => simp at read; obtain ⟨-, rfl⟩ := read; simp_all
  | case11 => simp_all
  | case12 => simp at read

def withScript (line : CommandLine) : List String → CommandLine
  | [] => line
  | script :: arguments =>
      { line with script := some script, scriptArguments := arguments }

def isFlags (argument : String) : Bool :=
  argument.startsWith "-" && argument != "-"

def readFrom (line : CommandLine) (arguments : List String) : Except UsageFault CommandLine :=
  match arguments with
  | [] => .ok line
  | argument :: rest =>
      if argument = "--" then
        .ok (line.withScript rest)
      else if isFlags argument then
        match _read : line.readFlags rest (argument.toList.drop 1) with
        | .error fault => .error fault
        | .ok (line, rest) => line.readFrom rest
      else
        .ok (line.withScript (argument :: rest))
  termination_by arguments.length
  decreasing_by
    exact Nat.lt_succ_of_le (readFlags_length_le _read)

def ofArguments (arguments : List String) : Except UsageFault CommandLine :=
  ({} : CommandLine).readFrom arguments

end CommandLine

end ScriptBridge
