import ScriptBridge.Commands.Glob
import ScriptBridge.Interp.Action
import ScriptBridge.Truth

/-!
# Output, command names and inspection
-/

namespace ScriptBridge.Commands

variable {Key Host : Type}

open ScriptBridge.Action

def printLine (line : String) : Action Key Host String := do
  modifyInterp fun interp => { interp with output := interp.output.push line }
  return ""

/-- Prints a line to one of the two channels, which are one here. -/
def putsArguments : List String → Action Key Host String
  | [line] => printLine line
  | [channel, line] =>
      if channel = "stdout" || channel = "stderr" then printLine line
      else fail ("can not find channel named \"" ++ channel ++ "\"")
  | _ => wrongUsage "puts ?-nonewline? ?channelId? string"

def puts : List String → Action Key Host String
  | "-nonewline" :: arguments => putsArguments arguments
  | arguments => putsArguments arguments

/-- Renames a command, or deletes it if the new name is empty. -/
def rename (eval : Evaluator Key Host) : List String → Action Key Host String
  | [old, new] => do
      putMachine (← orFail id ((← get).renameCommand eval.release old new))
      return ""
  | _ => wrongUsage "rename oldName newName"

/-- The names of commands that match a pattern, if there is one. -/
def matchingNames
    (interp : Interp Key)
    (procedures : Bool)
    (pattern : Option String) : List String :=
  interp.commandNames.filter fun name =>
    pattern.all (fun pattern => Glob.matchesText (Name.key pattern) name) &&
      (!procedures || interp.isProcedure name)

def info : List String → Action Key Host String
  | [] => wrongUsage "info subcommand ?arg ...?"
  | ["exists", name] => do return Truth.digit (← valueOf? name).isSome
  | ["commands"] => do return ListText.format (matchingNames (← getInterp) false none)
  | ["commands", pattern] => do
      return ListText.format (matchingNames (← getInterp) false (some pattern))
  | ["procs"] => do return ListText.format (matchingNames (← getInterp) true none)
  | ["procs", pattern] => do
      return ListText.format (matchingNames (← getInterp) true (some pattern))
  | ["level"] => do return toString (← getInterp).store.frames.length
  | other :: _ =>
      if ["exists", "commands", "procs", "level"].contains other then
        wrongUsage ("info " ++ other ++ " ?arg?")
      else
        fail <|
          "unknown or ambiguous subcommand \"" ++ other ++
            "\": must be commands, exists, level, or procs"

end ScriptBridge.Commands
