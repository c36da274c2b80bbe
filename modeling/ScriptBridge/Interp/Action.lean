import ScriptBridge.Arithmetic.Fault
import ScriptBridge.Interp.Machine
import ScriptBridge.ListText

/-!
# Actions

What a command does is an action: it changes the machine and ends with a result, or with an
interruption that concerns the commands around it. The changes made before an interruption stay.
-/

namespace ScriptBridge

/-- How a script can end other than with a result. -/
inductive Interruption where
  | error (message : String)
  /-- The procedure that is running is to end with this result. -/
  | returned (value : String)
  | broke
  | continued
  | exited (code : Int32)
  /-- The limit on nested evaluations and rounds of loops was reached: the script may not end. -/
  | unfinished
  deriving Repr, DecidableEq

/-- The message for a loop command where there is no loop. -/
def outsideLoop (command : String) : String :=
  "invoked \"" ++ command ++ "\" outside of a loop"

abbrev Action (Key Host : Type) := ExceptT Interruption (StateM (Machine Key Host))

namespace Action

variable {Key Host : Type} {α : Type}

def fail (message : String) : Action Key Host α :=
  throw (.error message)

/-- Ends with the error that the arguments are not those of the usage. -/
def wrongUsage (usage : String) : Action Key Host α :=
  fail ("wrong # args: should be \"" ++ usage ++ "\"")

/-- Runs an action and returns how it ended. -/
def attempt (action : Action Key Host α) : Action Key Host (Except Interruption α) :=
  ExceptT.mk fun machine =>
    let (outcome, machine) := action.run machine
    (.ok outcome, machine)

/-- Ends in the given way. -/
def ending (outcome : Except Interruption α) : Action Key Host α :=
  ExceptT.mk fun machine => (outcome, machine)

def orFail {Fault : Type} (message : Fault → String) (result : Except Fault α) :
    Action Key Host α :=
  match result with
  | .ok value => return value
  | .error fault => fail (message fault)

/-! ## Parts of the machine -/

def putMachine (machine : Machine Key Host) : Action Key Host Unit :=
  set machine

def getInterp : Action Key Host (Interp Key) :=
  return (← get).interp

def modifyInterp (change : Interp Key → Interp Key) : Action Key Host Unit :=
  modify fun machine => { machine with interp := change machine.interp }

def modifyWidgets (change : WidgetTable → WidgetTable) : Action Key Host Unit :=
  modifyInterp fun interp => { interp with widgets := change interp.widgets }

def setDepth (depth : Nat) : Action Key Host Unit :=
  modifyInterp fun interp => { interp with depth }

def setResult (result : String) : Action Key Host Unit :=
  modifyInterp fun interp => { interp with result }

def setExitCode (code : Int32) : Action Key Host Unit :=
  modifyInterp fun interp => { interp with exitCode := some code }

def valueOf? (name : String) : Action Key Host (Option String) :=
  return (← get).valueOf? name

def readVariable (name : String) : Action Key Host String := do
  orFail id ((← get).readVariable name)

/-- Sets a variable and returns its text afterwards. -/
def writeVariable (name value : String) : Action Key Host String := do
  let (text, machine) ← orFail id ((← get).writeVariable name value)
  putMachine machine
  return text

/-! ## Typed arguments -/

def listOf (text : String) : Action Key Host (List String) :=
  orFail ListText.Fault.message (ListText.parse text)

def intOf (text : String) : Action Key Host Int64 :=
  match Numeral.readWord? text with
  | some value => return value
  | none => fail ("expected integer but got \"" ++ text ++ "\"")

end Action

/-- What a command needs to evaluate the scripts in its arguments. -/
structure Evaluator (Key Host : Type) where
  script : String → Action Key Host String
  substitute : String → Action Key Host String
  release : Release Key Host
  /-- How many rounds a loop may make. -/
  rounds : Nat

end ScriptBridge
