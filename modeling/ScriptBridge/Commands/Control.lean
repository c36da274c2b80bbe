import ScriptBridge.Commands.Formulas

/-!
# Control flow

Conditions and loops evaluate the scripts in their arguments, and other commands end a script early.
A loop makes no more rounds than the evaluator allows.
-/

namespace ScriptBridge.Commands

variable {Key Host : Type}

open ScriptBridge.Action

/-! ## Conditions -/

/-- What to do once a condition has turned out false, by what follows its script. -/
inductive Otherwise where
  | nothing
  | script (body : String)
  | missingScript
  | condition (rest : List String)

/-- Reads what follows the script of a condition. -/
def Otherwise.ofArguments : List String → Otherwise
  | [] => .nothing
  | "elseif" :: rest => .condition rest
  | ["else"] => .missingScript
  | "else" :: body :: _ => .script body
  | body :: _ => .script body

theorem Otherwise.ofArguments_length_lt
    {arguments rest : List String}
    (further : ofArguments arguments = .condition rest) :
    rest.length < arguments.length := by
  unfold ofArguments at further
  split at further <;> simp at further
  simp [further]

/-- A condition with the script that it guards and what follows that. -/
inductive Guarded where
  | missingCondition
  | missingScript (condition : String)
  | complete (condition body : String) (rest : List String)

def Guarded.ofArguments : List String → Guarded
  | [] => .missingCondition
  | [condition] => .missingScript condition
  | [condition, "then"] => .missingScript condition
  | condition :: "then" :: body :: rest => .complete condition body rest
  | condition :: body :: rest => .complete condition body rest

theorem Guarded.ofArguments_length_lt
    {arguments rest : List String}
    {condition body : String}
    (found : ofArguments arguments = .complete condition body rest) :
    rest.length < arguments.length := by
  unfold ofArguments at found
  split at found <;> simp at found
  · simp only [found, List.length_cons]
    omega
  · simp only [found, List.length_cons]
    omega

/-- Evaluates the first script whose condition holds, or the one behind `else`. -/
def ifThen
    (eval : Evaluator Key Host)
    (arguments : List String) : Action Key Host String :=
  match _guarded : Guarded.ofArguments arguments with
  | .missingCondition => fail "wrong # args: no expression after \"if\" argument"
  | .missingScript condition =>
      fail ("wrong # args: no script following \"" ++ condition ++ "\" argument")
  | .complete condition body rest => do
      if ← computeCondition eval condition then
        eval.script body
      else
        match _otherwise : Otherwise.ofArguments rest with
        | .nothing => return ""
        | .script body => eval.script body
        | .missingScript => fail "wrong # args: no script following \"else\" argument"
        | .condition further => ifThen eval further
  termination_by arguments.length
  decreasing_by
    exact Nat.lt_trans
      (Otherwise.ofArguments_length_lt _otherwise)
      (Guarded.ofArguments_length_lt _guarded)

/-! ## Loops -/

/-- Runs the body of a loop once and returns whether the loop goes on. -/
def runBody (eval : Evaluator Key Host) (body : String) : Action Key Host Bool := do
  match ← attempt (eval.script body) with
  | .ok _ => return true
  | .error .continued => return true
  | .error .broke => return false
  | .error other => throw other

def repeatWhile
    (eval : Evaluator Key Host)
    (condition body : String)
    (step : Action Key Host Unit) : (rounds : Nat) → Action Key Host String
  | 0 => throw .unfinished
  | rounds + 1 => do
      if ← computeCondition eval condition then
        if ← runBody eval body then
          step
          repeatWhile eval condition body step rounds
        else
          return ""
      else
        return ""

def whileLoop (eval : Evaluator Key Host) : List String → Action Key Host String
  | [condition, body] => repeatWhile eval condition body (return ()) eval.rounds
  | _ => wrongUsage "while test command"

def forLoop (eval : Evaluator Key Host) : List String → Action Key Host String
  | [start, condition, next, body] => do
      discard <| eval.script start
      repeatWhile eval condition body (discard <| eval.script next) eval.rounds
  | _ => wrongUsage "for start test next command"

/-- Sets variables to the elements of a list, and those left over to the empty text. -/
def assignAll : (names items : List String) → Action Key Host Unit
  | [], _ => return ()
  | name :: names, items => do
      discard <| writeVariable name (items.head?.getD "")
      assignAll names items.tail

/-- Runs a body for the groups of a list's elements that the variables take in turn. -/
def forEach
    (eval : Evaluator Key Host)
    (name : String)
    (names : List String)
    (body : String)
    (items : List String) : Action Key Host String :=
  match items with
  | [] => return ""
  | item :: rest => do
      assignAll (name :: names) (item :: rest)
      if ← runBody eval body then
        forEach eval name names body (rest.drop names.length)
      else
        return ""
  termination_by items.length
  decreasing_by
    simp only [List.length_drop, List.length_cons]
    omega

def foreachLoop (eval : Evaluator Key Host) : List String → Action Key Host String
  | [names, items, body] => do
      match ← listOf names with
      | [] => fail "foreach varlist is empty"
      | name :: names => forEach eval name names body (← listOf items)
  | _ => wrongUsage "foreach varList list command"

/-! ## Ending early -/

def returnValue : List String → Action Key Host String
  | [] => throw (.returned "")
  | [value] => throw (.returned value)
  | _ => wrongUsage "return ?value?"

def error : List String → Action Key Host String
  | [] => wrongUsage "error message ?errorInfo? ?errorCode?"
  | message :: _ => fail message

/-- Ends the program. A code that is out of range counts as a failure. -/
def exit : List String → Action Key Host String
  | [] => throw (.exited 0)
  | code :: _ => do throw (.exited ((Numeral.narrow? (← intOf code)).getD 1))

/-- The code of an outcome and the value that belongs to it; `none` if it cannot be caught. -/
def caught? : Except Interruption String → Option (String × String)
  | .ok value => some ("0", value)
  | .error (.error message) => some ("1", message)
  | .error (.returned value) => some ("2", value)
  | .error .broke => some ("3", "")
  | .error .continued => some ("4", "")
  | .error (.exited _) | .error .unfinished => none

/-- Evaluates a script, stores its value in a variable if one is named, and returns the code of how
the script ended. -/
def catchScript
    (eval : Evaluator Key Host)
    (script : String)
    (name : Option String) : Action Key Host String := do
  let outcome ← attempt (eval.script script)
  match caught? outcome with
  | none => ending outcome
  | some (code, value) =>
      match name with
      | some name => discard <| writeVariable name value
      | none => return code
      return code

def catchError (eval : Evaluator Key Host) : List String → Action Key Host String
  | [script] => catchScript eval script none
  | [script, name] => catchScript eval script (some name)
  | _ => wrongUsage "catch script ?resultVarName?"

/-! ## Evaluation of arguments -/

def evalArguments (eval : Evaluator Key Host) (arguments : List String) :
    Action Key Host String :=
  match arguments with
  | [] => wrongUsage "eval arg ?arg ...?"
  | _ => eval.script (concatenation arguments)

def subst (eval : Evaluator Key Host) : List String → Action Key Host String
  | [text] => eval.substitute text
  | _ => wrongUsage "subst string"

/-- Namespaces are spelled in names only: there is but one, and its scripts run where they stand. -/
def namespaces (eval : Evaluator Key Host) : List String → Action Key Host String
  | [] => wrongUsage "namespace subcommand ?arg ...?"
  | "eval" :: _ :: part :: parts => eval.script (concatenation (part :: parts))
  | "eval" :: _ => wrongUsage "namespace eval name arg ?arg...?"
  | "current" :: _ => return "::"
  | ["exists", _] => return "1"
  | other :: _ =>
      fail <|
        "unknown or ambiguous subcommand \"" ++ other ++ "\": must be current, eval, or exists"

end ScriptBridge.Commands
