import ScriptBridge.Interp.Action

/-!
# Procedures

A call gives the parameters of a procedure their values in a new frame and evaluates the body
there. Parameters with a default may be left out at the end.
-/

namespace ScriptBridge

variable {Key Host : Type}

namespace Procedure

/-- The values of the parameters in a call, in the order of the parameters; `none` if the number of
arguments does not fit. -/
def bind? : List (String × Option String) → List String → Option (List (String × String))
  | [], [] => some []
  | [], _ :: _ => none
  | [("args", _)], arguments => some [("args", ListText.format arguments)]
  | (name, _) :: parameters, argument :: arguments =>
      (bind? parameters arguments).map ((name, argument) :: ·)
  | (name, some default) :: parameters, [] => (bind? parameters []).map ((name, default) :: ·)
  | (_, none) :: _, [] => none

def frame? (procedure : Procedure) (arguments : List String) : Option Frame :=
  (bind? procedure.parameters arguments).map fun values =>
    { locals := values.foldl (fun table entry => table.insert entry.1 entry.2) {} }

def parameterUsage : String × Option String → String
  | ("args", _) => " ?arg ...?"
  | (name, some _) => " ?" ++ name ++ "?"
  | (name, none) => " " ++ name

def usage (procedure : Procedure) (name : String) : String :=
  name ++ String.join (procedure.parameters.map parameterUsage)

end Procedure

def callOutcome : Except Interruption String → Except Interruption String
  | .error (.returned value) => .ok value
  | .error .broke => .error (.error (outsideLoop "break"))
  | .error .continued => .error (.error (outsideLoop "continue"))
  | outcome => outcome

def pushFrame (frame : Frame) : Action Key Host Unit :=
  Action.modifyInterp fun interp =>
    { interp with
      store := { interp.store with frames := frame :: interp.store.frames } }

def popFrame : Action Key Host Unit :=
  Action.modifyInterp fun interp =>
    { interp with
      store := { interp.store with frames := interp.store.frames.tail } }

def Procedure.call
    (procedure : Procedure)
    (eval : Evaluator Key Host)
    (name : String)
    (arguments : List String) : Action Key Host String :=
  match procedure.frame? arguments with
  | none => Action.wrongUsage (procedure.usage name)
  | some frame => do
      pushFrame frame
      let outcome ← Action.attempt (eval.script procedure.body)
      popFrame
      Action.ending (callOutcome outcome)

namespace Commands

open ScriptBridge.Action

/-- The parameter that a specifier describes: a name, or a name and a default. -/
def parameterOf (specifier : String) : Action Key Host (String × Option String) := do
  match ← listOf specifier with
  | [name] => return (name, none)
  | [name, default] => return (name, some default)
  | _ => fail ("too many fields in argument specifier \"" ++ specifier ++ "\"")

def proc (eval : Evaluator Key Host) : List String → Action Key Host String
  | [name, specifiers, body] => do
      let parameters ← (← listOf specifiers).mapM parameterOf
      modify fun machine => machine.define eval.release name (.procedure ⟨parameters, body⟩)
      return ""
  | _ => wrongUsage "proc name args body"

end Commands

end ScriptBridge
