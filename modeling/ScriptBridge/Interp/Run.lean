import ScriptBridge.Commands.Bindings
import ScriptBridge.Commands.Control
import ScriptBridge.Commands.Events
import ScriptBridge.Commands.Inspection
import ScriptBridge.Commands.Procedures
import ScriptBridge.Commands.Strings
import ScriptBridge.Commands.Variables
import ScriptBridge.Script.Reader

/-!
# Evaluation

Evaluating a script puts the words of each command together and invokes the command. Commands
evaluate scripts in their turn; `fuel` limits how deep such evaluations nest and how many rounds a
loop makes, and running out of it is an outcome of its own.
-/

namespace ScriptBridge

variable {Key Host : Type}

/-! ## Commands of the host -/

/-- The commands of the host: what a call does, and what becomes of the host's state when a command
leaves the table. A call is given the name of the command as the first word. -/
structure HostCommands (Key Host : Type) where
  call : Evaluator Key Host → Key → List String → Action Key Host String
  release : Release Key Host

/-! ## Invocation -/

def Builtin.run
    (builtin : Builtin)
    (eval : Evaluator Key Host)
    (name : String)
    (arguments : List String) : Action Key Host String :=
  match builtin with
  | .set => Commands.set arguments
  | .unset => Commands.unset arguments
  | .incr => Commands.incr arguments
  | .append => Commands.append arguments
  | .list => Commands.list arguments
  | .llength => Commands.llength arguments
  | .lindex => Commands.lindex arguments
  | .lappend => Commands.lappend arguments
  | .concat => Commands.concat arguments
  | .join => Commands.join arguments
  | .string => Commands.string arguments
  | .expr => Commands.expr eval arguments
  | .ifThen => Commands.ifThen eval arguments
  | .whileLoop => Commands.whileLoop eval arguments
  | .forLoop => Commands.forLoop eval arguments
  | .foreachLoop => Commands.foreachLoop eval arguments
  | .proc => Commands.proc eval arguments
  | .returnValue => Commands.returnValue arguments
  | .breakLoop => throw .broke
  | .continueLoop => throw .continued
  | .error => Commands.error arguments
  | .catchError => Commands.catchError eval arguments
  | .eval => Commands.evalArguments eval arguments
  | .subst => Commands.subst eval arguments
  | .puts => Commands.puts arguments
  | .rename => Commands.rename eval arguments
  | .namespaces => Commands.namespaces eval arguments
  | .info => Commands.info arguments
  | .globals => Commands.globals arguments
  | .after => Commands.after arguments
  | .update => Commands.update eval arguments
  | .exit => Commands.exit arguments
  | .createWidget => Commands.createWidget eval name arguments
  | .manage => Commands.manage name arguments
  | .destroy => Commands.destroy eval arguments
  | .bind => Commands.bind arguments
  | .event => Commands.event eval arguments
  | .focus => Commands.focus arguments
  | .wm => Commands.wm arguments
  | .winfo => Commands.winfo arguments

def Command.run
    (host : HostCommands Key Host)
    (eval : Evaluator Key Host)
    (command : Command Key)
    (name : String)
    (arguments : List String) : Action Key Host String :=
  match command with
  | .builtin meaning => meaning.run eval name arguments
  | .procedure definition => definition.call eval name arguments
  | .host key => host.call eval key (name :: arguments)
  | .widget => Commands.widgetCommand eval name arguments

def invoke
    (host : HostCommands Key Host)
    (eval : Evaluator Key Host)
    (name : String)
    (arguments : List String) : Action Key Host String := do
  let interp ← Action.getInterp
  match interp.command? name with
  | none => Action.fail ("invalid command name \"" ++ name ++ "\"")
  | some command =>
      if maxDepth ≤ interp.depth then
        Action.fail "too many nested evaluations (infinite loop?)"
      else
        Action.setDepth (interp.depth + 1)
        let outcome ← Action.attempt (command.run host eval name arguments)
        Action.setDepth interp.depth
        Action.ending outcome

/-! ## Scripts -/

def ScanFault.interruption : ScanFault → Interruption
  | .stuck => .unfinished
  | fault => .error fault.message

mutual

def substitutePieces
    (call : String → List String → Action Key Host String)
    (start : String) : List Piece → Action Key Host String
  | [] => return start
  | piece :: rest => do
      let text ← substitutePiece call piece
      substitutePieces call (start ++ text) rest

def substitutePiece
    (call : String → List String → Action Key Host String) : Piece → Action Key Host String
  | .literal text => return String.ofList text
  | .variable name => Action.readVariable name
  | .command body => runScript call "" body

/-- Puts words together, each from its pieces. -/
def substituteWords
    (call : String → List String → Action Key Host String) :
    List (List Piece) → Action Key Host (List String)
  | [] => return []
  | word :: rest => do
      let text ← substitutePieces call "" word
      let texts ← substituteWords call rest
      return text :: texts

/-- Runs the commands of a script and returns the result of the last one, or `result` if there is
none. -/
def runScript
    (call : String → List String → Action Key Host String)
    (result : String) : Script → Action Key Host String
  | .done => return result
  | .command words rest => do
      match ← substituteWords call words with
      | [] => runScript call result rest
      | name :: arguments => do
          let result ← call name arguments
          runScript call result rest
  | .cut words last fault => do
      discard <| substituteWords call words
      discard <| substitutePieces call "" last
      throw fault.interruption

end

def Template.substitute
    (call : String → List String → Action Key Host String)
    (template : Template) : Action Key Host String := do
  let text ← substitutePieces call "" template.pieces
  match template.fault with
  | some fault => throw fault.interruption
  | none => return text

/-- The evaluator with a given amount of fuel. -/
def evaluator (host : HostCommands Key Host) : (fuel : Nat) → Evaluator Key Host
  | 0 =>
      { script := fun _ => throw .unfinished
        substitute := fun _ => throw .unfinished
        release := host.release
        rounds := 0 }
  | fuel + 1 =>
      { script := fun text =>
          runScript (invoke host (evaluator host fuel)) "" (Script.ofText text)
        substitute := fun text =>
          (Template.ofText text).substitute (invoke host (evaluator host fuel))
        release := host.release
        rounds := fuel }

/-! ## Submission -/

/-- Evaluates a script for the host. Its result, or the message of its error, is kept as the result
of the interpreter; ending the program is noted and is no error. -/
def submit (eval : Evaluator Key Host) (script : String) :
    Action Key Host (Except String Unit) := do
  match ← Action.attempt (eval.script script) with
  | .ok value => accept value
  | .error (.returned value) => accept value
  | .error (.exited code) => do
      Action.setExitCode code
      accept ""
  | .error .broke => reject (outsideLoop "break")
  | .error .continued => reject (outsideLoop "continue")
  | .error (.error message) => reject message
  | .error .unfinished => throw .unfinished
where
  accept (value : String) : Action Key Host (Except String Unit) := do
    Action.setResult value
    return .ok ()
  reject (message : String) : Action Key Host (Except String Unit) := do
    Action.setResult message
    return .error message

/-- Runs all queued events, waiting for those that are not due, until the program is to end. -/
def runEventLoop (eval : Evaluator Key Host) : Action Key Host Unit :=
  Commands.runEvents eval false eval.rounds

def ampleFuel : Nat := Nat.pow 10 15

end ScriptBridge
