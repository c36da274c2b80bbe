import ScriptBridge.Bridge.Program
import ScriptBridge.Interp.Run
import ScriptBridge.Settings
import ScriptBridge.Text.Quoted

/-!
# Sessions

A session belongs to one interpreter. It submits commands, copies them to a dump stream, and knows
which of the failures it has reported are still alive; while one is, commands that nobody reads are
not submitted. Callbacks and links are kept in tables of the session.
-/

namespace ScriptBridge

/-! ## Tables -/

/-- A linked text on both sides: the buffer in the interpreter, if there is one, and the variable of
the host. -/
structure TextCopy where
  id : Nat
  buffer : Option String
  text : String
  deriving DecidableEq

/-- What can happen to callbacks. -/
inductive CallbackEvent where
  /-- A registration takes the slot. -/
  | taken (slot : Nat)
  /-- The registration that had the slot ends. -/
  | freed (slot : Nat)
  /-- The callback in the slot starts, where the linked texts are these. -/
  | started (slot : Nat) (texts : List TextCopy)
  /-- The callback has succeeded, and its call ends where the linked texts are these. -/
  | returned (slot : Nat) (texts : List TextCopy)
  deriving DecidableEq

/-- The callbacks by the numbers of their slots, and what has happened to all callbacks, the latest
first. A slot is never used again. Nothing that is computed depends on the history. -/
structure CallbackTable where
  nextSlot : Nat := 0
  slots : Std.TreeMap Nat Callback := {}
  history : List CallbackEvent := []

/-- What can happen to guards, and to links beside them. -/
inductive GuardEvent where
  /-- A variable is linked until the guard is dropped. -/
  | made (linkGuard : LinkGuard)
  | dropped (linkGuard : LinkGuard)
  /-- The host ends the link of a variable itself. -/
  | unlinked (target : HostVariable)
  deriving DecidableEq

/-- The names of the linked host variables of each kind, and what has happened to the guards of host
programs, the latest first. Nothing that is computed depends on the history. -/
structure LinkTable where
  nextId : Nat := 0
  ints : Std.TreeMap Nat String := {}
  floats : Std.TreeMap Nat String := {}
  texts : Std.TreeMap Nat String := {}
  history : List GuardEvent := []

/-! ## Sessions -/

structure SessionState where
  settings : Settings
  access : InterpAccess
  callbacks : CallbackTable := {}
  links : LinkTable := {}
  failuresAlive : Nat := 0
  dump : DumpStream := .none
  /-- The last failure of a command that nobody read. -/
  deferred : Option Failure := none

structure OpenSession where
  interp : Interp Nat
  state : SessionState

def OpenSession.isOpen (session : OpenSession) : Bool :=
  session.state.access == .open

def OpenSession.shown (session : OpenSession) : String :=
  "Session \x7b namespace: " ++ Text.shown session.state.settings.namespaceName ++
    ", headless: " ++ (if session.isOpen then "true" else "false") ++
    ", in_error: " ++ toString session.state.failuresAlive ++ ", .. \x7d"

/-! ## Commands -/

/-- A command that is being put together. It is submitted at most once. -/
structure CommandBuffer where
  /-- The session that it is bound to; `none` for the one that is current when it is submitted. -/
  session : Option SessionId
  base : String
  /-- Text that stays behind all that is added. -/
  suffix : String := ""
  /-- Whether it has been submitted, or its text taken over. -/
  invoked : Bool := false
  result : String := ""
  owners : Nat := 1

def CommandBuffer.text (buffer : CommandBuffer) : String :=
  buffer.base ++ buffer.suffix

instance decidableEqExcept {ε α : Type} [DecidableEq ε] [DecidableEq α] : DecidableEq (Except ε α)
  | .ok left, .ok right => decidable_of_iff (left = right) ⟨congrArg Except.ok, Except.ok.inj⟩
  | .error left, .error right =>
      decidable_of_iff (left = right) ⟨congrArg Except.error, Except.error.inj⟩
  | .ok _, .error _ => isFalse nofun
  | .error _, .ok _ => isFalse nofun

/-- What can happen to commands. -/
inductive CommandEvent where
  | made (command : BufferId) (session : Option SessionId)
  /-- The host has asked for its text. -/
  | looked (command : BufferId) (text : String)
  /-- The text of the command goes to another one, which still takes it or has been submitted. -/
  | absorbed (command receiver : BufferId) (text : String) (taken : Bool)
  /-- It is to be evaluated, unless that has happened. -/
  | asked (command : BufferId)
  /-- Its last owner is gone. -/
  | left (command : BufferId)
  /-- It was given up, submitted or not, while a number of failures of its session were alive. -/
  | dropped (command : BufferId) (invoked : Bool) (failures : Nat)
  /-- It is to be submitted with this text. -/
  | sealed (command : BufferId) (text : String)
  /-- There is no session that it could be submitted to. -/
  | stranded (command : BufferId)
  /-- A session evaluates its text. -/
  | submitted (command : BufferId) (session : SessionId) (text : String)
  /-- The evaluation ends with a result, or fails. -/
  | answered (command : BufferId) (result : Option String)
  /-- The host has had it evaluated, or has read it. -/
  | evaluated (command : BufferId)
  /-- The host has read its result, where nothing was left to submit. -/
  | reread (command : BufferId) (answer : Except Failure String)
  /-- The host has taken away its last owner, while a number of failures of the session that it is
  bound to were alive. -/
  | released (command : BufferId) (invoked : Bool) (failures : Nat)
  deriving DecidableEq

/-- The commands that have owners, and what has happened to all commands, the latest first. Nothing
that is computed depends on the history. -/
structure CommandTable where
  buffers : Std.TreeMap BufferId CommandBuffer := {}
  nextId : BufferId := 0
  history : List CommandEvent := []

/-! ## Hosts -/

/-- What all sessions share. -/
structure Shared where
  sessions : Array OpenSession := #[]
  current : Option SessionId := none
  environment : Settings.Environment := fun _ => none
  /-- The values of the text variables. -/
  texts : Std.TreeMap Nat String := {}
  /-- What has been written to the captured dump stream. -/
  captured : String := ""
  errorOutput : String := ""
  commands : CommandTable := {}
  /-- The failures that the host keeps beyond the programs that received them. -/
  kept : List Failure := []
  /-- The failures in the hands of programs at work. Nothing that is computed depends on them. -/
  held : List Failure := []

/-- What the host keeps beside the interpreter of a session at work. Among the sessions that are
shared, the one at work is out of date. -/
structure HostState extends Shared where
  running : SessionId
  session : SessionState

def HostState.writeError (host : HostState) (line : String) : HostState :=
  { host with errorOutput := host.errorOutput ++ line ++ "\n" }

/-- The state of a session at work. -/
abbrev SessionMachine := Machine Nat HostState

abbrev SessionAction := Action Nat HostState

abbrev SessionEvaluator := Evaluator Nat HostState

namespace Session

/-! ## Parts of the state -/

def getState : SessionAction SessionState :=
  return (← get).host.session

def modifyHost (change : HostState → HostState) : SessionAction Unit :=
  modify fun machine => { machine with host := change machine.host }

def modifyState (change : SessionState → SessionState) : SessionAction Unit :=
  modifyHost fun host => { host with session := change host.session }

/-! ## Failures -/

def raise (message : String) : SessionAction Failure := do
  modifyState fun session => { session with failuresAlive := session.failuresAlive + 1 }
  return .interpreter message (some (← get).host.running)

def dropFailure (failure : Failure) : SessionAction Unit := do
  if failure.scope? = some (← get).host.running then
    modifyState fun session => { session with failuresAlive := session.failuresAlive - 1 }

def inError : SessionAction Bool :=
  return 0 < (← getState).failuresAlive

/-! ## Streams -/

def setDump (dump : DumpStream) : SessionAction Unit :=
  modifyState fun session => { session with dump }

def takeOutput : SessionAction (Array String) :=
  modifyGet Machine.takeOutput

/-! ## Evaluation -/

def dumped (script : String) (host : HostState) : HostState :=
  match host.session.dump with
  | .none | .broken => host
  | .captured => { host with captured := host.captured ++ script ++ "\n" }
  | .errorStream => host.writeError script

/-- Submits a script and returns its result. A session that only records submits nothing and has
empty results. -/
def evaluate
    (eval : SessionEvaluator)
    (script : String) : SessionAction (Except Failure String) := do
  modifyHost (dumped script)
  if (← getState).settings.evaluate then
    match ← submit eval script with
    | .ok _ => return .ok (← Action.getInterp).result
    | .error message => return .error (← raise message)
  else
    Action.setResult ""
    return .ok ""

/-- Remembers the failure of a command that nobody read, without keeping it alive. -/
def recordDeferred (failure : Failure) : SessionAction Unit :=
  modifyState fun session => { session with deferred := some failure.detached }

/-- Takes the failure of a command that nobody read. -/
def takeDeferred : SessionAction (Option Failure) := do
  let session ← getState
  modifyState fun session => { session with deferred := none }
  return session.deferred

/-! ## Operations of the interpreter that a session may refuse -/

/-- Makes a command of the host, if the session may. -/
def createCommand
    (eval : SessionEvaluator)
    (name : String)
    (slot : Nat) : SessionAction (Except String Unit) := do
  match (← getState).access with
  | .refusing => return .error ("cannot create command " ++ name)
  | _ =>
      modify fun machine => machine.define eval.release name (.host slot)
      return .ok ()

def deleteCommand
    (eval : SessionEvaluator)
    (name : String) : SessionAction (Except String Unit) := do
  match (← getState).access with
  | .refusing => return .error ("cannot delete command " ++ name)
  | _ =>
      match (← get).removeCommand eval.release name with
      | .ok machine =>
          Action.putMachine machine
          return .ok ()
      | .error message => return .error message

def showLink (cells : Cells) : Link → String
  | .int cell => "Int(" ++ Numeral.formatWord (cells.int cell) ++ ")"
  | .float cell => "Double(" ++ Numeral.plainFloat (cells.float cell) ++ ")"
  | .text buffer => "Text(" ++ Text.shown buffer ++ ")"

def linkName (name : String) (link : Link) : SessionAction (Except String Unit) := do
  match (← getState).access with
  | .refusing =>
      return .error ("cannot link " ++ name ++ " to " ++ showLink (← get).cells link)
  | _ =>
      match (← get).link name link with
      | .ok machine =>
          Action.putMachine machine
          return .ok ()
      | .error message => return .error message

def unlinkName (name : String) : SessionAction Unit :=
  modify (·.unlink name)

end Session

end ScriptBridge
