import ScriptBridge.Bridge.Callbacks

/-!
# The world of a host

A host may have several sessions, one of which is current: commands that are bound to no session go
to it, and it is opened with the settings of the environment when it is first needed. The variables
of the host, the clock, the streams and the commands are shared by all sessions.
-/

namespace ScriptBridge

/-! ## State -/

structure World extends Shared where
  cells : Cells := {}
  clock : Nat := 0

/-- An evaluation did not end within its fuel. -/
inductive Unfinished where
  | unfinished
  deriving Repr, DecidableEq

/-- An action of the host, which works with a given evaluator. -/
abbrev WorldAction := ReaderT SessionEvaluator (ExceptT Unfinished (StateM World))

def WorldAction.outcome
    {α : Type}
    (action : WorldAction α)
    (eval : SessionEvaluator)
    (world : World) : Except Unfinished α × World :=
  (action.run eval).run.run world

namespace World

/-! ## Sessions at work -/

/-- The machine of a session in a world. -/
def machineOf (world : World) (id : SessionId) (session : OpenSession) : SessionMachine where
  interp := session.interp
  cells := world.cells
  clock := world.clock
  host := { world.toShared with running := id, session := session.state }

/-- The world in which a session is at work, with the session back in its place. -/
def ofMachine (machine : SessionMachine) : World :=
  { machine.host.toShared with
    sessions :=
      machine.host.sessions.setIfInBounds machine.host.running
        ⟨machine.interp, machine.host.session⟩
    cells := machine.cells
    clock := machine.clock }

/-- The world goes on where a session has stopped working. -/
def resumeFrom
    {α : Type}
    (result : Except Interruption α × SessionMachine) : WorldAction α := do
  set (ofMachine result.2)
  match result.1 with
  | .ok value => return value
  | .error _ => throw .unfinished

/-- Lets a session act. A session that does not exist does nothing, without end. -/
def inSession
    {α : Type}
    (id : SessionId)
    (action : SessionEvaluator → SessionAction α) : WorldAction α := do
  let eval ← read
  let world ← get
  match world.sessions[id]? with
  | none => throw .unfinished
  | some session => resumeFrom ((action eval).run.run (world.machineOf id session))

/-- Opens a session. Its namespace is set up at once and leaves no trace in the dump stream. -/
def openSession
    (access : InterpAccess)
    (settings : Settings) : WorldAction (Except Failure SessionId) := do
  match settings.validate with
  | .error failure => return .error failure
  | .ok _ =>
      let id := (← get).sessions.size
      let dump := if settings.dumpCommands then DumpStream.errorStream else .none
      modify fun world =>
        { world with sessions := world.sessions.push ⟨.initial, { settings, access, dump }⟩ }
      let script := "namespace eval " ++ settings.namespaceName ++ " \x7b\x7d"
      match ← inSession id (submit · script) with
      | .ok _ => return .ok id
      | .error message => return .error (.interpreter message none)

/-! ## The current session -/

/-- Makes a session the current one and returns the one before it. -/
def install (id : SessionId) : WorldAction (Option SessionId) := do
  let old := (← get).current
  modify fun world => { world with current := some id }
  return old

/-- The current session, which is opened if there is none. -/
def currentSession : WorldAction (Except Failure SessionId) := do
  match (← get).current with
  | some id => return .ok id
  | none =>
      match ← openSession .open (Settings.ofEnvironment (← get).environment) with
      | .ok id => do
          discard <| install id
          return .ok id
      | .error failure => return .error failure

def inCurrent
    {α : Type}
    (action : SessionEvaluator → SessionAction (Except Failure α)) :
    WorldAction (Except Failure α) := do
  match ← currentSession with
  | .ok id => inSession id action
  | .error failure => return .error failure

/-! ## Failures -/

def dropFailure (failure : Failure) : WorldAction Unit :=
  match failure.scope? with
  | some id => inSession id fun _ => Session.dropFailure failure
  | none => return ()

/-- Ends the life of a result. -/
def dropResult {α : Type} : Except Failure α → WorldAction Unit
  | .ok _ => return ()
  | .error failure => dropFailure failure

/-- A failure that is kept without keeping its session in error. -/
def detach (failure : Failure) : WorldAction Failure := do
  dropFailure failure
  return failure.detached

/-! ## Handles and guards -/

def unregisterHandle (handle : CallbackHandle) : WorldAction (Except Failure Unit) :=
  inSession handle.session fun eval => Session.unregister eval handle.name

/-- Drops a handle. A failure to end its registration concerns nobody. -/
def dropHandle (handle : CallbackHandle) : WorldAction Unit := do
  dropResult (← unregisterHandle handle)

def dropGuard (linkGuard : LinkGuard) : WorldAction Unit :=
  inSession linkGuard.session fun _ => Session.dropGuard linkGuard

end World

/-! ## The host while a session is at work -/

namespace Session

/-- The session that was running goes on where the host has stopped. -/
def resumeFrom
    {α : Type}
    (running : SessionId)
    (result : Except Unfinished α × World) : SessionAction α :=
  match result.2.sessions[running]? with
  | none => throw .unfinished
  | some session => do
      Action.putMachine (result.2.machineOf running session)
      match result.1 with
      | .ok value => return value
      | .error _ => throw .unfinished

/-- Lets the host act in the midst of a session, which is back at work afterwards. -/
def outside
    {α : Type}
    (eval : SessionEvaluator)
    (action : WorldAction α) : SessionAction α := do
  let machine ← get
  resumeFrom machine.host.running (action.outcome eval (.ofMachine machine))

end Session

end ScriptBridge
