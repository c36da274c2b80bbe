import ScriptBridge.Bridge.Expressions

/-!
# Running the programs of the host

A program runs in the world, one request after the other. When the command of a callback is
invoked, linked texts are copied to the host, the program of the callback runs in the midst of the
session, and if it succeeds the texts are copied back. So callbacks may do all that their host may
do, also with the session that has called them and with commands that are being submitted.
-/

namespace ScriptBridge

/-! ## Requests -/

namespace World

/-- The answer of a request that does not fail. -/
def always {α : Type} (action : WorldAction α) : WorldAction (Except Failure α) :=
  Except.ok <$> action

def getInt (id : Nat) : WorldAction Int64 :=
  return (← get).cells.int id

def setInt (id : Nat) (value : Int64) : WorldAction Unit :=
  modify fun world => { world with cells := world.cells.setInt id value }

def getFloat (id : Nat) : WorldAction Float :=
  return (← get).cells.float id

def setFloat (id : Nat) (value : Float) : WorldAction Unit :=
  modify fun world => { world with cells := world.cells.setFloat id value }

def getText (id : Nat) : WorldAction String :=
  return (← get).texts.getD id ""

def setText (id : Nat) (value : String) : WorldAction Unit :=
  modify fun world => { world with texts := world.texts.insert id value }

def perform : (request : Request) → WorldAction (Except Failure request.Value)
  | .openSession access settings => openSession access settings
  | .install session => always (install session)
  | .currentSession => currentSession
  | .evaluate session script => inSession session fun eval => Session.evaluate eval script
  | .lastResult session => always (inSession session fun _ => return (← Action.getInterp).result)
  | .setResult session value => always (inSession session fun _ => Action.setResult value)
  | .takeDeferred session => always (inSession session fun _ => Session.takeDeferred)
  | .takeOutput session => always (inSession session fun _ => Session.takeOutput)
  | .setDump session dump => always (inSession session fun _ => Session.setDump dump)
  | .inError session => always (inSession session fun _ => Session.inError)
  | .runLoop session => always (inSession session Session.runLoop)
  | .newCommand session text suffix => always (newBuffer { session, base := text, suffix })
  | .append command text => always (append command text)
  | .prepend command text => always (prepend command text)
  | .absorb command other => always (absorb command other)
  | .commandText command => always (commandText command)
  | .isInvoked command => always (return (← getBuffer command).invoked)
  | .evaluateOnce command => evaluateOnce command
  | .evaluateText command => evaluateText command
  | .share command => always (share command)
  | .release command => always (release command)
  | .combine left right => always (Expression.combine left right)
  | .prefixed word expression => always (Expression.prefixed word expression)
  | .unregister session name => inSession session fun eval => Session.unregister eval name
  | .unregisterHandle handle => unregisterHandle handle
  | .dropHandle handle => always (dropHandle handle)
  | .link session target => inSession session fun _ => Session.link target
  | .linkScoped session target => inSession session fun _ => Session.linkScoped target
  | .unlink session target => always (inSession session fun _ => Session.unlink target)
  | .dropGuard linkGuard => always (dropGuard linkGuard)
  | .syncToHost session => always (inSession session fun _ => Session.syncToHost)
  | .syncToInterpreter session => always (inSession session fun _ => Session.syncToInterpreter)
  | .getInt id => always (getInt id)
  | .setInt id value => always (setInt id value)
  | .getFloat id => always (getFloat id)
  | .setFloat id value => always (setFloat id value)
  | .getText id => always (getText id)
  | .setText id value => always (setText id value)

/-! ## Programs -/

/-- Performs a request of a program, and notes what it means for guards and for commands. -/
def answer : (request : Request) → WorldAction (Except Failure request.Value)
  | .commandText command => always (lookAtCommand command)
  | .evaluateOnce command => askCommand command
  | .evaluateText command => readCommand command
  | .release command => always (leaveCommand command)
  | .linkScoped session target => inSession session fun _ => Session.makeGuard target
  | .unlink session target => always (inSession session fun _ => Session.endLink target)
  | .dropGuard linkGuard =>
      always (inSession linkGuard.session fun _ => Session.giveUpGuard linkGuard)
  | request => perform request

def failuresIn {α : Type} : Except Failure α → List Failure
  | .ok _ => []
  | .error failure => [failure]

/-- A program has received failures. -/
def receive (failures : List Failure) : WorldAction Unit :=
  modify fun world => { world with held := failures ++ world.held }

/-- A failure is no longer in the hands of its program. -/
def letGo (failure : Failure) : WorldAction Unit :=
  modify fun world => { world with held := world.held.erase failure }

/-- Leaves a failure to the host. -/
def keep (failure : Failure) : WorldAction Unit := do
  letGo failure
  modify fun world => { world with kept := world.kept ++ [failure] }

/-- Takes over a failure that the host keeps. -/
def takeKept (index : Nat) : WorldAction (Option Failure) := do
  let taken := (← get).kept[index]?
  modify fun world => { world with kept := world.kept.eraseIdx index }
  receive taken.toList
  return taken

def dropFailures : List Failure → WorldAction Unit
  | [] => return ()
  | failure :: failures => do
      letGo failure
      dropFailure failure
      dropFailures failures

/-- Runs a program that has received failures, which are dropped at its end if they are still
alive. -/
def run (alive : List Failure) : HostProgram → WorldAction (Except String (Option String))
  | .finish result => do
      dropFailures alive
      return .ok result
  | .fail message => do
      dropFailures alive
      return .error message
  | .request request next => do
      let result ← answer request
      receive (failuresIn result)
      run (alive ++ failuresIn result) (next result)
  | .register session callback next => do
      let result ← inSession session fun eval =>
        Session.register eval fun parameters => callback parameters.words
      receive (failuresIn result)
      run (alive ++ failuresIn result) (next result)
  | .dropError index next => do
      dropFailures (alive[index]?.toList)
      run (alive.eraseIdx index) next
  | .detachError index next =>
      match alive[index]? with
      | none => run alive next
      | some failure => do
          letGo failure
          let detached ← detach failure
          receive [detached]
          run (alive.set index detached) next
  | .keepError index next =>
      match alive[index]? with
      | none => run alive next
      | some failure => do
          keep failure
          run (alive.eraseIdx index) next
  | .takeError index next => do
      let taken ← takeKept index
      run (alive ++ taken.toList) (next taken)

end World

/-! ## Calls -/

namespace Session

/-- Copies the linked texts to the host, where a callback is to start. -/
def enter (slot : Nat) : SessionAction Unit := do
  syncToHost
  let texts ← textCopies
  modifyCallbacks (·.noted (.started slot texts))

/-- Copies the linked texts back, where a callback has succeeded. -/
def leave (slot : Nat) : SessionAction Unit := do
  syncToInterpreter
  let texts ← textCopies
  modifyCallbacks (·.noted (.returned slot texts))

/-- Calls the callback in a slot. A slot without one fails, and nothing is copied. -/
def dispatch
    (eval : SessionEvaluator)
    (slot : Nat)
    (words : List String) : SessionAction String := do
  match (← getState).callbacks.slots[slot]? with
  | none => Action.fail Failure.unknownCallback.message
  | some callback =>
      enter slot
      match ← outside eval (World.run [] (callback ⟨words⟩)) with
      | .ok result => do
          leave slot
          return result.getD ""
      | .error message => Action.fail message

/-- The commands of a session: calls go to the callbacks, and a slot is freed with its command. -/
def hostCommands : HostCommands Nat HostState where
  call := dispatch
  release := freeSlot

/-- The evaluator of a session with a given amount of fuel. -/
def evaluatorOf (fuel : Nat) : SessionEvaluator :=
  evaluator hostCommands fuel

end Session

/-- A world in which sessions have been opened and nothing else has happened. -/
def World.opened
    (environment : Settings.Environment)
    (sessions : List (InterpAccess × Settings)) : World where
  environment := environment
  sessions := (sessions.map fun entry =>
    { interp := .initial, state := { access := entry.1, settings := entry.2 } }).toArray

namespace HostProgram

/-- What becomes of a world when a program runs in it, with an amount of fuel for evaluations. -/
def outcome
    (program : HostProgram)
    (fuel : Nat)
    (world : World) : Except Unfinished (Except String (Option String)) × World :=
  (World.run [] program).outcome (Session.evaluatorOf fuel) world

end HostProgram

end ScriptBridge
