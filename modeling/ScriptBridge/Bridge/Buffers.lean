import ScriptBridge.Bridge.World

/-!
# Command buffers

A command collects text until its result is needed; then it is submitted, once, and the result
kept. One that nobody reads is submitted when its last owner gives it up, unless its session is
reporting an error at that moment.
-/

namespace ScriptBridge

/-! ## Changes -/

namespace CommandBuffer

/-- The command with text behind what there is and in front of the suffix, unless it has been
submitted. -/
def appended (text : String) (buffer : CommandBuffer) : CommandBuffer :=
  if buffer.invoked then buffer else { buffer with base := buffer.base ++ text }

/-- The command with text in front, unless it has been submitted. -/
def prepended (text : String) (buffer : CommandBuffer) : CommandBuffer :=
  if buffer.invoked then buffer else { buffer with base := text ++ buffer.base }

/-- The command once it is submitted, or its text taken over. -/
def closed (buffer : CommandBuffer) : CommandBuffer :=
  { buffer with invoked := true }

def answered (result : String) (buffer : CommandBuffer) : CommandBuffer :=
  { buffer with result }

def owned (owners : Nat) (buffer : CommandBuffer) : CommandBuffer :=
  { buffer with owners }

end CommandBuffer

namespace CommandTable

def noted (table : CommandTable) (event : CommandEvent) : CommandTable :=
  { table with history := event :: table.history }

def changed
    (table : CommandTable)
    (id : BufferId)
    (change : CommandBuffer → CommandBuffer) : CommandTable :=
  { table with buffers := table.buffers.modify id change }

def added (table : CommandTable) (buffer : CommandBuffer) : CommandTable :=
  { table with
    buffers := table.buffers.insert table.nextId buffer
    nextId := table.nextId + 1 }

def removed (table : CommandTable) (id : BufferId) : CommandTable :=
  { table with buffers := table.buffers.erase id }

end CommandTable

namespace World

/-! ## Access -/

def modifyCommands (change : CommandTable → CommandTable) : WorldAction Unit :=
  modify fun world => { world with commands := change world.commands }

def note (event : CommandEvent) : WorldAction Unit :=
  modifyCommands (·.noted event)

def modifyBuffer (id : BufferId) (change : CommandBuffer → CommandBuffer) : WorldAction Unit :=
  modifyCommands (·.changed id change)

/-- A command, whether it has owners or not. One that does not exist does nothing, without end. -/
def peekBuffer (id : BufferId) : WorldAction CommandBuffer := do
  match (← get).commands.buffers[id]? with
  | some buffer => return buffer
  | none => throw .unfinished

/-- A command that has an owner. One without does nothing, without end. -/
def getBuffer (id : BufferId) : WorldAction CommandBuffer := do
  let buffer ← peekBuffer id
  if 0 < buffer.owners then return buffer else throw .unfinished

def newBuffer (buffer : CommandBuffer) : WorldAction BufferId := do
  let id := (← get).commands.nextId
  modifyCommands fun table => (table.added buffer).noted (.made id buffer.session)
  return id

/-! ## Text -/

def commandText (id : BufferId) : WorldAction String :=
  return (← getBuffer id).text

def append (id : BufferId) (text : String) : WorldAction Unit := do
  let _ ← getBuffer id
  modifyBuffer id (·.appended text)

def prepend (id : BufferId) (text : String) : WorldAction Unit := do
  let _ ← getBuffer id
  modifyBuffer id (·.prepended text)

/-- Takes over the text of another command, which will not be submitted any more. -/
def absorb (id other : BufferId) : WorldAction Unit := do
  let buffer ← getBuffer id
  let donor ← getBuffer other
  if id = other ∨ donor.invoked then
    return ()
  else
    modifyCommands fun table =>
      ((table.changed other (·.closed)).changed id (·.appended donor.text)).noted
        (.absorbed other id donor.text !buffer.invoked)

/-! ## Submission -/

/-- The session that a command goes to. -/
def sessionOf (buffer : CommandBuffer) : WorldAction (Except Failure SessionId) :=
  match buffer.session with
  | some id => return .ok id
  | none => currentSession

def closeBuffer (id : BufferId) (text : String) : WorldAction Unit :=
  modifyCommands fun table => (table.changed id (·.closed)).noted (.sealed id text)

def submitTo
    (id : BufferId)
    (session : SessionId)
    (text : String) : WorldAction (Except Failure String) := do
  note (.submitted id session text)
  inSession session fun eval => Session.evaluate eval text

/-- Keeps what the evaluation of a command has ended with. -/
def keepAnswer (id : BufferId) : Except Failure String → WorldAction (Except Failure Unit)
  | .error failure => do
      note (.answered id none)
      return .error failure
  | .ok result => do
      modifyCommands fun table =>
        (table.changed id (·.answered result)).noted (.answered id (some result))
      return .ok ()

/-- Submits a command that is closed. -/
def submitSealed (id : BufferId) (buffer : CommandBuffer) : WorldAction (Except Failure Unit) := do
  match ← sessionOf buffer with
  | .error failure => do
      note (.stranded id)
      return .error failure
  | .ok session => do
      let answer ← submitTo id session buffer.text
      keepAnswer id answer

def submitOnce (id : BufferId) (buffer : CommandBuffer) : WorldAction (Except Failure Unit) := do
  closeBuffer id buffer.text
  submitSealed id buffer

/-- Submits a command unless that has happened. -/
def evaluateOnce (id : BufferId) : WorldAction (Except Failure Unit) := do
  let buffer ← getBuffer id
  note (.asked id)
  if buffer.invoked then
    return .ok ()
  else
    submitOnce id buffer

/-- The result of a command, unless its submission has failed. -/
def readResult (id : BufferId) : Except Failure Unit → WorldAction (Except Failure String)
  | .error failure => return .error failure
  | .ok _ => do return .ok (← getBuffer id).result

/-- Submits a command if needed and returns its result. -/
def evaluateText (id : BufferId) : WorldAction (Except Failure String) := do
  let outcome ← evaluateOnce id
  readResult id outcome

/-! ## Owners -/

def share (id : BufferId) : WorldAction Unit := do
  let _ ← getBuffer id
  modifyBuffer id fun buffer => buffer.owned (buffer.owners + 1)

def failuresAlive (id : SessionId) : WorldAction Nat := do
  match (← get).sessions[id]? with
  | some session => return session.state.failuresAlive
  | none => return 0

/-- How many failures are alive in the session that a command is bound to. -/
def failuresOf (buffer : CommandBuffer) : WorldAction Nat :=
  match buffer.session with
  | some session => failuresAlive session
  | none => return 0

def disown (id : BufferId) : WorldAction Unit :=
  modifyCommands fun table => (table.changed id (·.owned 0)).noted (.left id)

def forget (id : BufferId) : WorldAction Unit :=
  modifyCommands (·.removed id)

/-- Submits a command that nobody owns any more, unless its session reports an error. -/
def submitUnread (id : BufferId) (session : SessionId) : WorldAction Unit := do
  let buffer ← peekBuffer id
  let failures ← failuresAlive session
  note (.dropped id false failures)
  if 0 < failures then
    return ()
  else
    match ← submitOnce id buffer with
    | .ok _ => return ()
    | .error failure => do
        dropFailure failure
        inSession session fun _ => Session.recordDeferred failure

/-- Gives up a command that nobody owns any more. -/
def giveUp (id : BufferId) (buffer : CommandBuffer) : WorldAction Unit := do
  if buffer.invoked then
    let failures ← failuresOf buffer
    note (.dropped id true failures)
  else
    match ← sessionOf buffer with
    | .ok session => submitUnread id session
    | .error failure => do
        note (.stranded id)
        dropFailure failure

/-- Takes an owner away. With the last one the command is given up. -/
def release (id : BufferId) : WorldAction Unit := do
  let buffer ← getBuffer id
  if 1 < buffer.owners then
    modifyBuffer id fun buffer => buffer.owned (buffer.owners - 1)
  else
    disown id
    giveUp id buffer
    forget id

/-! ## Requests -/

/-- Looks at the text of a command, and notes what was seen. -/
def lookAtCommand (id : BufferId) : WorldAction String := do
  let text ← commandText id
  note (.looked id text)
  return text

/-- Has a command evaluated, and notes that. -/
def askCommand (id : BufferId) : WorldAction (Except Failure Unit) := do
  let outcome ← evaluateOnce id
  note (.evaluated id)
  return outcome

def noteReread
    (id : BufferId)
    (invoked : Bool)
    (answer : Except Failure String) : WorldAction Unit :=
  if invoked then note (.reread id answer) else return ()

/-- Reads a command, and notes the answer if there was nothing left to submit. -/
def readCommand (id : BufferId) : WorldAction (Except Failure String) := do
  let buffer ← getBuffer id
  let answer ← evaluateText id
  note (.evaluated id)
  noteReread id buffer.invoked answer
  return answer

def noteReleased (id : BufferId) (buffer : CommandBuffer) (failures : Nat) : WorldAction Unit :=
  if buffer.owners ≤ 1 ∧ buffer.session.isSome = true then
    note (.released id buffer.invoked failures)
  else
    return ()

/-- Takes an owner away, and notes it if that was the last one of a command that is bound to a
session. -/
def leaveCommand (id : BufferId) : WorldAction Unit := do
  let buffer ← getBuffer id
  let failures ← failuresOf buffer
  release id
  noteReleased id buffer failures

/-- A command as diagnostics show it. -/
def showBuffer (buffer : CommandBuffer) : String :=
  "Command \x7b text: " ++ buffer.text ++ ", invoked: " ++
    (if buffer.invoked then "true" else "false") ++ " \x7d"

end World

end ScriptBridge
