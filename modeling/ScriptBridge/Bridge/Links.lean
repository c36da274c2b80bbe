import ScriptBridge.Bridge.Session

/-!
# Linked variables

A linked variable of the host has a generated name in the interpreter. Numbers are shared: both
sides read and write the same cell. A text has a buffer on the side of the interpreter, and two
passes copy all of them at once, one in each direction.
-/

namespace ScriptBridge

namespace LinkTable

def size (table : LinkTable) : Nat :=
  table.ints.size + table.floats.size + table.texts.size

def name? (table : LinkTable) : HostVariable → Option String
  | .int id => table.ints[id]?
  | .float id => table.floats[id]?
  | .text id => table.texts[id]?

def insert (table : LinkTable) (name : String) : HostVariable → LinkTable
  | .int id => { table with ints := table.ints.insert id name }
  | .float id => { table with floats := table.floats.insert id name }
  | .text id => { table with texts := table.texts.insert id name }

def erase (table : LinkTable) : HostVariable → LinkTable
  | .int id => { table with ints := table.ints.erase id }
  | .float id => { table with floats := table.floats.erase id }
  | .text id => { table with texts := table.texts.erase id }

end LinkTable

namespace Session

/-! ## Host variables -/

def getText (id : Nat) : SessionAction String :=
  return (← get).host.texts.getD id ""

def setText (id : Nat) (value : String) : SessionAction Unit :=
  modifyHost fun host => { host with texts := host.texts.insert id value }

def setInt (id : Nat) (value : Int64) : SessionAction Unit :=
  modify fun machine => { machine with cells := machine.cells.setInt id value }

def setFloat (id : Nat) (value : Float) : SessionAction Unit :=
  modify fun machine => { machine with cells := machine.cells.setFloat id value }

/-! ## Linking -/

def linkOf (target : HostVariable) : SessionAction Link :=
  match target with
  | .int id => return .int id
  | .float id => return .float id
  | .text id => do return .text (← getText id)

/-- Takes the next generated name. The number is used up even if linking then fails. -/
def nextVariableName : SessionAction String := do
  let session ← getState
  modifyState fun session =>
    { session with links := { session.links with nextId := session.links.nextId + 1 } }
  return session.settings.variableStem ++ toString session.links.nextId

/-- Links a variable and returns its name; one that is linked keeps its name. -/
def link (target : HostVariable) : SessionAction (Except Failure String) := do
  match (← getState).links.name? target with
  | some name => return .ok name
  | none =>
      let name ← nextVariableName
      match ← linkName name (← linkOf target) with
      | .ok _ =>
          modifyState fun session => { session with links := session.links.insert name target }
          return .ok name
      | .error message => return .error (← raise message)

def unlink (target : HostVariable) : SessionAction Unit := do
  match (← getState).links.name? target with
  | none => return ()
  | some name =>
      modifyState fun session => { session with links := session.links.erase target }
      unlinkName name

/-! ## Copying texts -/

def linkedTexts : SessionAction (List (Nat × String)) :=
  return (← getState).links.texts.toList

def syncToInterpreter : SessionAction Unit := do
  for (id, name) in ← linkedTexts do
    let value ← getText id
    modify (·.setBuffer name value)

/-- Copies the buffers of linked texts into the variables of the host. A missing buffer counts as
empty. -/
def syncToHost : SessionAction Unit := do
  for (id, name) in ← linkedTexts do
    setText id (((← Action.getInterp).store.buffer? name).getD "")

/-- The linked texts as they are on both sides. -/
def textCopies : SessionAction (List TextCopy) := do
  let machine ← get
  return (← linkedTexts).map fun (id, name) =>
    { id, buffer := machine.interp.store.buffer? name, text := machine.host.texts.getD id "" }

/-! ## Guards -/

/-- Links a variable until the guard is dropped. A link that exists already is left to its owner. -/
def linkScoped (target : HostVariable) : SessionAction (Except Failure LinkGuard) := do
  let host := (← get).host
  let owned := (host.session.links.name? target).isNone
  match ← link target with
  | .ok name => return .ok { session := host.running, target, name, owned }
  | .error failure => return .error failure

def dropGuard (linkGuard : LinkGuard) : SessionAction Unit := do
  if linkGuard.owned then
    unlink linkGuard.target

/-- Notes what an action has meant for guards. -/
def noting
    {α : Type}
    (action : SessionAction α)
    (events : α → List GuardEvent) : SessionAction α := do
  let value ← action
  modifyState fun session =>
    { session with
      links := { session.links with history := events value ++ session.links.history } }
  return value

def makeGuard (target : HostVariable) : SessionAction (Except Failure LinkGuard) :=
  noting (linkScoped target) fun result => result.toOption.toList.map .made

def giveUpGuard (linkGuard : LinkGuard) : SessionAction Unit :=
  noting (dropGuard linkGuard) fun _ => [.dropped linkGuard]

def endLink (target : HostVariable) : SessionAction Unit :=
  noting (unlink target) fun _ => [.unlinked target]

/-! ## Event loop -/

/-- Publishes linked texts and runs the event loop of the interpreter. -/
def runLoop (eval : SessionEvaluator) : SessionAction Unit := do
  syncToInterpreter
  runEventLoop eval

end Session

end ScriptBridge
