import ScriptBridge.Bridge.Links

/-!
# Callbacks

A callback takes the next slot of its session and becomes a command with a generated name. The slot
is freed with the command, whichever goes first.
-/

namespace ScriptBridge

namespace CallbackTable

def noted (callbacks : CallbackTable) (event : CallbackEvent) : CallbackTable :=
  { callbacks with history := event :: callbacks.history }

/-- The callbacks with one more, in the next slot. -/
def taken (callbacks : CallbackTable) (callback : Callback) : CallbackTable where
  nextSlot := callbacks.nextSlot + 1
  slots := callbacks.slots.insert callbacks.nextSlot callback
  history := .taken callbacks.nextSlot :: callbacks.history

/-- The callbacks without the one in a slot, if there is one. -/
def freed (callbacks : CallbackTable) (slot : Nat) : CallbackTable :=
  { callbacks with
    slots := callbacks.slots.erase slot
    history :=
      if callbacks.slots.contains slot then .freed slot :: callbacks.history
      else callbacks.history }

end CallbackTable

def freeSlot (slot : Nat) (host : HostState) : HostState :=
  { host with
    session := { host.session with callbacks := host.session.callbacks.freed slot } }

namespace Session

def modifyCallbacks (change : CallbackTable → CallbackTable) : SessionAction Unit :=
  modifyState fun session => { session with callbacks := change session.callbacks }

/-! ## Registration -/

def takeSlot (callback : Callback) : SessionAction Nat := do
  let slot := (← getState).callbacks.nextSlot
  modifyCallbacks (·.taken callback)
  return slot

/-- Registers a callback and returns the name of its command. -/
def register
    (eval : SessionEvaluator)
    (callback : Callback) : SessionAction (Except Failure String) := do
  let slot ← takeSlot callback
  let name := (← getState).settings.callbackStem ++ toString slot
  match ← createCommand eval name slot with
  | .ok _ => return .ok name
  | .error message =>
      modifyHost (freeSlot slot)
      return .error (← raise message)

/-- The slot of a generated name. Only the spelling that the session generates counts, apart from
colons in front. -/
def slotOf? (settings : Settings) (name : String) : Option Nat :=
  match Index.dropStart? settings.callbackStem.toList (Name.dropQualifier name.toList) with
  | none => none
  | some digits =>
      let slot := Numeral.natOfDigits 10 digits
      if (toString slot).toList = digits then some slot else none

/-- Ends the registration behind a name and deletes its command. A name that is not registered is
ignored. -/
def unregister
    (eval : SessionEvaluator)
    (name : String) : SessionAction (Except Failure Unit) := do
  let session ← getState
  match slotOf? session.settings name with
  | none => return .ok ()
  | some slot =>
      if session.callbacks.slots.contains slot then
        modifyHost (freeSlot slot)
        match ← deleteCommand eval name with
        | .ok _ => return .ok ()
        | .error message => return .error (← raise message)
      else
        return .ok ()

end Session

end ScriptBridge
