/-!
# Events

Scripts that are to run later. Idle events run before all timers, timers in the order of their due
times, and among equals the one queued first.
-/

namespace ScriptBridge

/-- A queued script; `due` is `none` for an idle event. Times are milliseconds. -/
structure Event where
  id : Nat
  due : Option Nat
  script : String
  deriving Repr, DecidableEq

def Event.before (first second : Event) : Bool :=
  match first.due, second.due with
  | none, none => first.id < second.id
  | none, some _ => true
  | some _, none => false
  | some earlier, some later => earlier < later || (earlier == later && first.id < second.id)

def Event.isDue (event : Event) (now : Nat) : Bool :=
  match event.due with
  | none => true
  | some due => due ≤ now

/-- What can happen to queued events. -/
inductive QueueEvent where
  | queued (event : Event)
  | cancelled (id : Nat)
  /-- The event is taken to be run, while these stay queued. -/
  | started (event : Event) (left : List Event)
  deriving Repr, DecidableEq

/-- The events that are queued, and what has happened to all events, the latest first. Nothing that
is computed depends on the history. -/
structure EventQueue where
  events : List Event := []
  nextId : Nat := 0
  history : List QueueEvent := []
  deriving Repr, DecidableEq

namespace EventQueue

def schedule (queue : EventQueue) (due : Option Nat) (script : String) : Nat × EventQueue :=
  let event : Event := ⟨queue.nextId, due, script⟩
  (queue.nextId,
    { events := queue.events ++ [event]
      nextId := queue.nextId + 1
      history := .queued event :: queue.history })

def without (queue : EventQueue) (id : Nat) : List Event :=
  queue.events.filter (·.id != id)

def cancel (queue : EventQueue) (id : Nat) : EventQueue :=
  if queue.events.any (·.id == id) then
    { queue with events := queue.without id, history := .cancelled id :: queue.history }
  else
    queue

/-- Takes an event out of the queue to run it. -/
def start (queue : EventQueue) (event : Event) : EventQueue :=
  let left := queue.without event.id
  { queue with events := left, history := .started event left :: queue.history }

/-- The event that runs before all others of the list and `best`. -/
def earliest (best : Event) : List Event → Event
  | [] => best
  | event :: rest => earliest (if event.before best then event else best) rest

def next? (queue : EventQueue) : Option Event :=
  match queue.events with
  | [] => none
  | event :: rest => some (earliest event rest)

def names (queue : EventQueue) : List String :=
  queue.events.map fun event => "after#" ++ toString event.id

end EventQueue

end ScriptBridge
