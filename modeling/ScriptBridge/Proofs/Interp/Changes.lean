import Mathlib.Logic.Relation
import ScriptBridge.Commands.Bindings

/-!
# What commands change

Beside evaluating scripts, commands change a machine in few ways: they set and unset variables,
enter commands into the table, take them out and rename them, record widgets, queue events, wait,
print, and end the program. All that is true of each of these changes is true of whatever commands
do.
-/

namespace ScriptBridge

variable {Key Host : Type}

/-! ## The table of commands -/

namespace Machine

variable {machine after : Machine Key Host} {release : Release Key Host} {name : String}

/-- A command that is taken out was there. -/
theorem eq_of_removeCommand
    (removed : machine.removeCommand release name = .ok after) :
    ∃ old, machine.interp.commands[Name.key name]? = some old ∧
      after = Machine.released
        { machine with
          interp := { machine.interp with
            commands := machine.interp.commands.erase (Name.key name) } }
        release (some old) := by
  unfold removeCommand at removed
  dsimp only at removed
  split at removed
  · cases removed
  · rename_i old found
    exact ⟨old, found, (Except.ok.inj removed).symm⟩

/-- A command that gets another name was there, and the name was free; without a name it is taken
out. -/
theorem eq_of_renameCommand
    {new : String}
    (renamed : machine.renameCommand release name new = .ok after) :
    machine.removeCommand release name = .ok after ∨
      ∃ command, machine.interp.commands[Name.key name]? = some command ∧
        machine.interp.commands[Name.key new]? = none ∧
        after = { machine with
          interp := { machine.interp with
            commands :=
              (machine.interp.commands.erase (Name.key name)).insert (Name.key new) command } } := by
  unfold renameCommand at renamed
  split at renamed
  · exact .inl renamed
  · dsimp only at renamed
    split at renamed
    · cases renamed
    · rename_i notThere
      split at renamed
      · cases renamed
      · rename_i command found
        have free := Std.TreeMap.getElem?_eq_none_of_contains_eq_false
          (Bool.eq_false_iff.mpr notThere)
        exact .inr ⟨command, found, free, (Except.ok.inj renamed).symm⟩

end Machine

/-! ## Widgets -/

/-- One change of the recorded widgets. -/
inductive WidgetTable.Change (table : WidgetTable) : WidgetTable → Prop
  | created
      {path parent : String}
      (widget : Widget)
      (within : Path.parent? path = some parent)
      (known : table.contains parent = true)
      (free : table.contains path = false) :
      Change table (table.insert path widget)
  | modified (path : String) (change : Widget → Widget) : Change table (table.modify path change)
  /-- A widget goes with all that lies in it. -/
  | destroyed
      {path : String}
      (known : table.contains path = true) :
      Change table ((table.paths.filter (Path.isWithin path)).foldl remove table)
  | focused {path : String} (known : table.contains path = true) :
      Change table { table with focus := some path }
  | titled (title : String) : Change table { table with title }
  | shaped (geometry : String) : Change table { table with geometry }
  | bound (key : BindingKey) (script : String) :
      Change table (Commands.bindScript table key script)

abbrev WidgetTable.Changes : WidgetTable → WidgetTable → Prop :=
  Relation.ReflTransGen Change

/-! ## Queued events -/

/-- One change of the queued events. -/
inductive EventQueue.Change (queue : EventQueue) : EventQueue → Prop
  | scheduled (due : Option Nat) (script : String) : Change queue (queue.schedule due script).2
  | cancelled (id : Nat) : Change queue (queue.cancel id)
  | started {event : Event} (next : queue.next? = some event) : Change queue (queue.start event)

abbrev EventQueue.Changes : EventQueue → EventQueue → Prop :=
  Relation.ReflTransGen Change

/-! ## Machines -/

namespace Machine

def withStore (machine : Machine Key Host) (store : VariableStore) : Machine Key Host :=
  { machine with interp := { machine.interp with store } }

def withWidgets (machine : Machine Key Host) (widgets : WidgetTable) : Machine Key Host :=
  { machine with interp := { machine.interp with widgets } }

def withQueue (machine : Machine Key Host) (queue : EventQueue) : Machine Key Host :=
  { machine with interp := { machine.interp with queue } }

/-- The machine with one line more printed. -/
def printed (machine : Machine Key Host) (line : String) : Machine Key Host :=
  { machine with interp := { machine.interp with output := machine.interp.output.push line } }

def ended (machine : Machine Key Host) (code : Int32) : Machine Key Host :=
  { machine with interp := { machine.interp with exitCode := some code } }

/-- One change of a machine by a command. -/
inductive Change (release : Release Key Host) (machine : Machine Key Host) :
    Machine Key Host → Prop
  | written
      {name value text : String}
      {store : VariableStore}
      {cells : Cells}
      (wrote : machine.interp.store.set machine.cells name value = .ok (text, store, cells)) :
      Change release machine { machine.withStore store with cells }
  | unset
      {name : String}
      {store : VariableStore}
      (unset : machine.interp.store.unset? name = some store) :
      Change release machine (machine.withStore store)
  | declared (names : List String) :
      Change release machine
        (machine.withStore (names.foldl VariableStore.declareGlobal machine.interp.store))
  /-- Only the host itself enters commands of the host. -/
  | defined
      (name : String)
      {command : Command Key}
      (noHost : ∀ key, command ≠ .host key) :
      Change release machine (machine.define release name command)
  | removed
      {name : String}
      {after : Machine Key Host}
      (removed : machine.removeCommand release name = .ok after) :
      Change release machine after
  | renamed
      {old new : String}
      {after : Machine Key Host}
      (renamed : machine.renameCommand release old new = .ok after) :
      Change release machine after
  | shown
      {widgets : WidgetTable}
      (changed : machine.interp.widgets.Change widgets) :
      Change release machine (machine.withWidgets widgets)
  | queued
      {queue : EventQueue}
      (changed : machine.interp.queue.Change queue) :
      Change release machine (machine.withQueue queue)
  | waited
      {clock : Nat}
      (later : machine.clock ≤ clock) :
      Change release machine { machine with clock }
  | printed (line : String) : Change release machine (machine.printed line)
  | ended (code : Int32) : Change release machine (machine.ended code)

/-- What commands may make of a machine, change by change. -/
abbrev Changes (release : Release Key Host) :
    Machine Key Host → Machine Key Host → Prop :=
  Relation.ReflTransGen (Change release)

section Hosts

variable {before after : Machine Key Host} {release : Release Key Host}

theorem host_released
    {Seen : Type}
    {seen : Host → Seen}
    (released : ∀ key host, seen (release key host) = seen host)
    (machine : Machine Key Host)
    (old : Option (Command Key)) :
    seen (machine.released release old).host = seen machine.host := by
  cases old with
  | none => rfl
  | some command =>
      cases command with
      | host key => exact released key machine.host
      | builtin | procedure | widget => rfl

/-- Commands change the state of a host by nothing but releasing commands of the host. -/
theorem Change.host_eq
    {Seen : Type}
    (change : Change release before after)
    (seen : Host → Seen)
    (released : ∀ key host, seen (release key host) = seen host) :
    seen after.host = seen before.host := by
  cases change with
  | defined name noHost => exact host_released released _ _
  | removed removed =>
      obtain ⟨old, -, rfl⟩ := eq_of_removeCommand removed
      exact host_released released _ _
  | renamed renamed =>
      obtain removed | ⟨command, -, -, rfl⟩ := eq_of_renameCommand renamed
      · obtain ⟨old, -, rfl⟩ := eq_of_removeCommand removed
        exact host_released released _ _
      · rfl
  | written | unset | declared | shown | queued | waited | printed | ended => rfl

theorem Changes.host_eq
    {Seen : Type}
    (changes : Changes release before after)
    (seen : Host → Seen)
    (released : ∀ key host, seen (release key host) = seen host) :
    seen after.host = seen before.host := by
  induction changes with
  | refl => rfl
  | tail _ change inductionHypothesis =>
      exact (change.host_eq seen released).trans inductionHypothesis

end Hosts

end Machine

end ScriptBridge
