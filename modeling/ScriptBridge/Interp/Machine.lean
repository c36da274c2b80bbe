import ScriptBridge.Interp.Builtin
import ScriptBridge.Interp.Events
import ScriptBridge.Interp.Variables
import ScriptBridge.Interp.Widgets

/-!
# The state of an interpreter

An interpreter has variables, a table of commands, queued events, widgets and the lines it has
printed. Commands may belong to the host: the state knows them only by a key, and the host has a
state of its own beside that of the interpreter.
-/

namespace ScriptBridge

/-! ## Commands -/

/-- A procedure. A last parameter named `args` takes all arguments that are left. -/
structure Procedure where
  parameters : List (String × Option String)
  body : String

/-- What a command does; `Key` is how the host names its own. -/
inductive Command (Key : Type) where
  | builtin (builtin : Builtin)
  | procedure (procedure : Procedure)
  | host (key : Key)
  | widget

/-- How deep invocations of commands may nest. -/
def maxDepth : Nat := 200

/-! ## Interpreters -/

structure Interp (Key : Type) where
  store : VariableStore := {}
  commands : Std.TreeMap String (Command Key)
  queue : EventQueue := {}
  widgets : WidgetTable := .initial
  /-- The lines printed and not yet taken, in order. -/
  output : Array String := #[]
  result : String := ""
  exitCode : Option Int32 := none
  /-- How many invocations of commands are in progress. -/
  depth : Nat := 0

namespace Interp

variable {Key : Type}

def initialCommands : Std.TreeMap String (Command Key) :=
  let creators := widgetClasses.map fun entry => (entry.1, Command.builtin .createWidget)
  let builtins := Builtin.table.map fun entry => (entry.1, Command.builtin entry.2)
  Std.TreeMap.ofList (creators ++ builtins ++ [(".", .widget)])

/-- A new interpreter: the built-in commands and the root window. -/
def initial : Interp Key where
  commands := initialCommands

def command? (interp : Interp Key) (name : String) : Option (Command Key) :=
  interp.commands[Name.key name]?

def commandNames (interp : Interp Key) : List String :=
  interp.commands.keys

def isProcedure (interp : Interp Key) (name : String) : Bool :=
  match interp.command? name with
  | some (.procedure _) => true
  | _ => false

end Interp

/-! ## Machines -/

/-- An interpreter and what is around it: the cells of the host, the clock in milliseconds, and the
state of the host. -/
structure Machine (Key Host : Type) where
  interp : Interp Key
  cells : Cells
  clock : Nat
  host : Host

/-- What the host does when one of its commands leaves the table. -/
abbrev Release (Key Host : Type) := Key → Host → Host

namespace Machine

variable {Key Host : Type}

def released
    (machine : Machine Key Host)
    (release : Release Key Host)
    (old : Option (Command Key)) : Machine Key Host :=
  match old with
  | some (.host key) => { machine with host := release key machine.host }
  | _ => machine

/-- Enters a command under a name; one that had the name leaves the table. -/
def define
    (machine : Machine Key Host)
    (release : Release Key Host)
    (name : String)
    (command : Command Key) : Machine Key Host :=
  let key := Name.key name
  let old := machine.interp.commands[key]?
  { machine with
    interp := { machine.interp with
      commands := machine.interp.commands.insert key command } }.released release old

def removeCommand
    (machine : Machine Key Host)
    (release : Release Key Host)
    (name : String) : Except String (Machine Key Host) :=
  let key := Name.key name
  match machine.interp.commands[key]? with
  | none => .error ("can't delete \"" ++ name ++ "\": command doesn't exist")
  | some old =>
      .ok <|
        { machine with
          interp := { machine.interp with
            commands := machine.interp.commands.erase key } }.released release (some old)

/-- Gives a command another name; the empty name takes it out of the table. -/
def renameCommand
    (machine : Machine Key Host)
    (release : Release Key Host)
    (old new : String) : Except String (Machine Key Host) :=
  if new.isEmpty then
    machine.removeCommand release old
  else
    let commands := machine.interp.commands
    if commands.contains (Name.key new) then
      .error ("can't rename to \"" ++ new ++ "\": command already exists")
    else
      match commands[Name.key old]? with
      | none => .error ("can't rename \"" ++ old ++ "\": command doesn't exist")
      | some command =>
          .ok { machine with
            interp := { machine.interp with
              commands := (commands.erase (Name.key old)).insert (Name.key new) command } }

/-! ## Variables -/

def valueOf? (machine : Machine Key Host) (name : String) : Option String :=
  machine.interp.store.get? machine.cells name

def readVariable (machine : Machine Key Host) (name : String) : Except String String :=
  match machine.valueOf? name with
  | some value => .ok value
  | none => .error ("can't read \"" ++ name ++ "\": no such variable")

/-- Sets a variable and returns its text afterwards. -/
def writeVariable
    (machine : Machine Key Host)
    (name value : String) : Except String (String × Machine Key Host) := do
  let (text, store, cells) ← machine.interp.store.set machine.cells name value
  return (text, { machine with interp := { machine.interp with store }, cells })

def unsetVariable
    (machine : Machine Key Host)
    (name : String) : Except String (Machine Key Host) :=
  match machine.interp.store.unset? name with
  | some store => .ok { machine with interp := { machine.interp with store } }
  | none => .error ("can't unset \"" ++ name ++ "\": no such variable")

def link
    (machine : Machine Key Host)
    (name : String)
    (link : Link) : Except String (Machine Key Host) :=
  match machine.interp.store.link? name link with
  | some store => .ok { machine with interp := { machine.interp with store } }
  | none => .error ("can't link \"" ++ name ++ "\": variable is already linked")

def unlink (machine : Machine Key Host) (name : String) : Machine Key Host :=
  { machine with
    interp := { machine.interp with
      store := machine.interp.store.unlink machine.cells name } }

def setBuffer (machine : Machine Key Host) (name buffer : String) : Machine Key Host :=
  { machine with
    interp := { machine.interp with store := machine.interp.store.setBuffer name buffer } }

def takeOutput (machine : Machine Key Host) : Array String × Machine Key Host :=
  (machine.interp.output, { machine with interp := { machine.interp with output := #[] } })

end Machine

end ScriptBridge
