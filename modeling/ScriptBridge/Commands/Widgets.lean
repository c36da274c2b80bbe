import ScriptBridge.Commands.Index
import ScriptBridge.Truth

/-!
# Commands on widgets

Widgets are created by a command for their class and then answer to a command of their own, named
by their path. Geometry managers mark widgets as shown.
-/

namespace ScriptBridge.Commands

variable {Key Host : Type}

open ScriptBridge.Action

/-! ## Arguments -/

def badPath {α : Type} (path : String) : Action Key Host α :=
  fail ("bad window path name \"" ++ path ++ "\"")

/-- Why arguments are no options with values. -/
inductive OptionFault where
  | unknown (argument : String)
  | valueMissing (option : String)
  deriving Repr, DecidableEq

def OptionFault.message : OptionFault → String
  | .unknown argument => "unknown option \"" ++ argument ++ "\""
  | .valueMissing option => "value for \"" ++ option ++ "\" missing"

def optionPairs : List String → Except OptionFault (List (String × String))
  | [] => .ok []
  | option :: rest =>
      if option.startsWith "-" then
        match rest with
        | [] => .error (.valueMissing option)
        | value :: rest => (optionPairs rest).map ((option, value) :: ·)
      else
        .error (.unknown option)

def insertOptions
    (table : Std.TreeMap String String)
    (options : List (String × String)) : Std.TreeMap String String :=
  options.foldl (fun table option => table.insert option.1 option.2) table

def getWidgets : Action Key Host WidgetTable :=
  return (← getInterp).widgets

/-! ## Creation -/

def createOfClass
    (eval : Evaluator Key Host)
    (className path : String)
    (arguments : List String) : Action Key Host String := do
  match Path.parent? path with
  | none => badPath path
  | some parent => do
      let options ← orFail OptionFault.message (optionPairs arguments)
      let table ← getWidgets
      if !table.contains parent then
        badPath path
      else if table.contains path then
        fail ("window name \"" ++ Path.lastName path ++ "\" already exists in parent")
      else
        modifyWidgets (·.insert path { className, options := insertOptions {} options })
        modify fun machine => machine.define eval.release path .widget
        return path

def createWidget
    (eval : Evaluator Key Host)
    (name : String)
    (arguments : List String) : Action Key Host String :=
  match widgetClasses.lookup name with
  | none => fail ("invalid command name \"" ++ name ++ "\"")
  | some className =>
      match arguments with
      | [] => wrongUsage (name ++ " pathName ?-option value ...?")
      | path :: arguments => createOfClass eval className path arguments

/-! ## Options -/

def option? (path option : String) : Action Key Host (Option String) :=
  return (← getWidgets).option? path option

/-- Lists the options of a widget, shows one, or sets some. -/
def configure (path : String) (arguments : List String) : Action Key Host String := do
  match (← getWidgets).get? path with
  | none => badPath path
  | some widget =>
      match arguments with
      | [] =>
          return ListText.format <|
            widget.options.toList.map fun option => ListText.format [option.1, option.2]
      | [option] => return ListText.format [option, widget.options.getD option ""]
      | _ => do
          let options ← orFail OptionFault.message (optionPairs arguments)
          modifyWidgets fun table =>
            table.modify path fun widget =>
              { widget with options := insertOptions widget.options options }
          return ""

/-! ## Activation -/

/-- The spelling that means the global variable of a name everywhere. -/
def globalSpelling (name : String) : String :=
  if Name.isQualified name then name else "::" ++ name

def updateVariable (path className name : String) : Action Key Host Unit := do
  let name := globalSpelling name
  match className with
  | "Checkbutton" => do
      let onValue := (← option? path "-onvalue").getD "1"
      let offValue := (← option? path "-offvalue").getD "0"
      let current := (← valueOf? name).getD ""
      discard <| writeVariable name (if current = onValue then offValue else onValue)
  | "Radiobutton" => do
      discard <| writeVariable name ((← option? path "-value").getD "")
  | _ => return ()

/-- Evaluates the script of a widget, if it has one. -/
def runWidgetScript (eval : Evaluator Key Host) (path : String) : Action Key Host String := do
  match ← option? path "-command" with
  | some script => if script.isEmpty then return "" else eval.script script
  | none => return ""

/-- Activates a widget: its variable is set, then its script evaluated. -/
def invokeWidget
    (eval : Evaluator Key Host)
    (path className : String) : Action Key Host String := do
  if (← option? path "-state") = some "disabled" then
    return ""
  else
    match ← option? path "-variable" with
    | some name => updateVariable path className name
    | none => pure ()
    runWidgetScript eval path

/-! ## Entries -/

/-- The content of an entry: its variable, or its own text if it has none. -/
def entryText (path : String) : Action Key Host String := do
  match ← option? path "-textvariable" with
  | some name => return (← valueOf? (globalSpelling name)).getD ""
  | none => return (((← getWidgets).get? path).map (·.entry)).getD ""

def setEntryText (path text : String) : Action Key Host Unit := do
  match ← option? path "-textvariable" with
  | some name => discard <| writeVariable (globalSpelling name) text
  | none => modifyWidgets (·.modify path fun widget => { widget with entry := text })

/-- The place in an entry that an argument means; places outside count as the end. -/
def entryPlace (argument : String) (length : Nat) : Action Key Host Nat :=
  return (← Index.resolve argument (length + 1)).getD length

/-- As `entryPlace`, but `end` means the place behind the last character. -/
def entryPlaceOrEnd (argument : String) (length : Nat) : Action Key Host Nat :=
  if argument = "end" then return length else entryPlace argument length

def insertIntoEntry (path : String) : List String → Action Key Host String
  | [index, text] => do
      let cs := (← entryText path).toList
      let place ← entryPlaceOrEnd index cs.length
      setEntryText path (String.ofList (cs.take place ++ text.toList ++ cs.drop place))
      return ""
  | _ => wrongUsage (path ++ " insert index text")

def deleteBetween (path first : String) (last : Option String) : Action Key Host String := do
  let cs := (← entryText path).toList
  let start ← entryPlace first cs.length
  let stop ←
    match last with
    | some last => entryPlaceOrEnd last cs.length
    | none => pure (min (start + 1) cs.length)
  let kept := if start < stop then cs.take start ++ cs.drop stop else cs
  setEntryText path (String.ofList kept)
  return ""

def deleteFromEntry (path : String) : List String → Action Key Host String
  | [first] => deleteBetween path first none
  | [first, last] => deleteBetween path first (some last)
  | _ => wrongUsage (path ++ " delete firstIndex ?lastIndex?")

/-! ## Widget commands -/

/-- Whether widgets of a class have text to edit. -/
def hasEntry (className : String) : Bool :=
  className = "Entry" || className = "Spinbox"

/-- The command of a widget. Subcommands with nothing to record do nothing. -/
def widgetCommand
    (eval : Evaluator Key Host)
    (path : String)
    (arguments : List String) : Action Key Host String := do
  match (← getWidgets).get? path with
  | none => fail ("invalid command name \"" ++ path ++ "\"")
  | some widget =>
      match arguments with
      | [] => wrongUsage (path ++ " option ?arg ...?")
      | "configure" :: arguments => configure path arguments
      | "config" :: arguments => configure path arguments
      | "cget" :: arguments =>
          match arguments with
          | [option] => do
              match ← option? path option with
              | some value => return value
              | none => fail ("unknown option \"" ++ option ++ "\"")
          | _ => wrongUsage (path ++ " cget option")
      | "invoke" :: _ => invokeWidget eval path widget.className
      | subcommand :: arguments =>
          if hasEntry widget.className then
            match subcommand with
            | "get" => entryText path
            | "insert" => insertIntoEntry path arguments
            | "delete" => deleteFromEntry path arguments
            | _ => return ""
          else
            return ""

/-! ## Geometry and lifetime -/

/-- The manager that a command of this name is; one renamed is the packer. -/
def managerOf : String → Manager
  | "grid" => .grid
  | "place" => .place
  | _ => .pack

def setManagers (manager : Option Manager) : List String → Action Key Host Unit
  | [] => return ()
  | path :: paths => do
      if (← getWidgets).contains path then
        modifyWidgets (·.modify path fun widget => { widget with manager })
        setManagers manager paths
      else
        badPath path

def manageWidgets
    (manager : Manager)
    (shown : Bool)
    (arguments : List String) : Action Key Host String := do
  let isPath (argument : String) : Bool := !argument.startsWith "-"
  let paths := arguments.takeWhile isPath
  let options := arguments.dropWhile isPath
  if paths.isEmpty then
    wrongUsage (manager.name ++ " option arg ?arg ...?")
  else
    if shown then
      discard <| orFail OptionFault.message (optionPairs options)
    setManagers (if shown then some manager else none) paths
    return ""

def manage (name : String) : List String → Action Key Host String
  | "forget" :: arguments => manageWidgets (managerOf name) false arguments
  | "configure" :: arguments => manageWidgets (managerOf name) true arguments
  | arguments => manageWidgets (managerOf name) true arguments

def removeCommands (eval : Evaluator Key Host) (names : List String) : Action Key Host Unit :=
  modify fun machine =>
    names.foldl
      (fun machine name =>
        match machine.removeCommand eval.release name with
        | .ok machine => machine
        | .error _ => machine)
      machine

/-- Destroys widgets with all that lies in them; the end of the root window ends the program. -/
def destroy (eval : Evaluator Key Host) : List String → Action Key Host String
  | [] => return ""
  | path :: paths => do
      let table ← getWidgets
      if table.contains path then
        let doomed := table.paths.filter (Path.isWithin path)
        modifyWidgets fun table => doomed.foldl WidgetTable.remove table
        removeCommands eval doomed
        if path = "." then
          setExitCode 0
      destroy eval paths

/-! ## Focus and windows -/

def focus : List String → Action Key Host String
  | [] => do return (← getWidgets).focus.getD ""
  | path :: _ => do
      if (← getWidgets).contains path then
        modifyWidgets ({ · with focus := some path })
        return ""
      else
        badPath path

/-- The title and the geometry of windows; other properties are taken and forgotten. -/
def wm : List String → Action Key Host String
  | property :: path :: values => do
      let table ← getWidgets
      if !table.contains path then
        badPath path
      else
        match property, values with
        | "title", [] => return table.title
        | "title", title :: _ => do
            modifyWidgets ({ · with title })
            return ""
        | "geometry", [] => return table.geometry
        | "geometry", geometry :: _ => do
            modifyWidgets ({ · with geometry })
            return ""
        | _, _ => return ""
  | _ => wrongUsage "wm option window ?arg ...?"

def winfo : List String → Action Key Host String
  | "exists" :: path :: _ => do return Truth.digit ((← getWidgets).contains path)
  | property :: path :: _ => do
      let table ← getWidgets
      match table.get? path with
      | none => badPath path
      | some widget =>
          match property with
          | "class" => return widget.className
          | "parent" => return (Path.parent? path).getD ""
          | "children" =>
              return ListText.format <|
                table.paths.filter fun child => Path.parent? child == some path
          | "toplevel" => return table.topLevel (path.length + 1) path
          | "ismapped" | "viewable" => return Truth.digit widget.manager.isSome
          | "manager" => return (widget.manager.map Manager.name).getD ""
          | _ =>
              fail <|
                "bad option \"" ++ property ++ "\": must be children, class, exists, ismapped, " ++
                "manager, parent, toplevel, or viewable"
  | _ => wrongUsage "winfo option ?arg ...?"

end ScriptBridge.Commands
