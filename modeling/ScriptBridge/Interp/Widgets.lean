import Std.Data.TreeMap

/-!
# Widgets

Widgets are recorded, not drawn: each has a class, its options, the text of an entry, and the
geometry manager that shows it. A widget's path names its parent: `.a.b` lies in `.a`, and `.a` in
the root window `.`.
-/

namespace ScriptBridge

/-! ## Classes -/

/-- The commands that create widgets, with the classes that they create. -/
def widgetClasses : List (String × String) := [
  ("button", "Button"), ("canvas", "Canvas"), ("checkbutton", "Checkbutton"), ("entry", "Entry"),
  ("frame", "Frame"), ("label", "Label"), ("labelframe", "Labelframe"), ("listbox", "Listbox"),
  ("menu", "Menu"), ("menubutton", "Menubutton"), ("message", "Message"),
  ("panedwindow", "Panedwindow"), ("radiobutton", "Radiobutton"), ("scale", "Scale"),
  ("scrollbar", "Scrollbar"), ("spinbox", "Spinbox"), ("text", "Text"), ("toplevel", "Toplevel")]

/-- The geometry managers; the root window has one of its own. -/
inductive Manager where
  | pack | grid | place | window
  deriving Repr, DecidableEq

def Manager.name : Manager → String
  | pack => "pack"
  | grid => "grid"
  | place => "place"
  | window => "wm"

structure Widget where
  className : String
  options : Std.TreeMap String String := {}
  /-- The content of an entry that has no variable of its own. -/
  entry : String := ""
  manager : Option Manager := none

/-! ## Paths -/

namespace Path

def beforeLastPoint : List Char → Option (List Char)
  | [] => none
  | c :: rest => if c = '.' then some rest else beforeLastPoint rest

/-- The path of the parent. The root window has none, nor has a path that starts no window name. -/
def parent? (path : String) : Option String :=
  match beforeLastPoint path.toList.reverse with
  | none => none
  | some [] => if path = "." then none else some "."
  | some before => some (String.ofList before.reverse)

def lastName (path : String) : String :=
  String.ofList (path.toList.reverse.takeWhile (· ≠ '.')).reverse

def isWithin (root path : String) : Bool :=
  path == root || path.startsWith (if root = "." then "." else root ++ ".")

end Path

/-! ## The table -/

/-- What a binding belongs to: a widget, a class or `all`, and the event it waits for. -/
structure BindingKey where
  tag : String
  sequence : String
  deriving Repr, DecidableEq

structure WidgetTable where
  widgets : Std.TreeMap String Widget
  bindings : List (BindingKey × String) := []
  focus : Option String := none
  title : String
  geometry : String

namespace WidgetTable

def rootWindow : Widget where
  className := "Toplevel"
  manager := some .window

def initial : WidgetTable where
  widgets := Std.TreeMap.ofList [(".", rootWindow)]
  title := "rtk"
  geometry := "200x200+0+0"

def get? (table : WidgetTable) (path : String) : Option Widget :=
  table.widgets[path]?

def contains (table : WidgetTable) (path : String) : Bool :=
  table.widgets.contains path

def insert (table : WidgetTable) (path : String) (widget : Widget) : WidgetTable :=
  { table with widgets := table.widgets.insert path widget }

def modify (table : WidgetTable) (path : String) (change : Widget → Widget) : WidgetTable :=
  match table.get? path with
  | some widget => table.insert path (change widget)
  | none => table

def option? (table : WidgetTable) (path option : String) : Option String :=
  (table.get? path).bind (·.options[option]?)

def paths (table : WidgetTable) : List String :=
  table.widgets.keys

def remove (table : WidgetTable) (path : String) : WidgetTable :=
  { table with
    widgets := table.widgets.erase path
    bindings := table.bindings.filter (·.1.tag != path)
    focus := if table.focus = some path then none else table.focus }

/-- The window that a widget lies in: the nearest top-level one from `path` upwards. The search
visits at most `bound` parents. -/
def topLevel (table : WidgetTable) : (bound : Nat) → (path : String) → String
  | 0, path => path
  | bound + 1, path =>
      match table.get? path with
      | some widget =>
          if path = "." || widget.className = "Toplevel" then path
          else table.topLevel bound ((Path.parent? path).getD ".")
      | none => path

/-! ## Bindings -/

def binding? (table : WidgetTable) (key : BindingKey) : Option String :=
  table.bindings.lookup key

def bind (table : WidgetTable) (key : BindingKey) (script : String) : WidgetTable :=
  { table with bindings := (key, script) :: table.bindings.filter (·.1 != key) }

def unbind (table : WidgetTable) (key : BindingKey) : WidgetTable :=
  { table with bindings := table.bindings.filter (·.1 != key) }

def sequences (table : WidgetTable) (tag : String) : List String :=
  ((table.bindings.filter (·.1.tag == tag)).map (·.1.sequence)).mergeSort
    fun first second => decide (first ≤ second)

end WidgetTable

end ScriptBridge
