import ScriptBridge.Interp.Name
import ScriptBridge.Numeral.Decimal
import Std.Data.TreeMap

/-!
# Variables

A variable is local to a procedure call or global. A global one may be linked: a numeric link keeps
its value in a cell of the host, a text link in a buffer of the interpreter.
-/

namespace ScriptBridge

/-! ## Cells of the host -/

/-- The numeric cells of the host, which links read and write. -/
structure Cells where
  ints : Std.TreeMap Nat Int64 := {}
  floats : Std.TreeMap Nat Float := {}

namespace Cells

/-- The value of an integer cell; a new cell holds zero. -/
def int (cells : Cells) (cell : Nat) : Int64 :=
  cells.ints.getD cell 0

/-- The value of a floating-point cell; a new cell holds zero. -/
def float (cells : Cells) (cell : Nat) : Float :=
  cells.floats.getD cell 0.0

def setInt (cells : Cells) (cell : Nat) (value : Int64) : Cells :=
  { cells with ints := cells.ints.insert cell value }

def setFloat (cells : Cells) (cell : Nat) (value : Float) : Cells :=
  { cells with floats := cells.floats.insert cell value }

end Cells

/-! ## Links -/

/-- Where a linked variable has its value. -/
inductive Link where
  | int (cell : Nat)
  | float (cell : Nat)
  | text (buffer : String)

namespace Link

def read (cells : Cells) : Link → String
  | int cell => Numeral.formatWord (cells.int cell)
  | float cell => Numeral.formatFloat (cells.float cell)
  | text buffer => buffer

/-- Writes a linked variable, which `name` calls in a fault. A numeric link takes only the text of a
number of its kind. -/
def write (link : Link) (cells : Cells) (name value : String) : Except String (Link × Cells) :=
  match link with
  | int cell =>
      match Numeral.readWord? value with
      | some number => .ok (link, cells.setInt cell number)
      | none => .error ("can't set \"" ++ name ++ "\": variable must have integer value")
  | float cell =>
      match Numeral.readFloat? value with
      | some number => .ok (link, cells.setFloat cell number)
      | none => .error ("can't set \"" ++ name ++ "\": variable must have real value")
  | text _ => .ok (text value, cells)

end Link

/-! ## Frames -/

/-- The variables of one procedure call, and the names it has declared global. -/
structure Frame where
  locals : Std.TreeMap String String := {}
  declared : List String := []

/-- All variables: the global ones, the frames of the calls in progress with the innermost first,
and the links by the name of their global variable. -/
structure VariableStore where
  globals : Std.TreeMap String String := {}
  frames : List Frame := []
  links : Std.TreeMap String Link := {}

namespace VariableStore

/-- The key of the global variable that a name means here; `none` if it means a local one. -/
def globalKey? (store : VariableStore) (name : String) : Option String :=
  if Name.isQualified name then
    some (Name.key name)
  else
    match store.frames with
    | [] => some name
    | frame :: _ => if frame.declared.contains name then some name else none

/-- The value of the global variable with this key. -/
def getGlobal? (store : VariableStore) (cells : Cells) (key : String) : Option String :=
  match store.links[key]? with
  | some link => some (link.read cells)
  | none => store.globals[key]?

def get? (store : VariableStore) (cells : Cells) (name : String) : Option String :=
  match store.globalKey? name with
  | some key => store.getGlobal? cells key
  | none => store.frames.head?.bind (·.locals[name]?)

def mapInnermost (store : VariableStore) (change : Frame → Frame) : VariableStore :=
  match store.frames with
  | [] => store
  | frame :: outer => { store with frames := change frame :: outer }

/-- What setting a variable gives: its text afterwards, and where it is kept. -/
abbrev Written := String × VariableStore × Cells

def set (store : VariableStore) (cells : Cells) (name value : String) : Except String Written :=
  match store.globalKey? name with
  | some key =>
      match store.links[key]? with
      | some link => do
          let (link, cells) ← link.write cells name value
          return (link.read cells, { store with links := store.links.insert key link }, cells)
      | none =>
          .ok (value, { store with globals := store.globals.insert key value }, cells)
  | none =>
      let set (frame : Frame) : Frame :=
        { frame with locals := frame.locals.insert name value }
      .ok (value, store.mapInnermost set, cells)

/-- Removes a variable, if there is one of the name. A linked variable counts as one and stays. -/
def unset? (store : VariableStore) (name : String) : Option VariableStore :=
  match store.globalKey? name with
  | some key =>
      if store.links.contains key then some store
      else if store.globals.contains key then
        some { store with globals := store.globals.erase key }
      else none
  | none =>
      if store.frames.head?.any (·.locals.contains name) then
        some (store.mapInnermost fun frame =>
          { frame with locals := frame.locals.erase name })
      else none

def declareGlobal (store : VariableStore) (name : String) : VariableStore :=
  store.mapInnermost fun frame => { frame with declared := name :: frame.declared }

/-! ## Links of global variables -/

/-- Links a global variable, whose plain value is given up; `none` if it is linked already. -/
def link? (store : VariableStore) (name : String) (link : Link) : Option VariableStore :=
  let key := Name.key name
  if store.links.contains key then none
  else
    some { store with
      globals := store.globals.erase key
      links := store.links.insert key link }

/-- Ends the link of a global variable, which keeps its value. -/
def unlink (store : VariableStore) (cells : Cells) (name : String) : VariableStore :=
  let key := Name.key name
  match store.links[key]? with
  | some link =>
      { store with
        links := store.links.erase key
        globals := store.globals.insert key (link.read cells) }
  | none => store

/-- Replaces the buffer of a text link; other variables have none. -/
def setBuffer (store : VariableStore) (name buffer : String) : VariableStore :=
  let key := Name.key name
  match store.links[key]? with
  | some (.text _) => { store with links := store.links.insert key (.text buffer) }
  | _ => store

def buffer? (store : VariableStore) (name : String) : Option String :=
  match store.links[Name.key name]? with
  | some (.text buffer) => some buffer
  | _ => none

end VariableStore

end ScriptBridge
