import ScriptBridge.Interp.Action

/-!
# Commands on variables
-/

namespace ScriptBridge.Commands

variable {Key Host : Type}

open ScriptBridge.Action

def set : List String → Action Key Host String
  | [name] => readVariable name
  | [name, value] => writeVariable name value
  | _ => wrongUsage "set varName ?newValue?"

/-- Removes variables; a name that is none is an error only if `complain` says so. -/
def unsetAll (complain : Bool) : List String → Action Key Host String
  | [] => return ""
  | name :: names => do
      match (← get).unsetVariable name with
      | .ok machine => putMachine machine
      | .error message => if complain then fail message
      unsetAll complain names

def unset : List String → Action Key Host String
  | "-nocomplain" :: names => unsetAll false names
  | names => unsetAll true names

/-- Adds to a variable; one that is not set counts as zero. -/
def incr (arguments : List String) : Action Key Host String :=
  match arguments with
  | [name] => add name 1
  | [name, amount] => do add name (← intOf amount)
  | _ => wrongUsage "incr varName ?increment?"
where
  add (name : String) (amount : Int64) : Action Key Host String := do
    let current ←
      match ← valueOf? name with
      | some value => intOf value
      | none => pure 0
    writeVariable name (Numeral.formatWord (current + amount))

/-- Puts texts behind the value of a variable; one that is not set counts as empty. -/
def append : List String → Action Key Host String
  | [] => wrongUsage "append varName ?value ...?"
  | name :: parts => do
      let value := (← valueOf? name).getD ""
      writeVariable name (parts.foldl (· ++ ·) value)

def lappend : List String → Action Key Host String
  | [] => wrongUsage "lappend varName ?value ...?"
  | name :: values => do
      let items ←
        match ← valueOf? name with
        | some value => listOf value
        | none => pure []
      writeVariable name (ListText.format (items ++ values))

def globals (names : List String) : Action Key Host String := do
  modifyInterp fun interp =>
    { interp with store := names.foldl VariableStore.declareGlobal interp.store }
  return ""

end ScriptBridge.Commands
