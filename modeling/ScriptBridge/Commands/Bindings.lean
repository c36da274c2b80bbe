import ScriptBridge.Commands.Widgets

/-!
# Bindings and generated events

A binding is a script that waits for an event on a widget, on a class of widgets, or on all. When
the event is generated, fields such as `%x` in the script are replaced by the data of the event,
each as one list element.
-/

namespace ScriptBridge.Commands

variable {Key Host : Type}

open ScriptBridge.Action

/-! ## Bindings -/

def extendedBinding (old : Option String) (more : String) : String :=
  match old with
  | none => more
  | some old => if old.isEmpty then more else old ++ "\n" ++ more

/-- The table after a script is bound: an empty one removes the binding, and one that starts with a
plus sign is added to it. -/
def bindScript (table : WidgetTable) (key : BindingKey) (script : String) : WidgetTable :=
  match script.toList with
  | [] => table.unbind key
  | '+' :: more =>
      table.bind key (extendedBinding (table.binding? key) (String.ofList more))
  | _ => table.bind key script

def bind : List String → Action Key Host String
  | [tag] => do return ListText.format ((← getWidgets).sequences tag)
  | [tag, sequence] => do return ((← getWidgets).binding? ⟨tag, sequence⟩).getD ""
  | [tag, sequence, script] => do
      modifyWidgets (bindScript · ⟨tag, sequence⟩ script)
      return ""
  | _ => wrongUsage "bind window ?pattern? ?command?"

/-! ## Events -/

abbrev EventFields := List (Char × String)

/-- The options that carry the data of an event, with the letters of their fields. -/
def eventOptions : List (String × Char) := [
  ("-x", 'x'), ("-y", 'y'), ("-rootx", 'X'), ("-rooty", 'Y'), ("-button", 'b'), ("-keysym", 'K'),
  ("-keycode", 'k'), ("-width", 'w'), ("-height", 'h'), ("-delta", 'D'), ("-data", 'd'),
  ("-state", 's')]

def eventFields (path : String) (options : List (String × String)) : EventFields :=
  options.foldl
    (fun fields option =>
      match eventOptions.lookup option.1 with
      | some letter => (letter, option.2) :: fields
      | none => fields)
    [('W', path)]

/-- A script with its fields replaced; a field that the event does not have becomes `??`. -/
def replaceFields (fields : EventFields) : List Char → List Char
  | [] => []
  | ['%'] => ['%']
  | '%' :: '%' :: rest => '%' :: replaceFields fields rest
  | '%' :: letter :: rest =>
      let value := match fields.lookup letter with
        | some value => (ListText.format [value]).toList
        | none => ['?', '?']
      value ++ replaceFields fields rest
  | c :: rest => c :: replaceFields fields rest

def runBindings
    (eval : Evaluator Key Host)
    (sequence : String)
    (fields : EventFields) : List String → Action Key Host String
  | [] => return ""
  | tag :: tags => do
      match (← getWidgets).binding? ⟨tag, sequence⟩ with
      | none => runBindings eval sequence fields tags
      | some script =>
          let text := String.ofList (replaceFields fields script.toList)
          match ← attempt (eval.script text) with
          | .ok _ => runBindings eval sequence fields tags
          | .error .continued => runBindings eval sequence fields tags
          | .error .broke => return ""
          | .error other => throw other

def event (eval : Evaluator Key Host) : List String → Action Key Host String
  | "generate" :: path :: sequence :: arguments => do
      match (← getWidgets).get? path with
      | none => badPath path
      | some widget =>
          let options ← orFail OptionFault.message (optionPairs arguments)
          runBindings eval sequence (eventFields path options) [path, widget.className, "all"]
  | _ => wrongUsage "event generate window event ?-option value ...?"

end ScriptBridge.Commands
