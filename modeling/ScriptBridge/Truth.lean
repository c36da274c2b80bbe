import ScriptBridge.Numeral.Integer

/-!
# Truth values as text

An integer is true if it is not zero; six words, in any letter case, name the two truth values.
-/

namespace ScriptBridge.Truth

/-- The truth value that a word names, in ASCII letters of any case. -/
def ofWord? (word : List Char) : Option Bool :=
  match String.ofList (word.map Char.toLower) with
  | "true" | "yes" | "on" => some true
  | "false" | "no" | "off" => some false
  | _ => none

def read? (text : String) : Option Bool :=
  match Numeral.readWord? text with
  | some value => some (value != 0)
  | none => ofWord? (Text.trim text.toList)

def digit (value : Bool) : String :=
  if value then "1" else "0"

end ScriptBridge.Truth
