import ScriptBridge.Commands.Index

/-!
# Commands on lists
-/

namespace ScriptBridge.Commands

variable {Key Host : Type}

open ScriptBridge.Action

def list (arguments : List String) : Action Key Host String :=
  return ListText.format arguments

def llength : List String → Action Key Host String
  | [text] => do return toString (← listOf text).length
  | _ => wrongUsage "llength list"

def lindex : List String → Action Key Host String
  | [text] => return text
  | [text, index] => do
      let items ← listOf text
      return ((← Index.resolve index items.length).bind (items[·]?)).getD ""
  | _ => wrongUsage "lindex list ?index ...?"

/-- Texts joined with single spaces, without the blanks around each and without empty ones. -/
def concatenation (parts : List String) : String :=
  " ".intercalate <|
    (parts.map fun part => String.ofList (Text.trim part.toList)).filter (!·.isEmpty)

def concat (arguments : List String) : Action Key Host String :=
  return concatenation arguments

def join : List String → Action Key Host String
  | [text] => do return " ".intercalate (← listOf text)
  | [text, separator] => do return separator.intercalate (← listOf text)
  | _ => wrongUsage "join list ?joinString?"

end ScriptBridge.Commands
