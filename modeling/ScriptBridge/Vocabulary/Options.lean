import ScriptBridge.ListText
import ScriptBridge.Numeral.Decimal
import ScriptBridge.Vocabulary.Draft
import ScriptBridge.Vocabulary.Fields

/-!
# Options

Fragments that add an option to a command. A value is quoted, written as a list element, or put in
as it stands, whatever suits the option.
-/

namespace ScriptBridge.Options

/-! ## Quoting -/

def needsBackslash (c : Char) : Bool :=
  c = '\\' || c = '"' || c = '$' || c = '[' || c = ']'

def quoteChars (cs : List Char) : List Char :=
  cs.flatMap fun c => if needsBackslash c then ['\\', c] else [c]

/-- A text as it has to stand between quotes. -/
def quote (text : String) : String :=
  String.ofList (quoteChars text.toList)

/-! ## Kinds of options -/

/-- An option with its value in quotes. -/
def quoted (name value : String) : Draft :=
  .fragment (" -" ++ name ++ " \"" ++ quote value ++ "\"")

/-- An option with its value as it stands. -/
def bare (name value : String) : Draft :=
  .fragment (" -" ++ name ++ " " ++ value)

def integer (name : String) (value : Int64) : Draft :=
  bare name (Numeral.formatWord value)

def decimal (name : String) (value : Float) : Draft :=
  bare name (Numeral.formatFloat value)

def braced (name script : String) : Draft :=
  .fragment (" -" ++ name ++ " \x7b " ++ script ++ " \x7d")

/-- Any option; the value is one list element. -/
def opt (name value : String) : Draft :=
  .fragment (" -" ++ name ++ " " ++ ListText.element value)

def arg (value : String) : Draft :=
  .fragment (" " ++ ListText.element value)

/-! ## Text and appearance -/

def text (value : String) : Draft := quoted "text" value

def menuLabel (value : String) : Draft := quoted "label" value

def title (value : String) : Draft := quoted "title" value

def background (color : String) : Draft := quoted "background" color

def foreground (color : String) : Draft := quoted "foreground" color

def font (description : String) : Draft := quoted "font" description

def relief (style : String) : Draft := bare "relief" style

def state (value : String) : Draft := bare "state" value

def anchor (value : String) : Draft := bare "anchor" value

def justify (value : String) : Draft := bare "justify" value

/-! ## Geometry -/

def width (value : Int64) : Draft := integer "width" value

def height (value : Int64) : Draft := integer "height" value

def borderWidth (value : Int64) : Draft := integer "borderwidth" value

def padX (value : Int64) : Draft := integer "padx" value

def padY (value : Int64) : Draft := integer "pady" value

def row (value : Int64) : Draft := integer "row" value

def column (value : Int64) : Draft := integer "column" value

def side (value : String) : Draft := bare "side" value

def fill (value : String) : Draft := bare "fill" value

def sticky (value : String) : Draft := bare "sticky" value

def expand (value : Bool) : Draft := bare "expand" (if value then "1" else "0")

def lowest (value : Float) : Draft := decimal "from" value

def highest (value : Float) : Draft := decimal "to" value

/-! ## Scripts and variables -/

def command (script : String) : Draft := braced "command" script

/-- The command that validates the edits of an entry, with data of the edit as its arguments. -/
def validateCommand (name : String) (fields : List EditField) : Draft :=
  braced "validatecommand" (scriptWithFields name (fields.map EditField.letter))

def variableName (name : String) : Draft := bare "variable" name

def textVariable (name : String) : Draft := bare "textvariable" name

def value (value : String) : Draft := quoted "value" value

end ScriptBridge.Options
