import ScriptBridge.Vocabulary.Options

/-!
# Starts of commands

Each starter writes the first words of a command; options are merged in behind them, and the path
of a widget is put in front of its subcommands.
-/

namespace ScriptBridge.Starters

/-! ## Widgets -/

def create (kind path : String) : Draft :=
  .start (kind ++ " " ++ path)

def button (path : String) : Draft := create "button" path

def canvas (path : String) : Draft := create "canvas" path

def checkButton (path : String) : Draft := create "checkbutton" path

def entry (path : String) : Draft := create "entry" path

def frame (path : String) : Draft := create "frame" path

def label (path : String) : Draft := create "label" path

def labelFrame (path : String) : Draft := create "labelframe" path

def listBox (path : String) : Draft := create "listbox" path

def menu (path : String) : Draft := create "menu" path

def menuButton (path : String) : Draft := create "menubutton" path

def message (path : String) : Draft := create "message" path

def panedWindow (path : String) : Draft := create "panedwindow" path

def radioButton (path : String) : Draft := create "radiobutton" path

def scale (path : String) : Draft := create "scale" path

def scrollBar (path : String) : Draft := create "scrollbar" path

def spinBox (path : String) : Draft := create "spinbox" path

def textWidget (path : String) : Draft := create "text" path

def topLevel (path : String) : Draft := create "toplevel" path

/-! ## Geometry and windows -/

/-- Several paths may be given with spaces between them. -/
def pack (paths : String) : Draft := .start ("pack " ++ paths)

/-- Several paths may be given with spaces between them. -/
def grid (paths : String) : Draft := .start ("grid " ++ paths)

def place (path : String) : Draft := .start ("place " ++ path)

/-- Several paths may be given with spaces between them. -/
def destroy (paths : String) : Draft := .start ("destroy " ++ paths)

def focus (path : String) : Draft := .start ("focus " ++ path)

def wm (property path : String) : Draft := .start ("wm " ++ property ++ " " ++ path)

/-- The path stays behind all that is merged in. -/
def winfo (property path : String) : Draft := .command ("winfo " ++ property) (" " ++ path)

/-! ## Events -/

/-- Binds an event to a command that is called with fields of the event as its arguments. -/
def bind (tag sequence name : String) (fields : List EventField) : Draft :=
  .start <|
    "bind " ++ tag ++ " " ++ sequence ++ " \x7b " ++
      scriptWithFields name (fields.map EventField.letter) ++ " \x7d"

def generateEvent (path sequence : String) : Draft :=
  .start ("event generate " ++ path ++ " " ++ sequence)

def update : Draft := .start "update"

def afterIdle (script : String) : Draft := .start ("after idle \x7b " ++ script ++ " \x7d")

def after (milliseconds : Nat) (script : String) : Draft :=
  .start ("after " ++ toString milliseconds ++ " \x7b " ++ script ++ " \x7d")

/-! ## Subcommands of widgets -/

def configure : Draft := .start "configure"

/-- The option may be given with hyphens in front or without. -/
def cget (option : String) : Draft :=
  .start ("cget -" ++ String.ofList (option.toList.dropWhile (· = '-')))

def invoke : Draft := .start "invoke"

def get : Draft := .start "get"

def getRange (first last : String) : Draft := .start ("get " ++ first ++ " " ++ last)

/-- The text is quoted. -/
def insert (index text : String) : Draft :=
  .start ("insert " ++ index ++ " \"" ++ Options.quote text ++ "\"")

def delete (first last : String) : Draft := .start ("delete " ++ first ++ " " ++ last)

/-! ## Scripts -/

def script (text : String) : Draft := .start text

/-- Sets a variable to a value, which is written as one list element. -/
def set (name value : String) : Draft :=
  .start ("set " ++ name ++ " " ++ ListText.element value)

end ScriptBridge.Starters
