import ScriptBridge.Bridge.Buffers
import ScriptBridge.Vocabulary.Draft

/-!
# Expressions

An expression is a pending command, shared with its clones, or a fragment of text. Expressions are
combined into one command, and a command is submitted when a value of it is read.
-/

namespace ScriptBridge

namespace Expression

/-! ## Making -/

def ofCommand
    (session : Option SessionId)
    (text suffix : String) : WorldAction Expression := do
  return .starter (← World.newBuffer { session, base := text, suffix })

/-- The expression of a draft; commands go to the session that is current when they are submitted. -/
def ofDraft : Draft → WorldAction Expression
  | .fragment text => return .literal text
  | .command text suffix => ofCommand none text suffix

def clone (expression : Expression) : WorldAction Expression := do
  match expression with
  | .starter buffer => World.share buffer
  | .literal _ => return expression
  return expression

def drop : Expression → WorldAction Unit
  | .starter buffer => World.release buffer
  | .literal _ => return ()

/-! ## Looking -/

def isStarter : Expression → Bool
  | .starter _ => true
  | .literal _ => false

def value : Expression → WorldAction String
  | .starter buffer => World.commandText buffer
  | .literal text => return text

def shown : Expression → WorldAction String
  | .starter buffer => do
      return "Starter(" ++ World.showBuffer (← World.getBuffer buffer) ++ ")"
  | .literal text => return "Literal(" ++ Text.shown text ++ ")"

/-! ## Reading -/

/-- Submits the command without reading its result. -/
def run : Expression → WorldAction (Except Failure Unit)
  | .starter buffer => World.evaluateOnce buffer
  | .literal _ => return .ok ()

def text : Expression → WorldAction (Except Failure String)
  | .starter buffer => World.evaluateText buffer
  | .literal text => return .ok text

def get (α : Type) [FromText α] (expression : Expression) : WorldAction (Except Failure α) :=
  return (← expression.text).bind fromText

def list (expression : Expression) : WorldAction (Except Failure (List String)) :=
  return (← expression.text).bind listFromText

/-! ## Combining -/

/-- Merges the right expression into the command of the left one, or the left literal into the
command of the right one. Both are used up. -/
def combine : Expression → Expression → WorldAction Expression
  | .starter buffer, .starter other => do
      World.absorb buffer other
      World.release other
      return .starter buffer
  | .starter buffer, .literal text => do
      World.append buffer text
      return .starter buffer
  | .literal text, .starter buffer => do
      World.prepend buffer text
      return .starter buffer
  | .literal text, .literal other => return .literal (text ++ other)

def prefixed (word : String) : Expression → WorldAction Expression
  | .starter buffer => do
      World.prepend buffer " "
      World.prepend buffer word
      return .starter buffer
  | .literal text => return .literal (word ++ " " ++ text)

end Expression

end ScriptBridge
