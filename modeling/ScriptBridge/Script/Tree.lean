/-!
# Scripts

A script is a sequence of commands and a command a sequence of words. A word is put together from
pieces: text, the value of a variable, or the result of a script in brackets. A script whose text
is faulty still has the commands before the fault; what follows is cut off.
-/

namespace ScriptBridge

inductive ScanFault where
  | openBracket
  | openBrace
  | openQuote
  | openName
  /-- Text stands directly behind a word in braces. -/
  | afterBrace
  /-- Text stands directly behind a word in quotes. -/
  | afterQuote
  /-- A word would start at a blank that separates no words; no reader gets past it. -/
  | stuck
  deriving Repr, DecidableEq

def ScanFault.message : ScanFault → String
  | .openBracket => "missing close-bracket"
  | .openBrace => "missing close-brace"
  | .openQuote => "missing \""
  | .openName => "missing close-brace for variable name"
  | .afterBrace => "extra characters after close-brace"
  | .afterQuote => "extra characters after close-quote"
  | .stuck => "no word can be read here"

mutual

inductive Piece where
  | literal (text : List Char)
  | variable (name : String)
  | command (body : Script)

/-- A sequence of commands; the words of a command are sequences of pieces. -/
inductive Script where
  | done
  | command (words : List (List Piece)) (rest : Script)
  /-- The command that a fault cuts off: its words, and what there is of the last of them. -/
  | cut (words : List (List Piece)) (last : List Piece) (fault : ScanFault)

end

instance : Inhabited Piece := ⟨.literal []⟩

instance : Inhabited Script := ⟨.done⟩

abbrev Word := List Piece

end ScriptBridge
