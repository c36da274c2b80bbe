/-!
# Drafts

The vocabulary produces drafts: fragments of text to be merged into a command, and the starts of
commands. A draft belongs to no session yet.
-/

namespace ScriptBridge

inductive Draft where
  /-- Text to be merged into a command. -/
  | fragment (text : String)
  /-- The start of a command; the suffix stays behind all that is merged into it. -/
  | command (text suffix : String)
  deriving Repr, DecidableEq

def Draft.start (text : String) : Draft :=
  .command text ""

end ScriptBridge
