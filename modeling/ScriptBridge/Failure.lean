import ScriptBridge.ListText

/-!
# Failures

What can go wrong for a host program: the interpreter rejects a command, a text is not of the type
that is asked for, an index is out of range, settings are invalid, or a file cannot be read.
-/

namespace ScriptBridge

inductive ConversionFault where
  | noInteger (text : String)
  | tooLarge (text : String)
  | noFloat (text : String)
  | noTruth (text : String)
  | noList (fault : ListText.Fault)
  /-- A list with too few elements for the coordinates of a shape. -/
  | tooFewCoordinates (shape : String) (expected found : Nat)
  deriving Repr, DecidableEq

def ConversionFault.message : ConversionFault → String
  | .noInteger text => "expected integer but got \"" ++ text ++ "\""
  | .tooLarge text => "integer value too large to represent: \"" ++ text ++ "\""
  | .noFloat text => "expected floating-point number but got \"" ++ text ++ "\""
  | .noTruth text => "expected boolean value but got \"" ++ text ++ "\""
  | .noList fault => fault.message
  | .tooFewCoordinates shape expected found =>
      "cannot convert the result list to " ++ shape ++ ": expected " ++ toString expected ++
        " elements, got " ++ toString found

inductive RangeFault where
  | listIndex (index : Nat)
  | parameter (index : Nat)
  deriving Repr, DecidableEq

def RangeFault.message : RangeFault → String
  | .listIndex index => "list index " ++ toString index ++ " out of range"
  | .parameter index => "parameter number " ++ toString index ++ " out of valid range"

inductive FileFault where
  | missing
  | directory
  | noText
  | other (message : String)
  deriving Repr, DecidableEq

def FileFault.message : FileFault → String
  | .missing => "No such file or directory (os error 2)"
  | .directory => "Is a directory (os error 21)"
  | .noText => "stream did not contain valid UTF-8"
  | .other message => message

abbrev SessionId := Nat

inductive Failure where
  /-- The interpreter rejected a command. As long as the failure of a session is alive, the session
  counts as reporting an error; a failure that belongs to no session has no such effect. -/
  | interpreter (message : String) (session : Option SessionId)
  | conversion (fault : ConversionFault)
  | range (fault : RangeFault)
  /-- A generated command is invoked that no longer has a callback. -/
  | unknownCallback
  /-- The namespace in the settings is no identifier. -/
  | settings (namespaceName : String)
  | file (fault : FileFault)
  deriving Repr, DecidableEq

namespace Failure

def message : Failure → String
  | interpreter message _ => message
  | conversion fault => fault.message
  | range fault => fault.message
  | unknownCallback => "Trying to invoke non-existent callback"
  | settings name =>
      "configuration error: namespace must be a plain identifier, got \"" ++ name ++ "\""
  | file fault => fault.message

def isInterpreter : Failure → Bool
  | interpreter _ _ => true
  | _ => false

def scope? : Failure → Option SessionId
  | interpreter _ session => session
  | _ => none

def detached : Failure → Failure
  | interpreter message _ => interpreter message none
  | failure => failure

end Failure

end ScriptBridge
