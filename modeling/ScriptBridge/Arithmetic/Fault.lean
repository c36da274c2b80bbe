import ScriptBridge.Script.Tree

/-!
# Faults of formulas

What can be wrong with a formula: its text, its structure, or its operands.
-/

namespace ScriptBridge.Arithmetic

inductive Fault where
  /-- The text breaks off inside a brace, quote, bracket or name. -/
  | scan (fault : ScanFault)
  /-- A word that is neither a function nor a truth value. -/
  | bareWord (word : String)
  /-- The parts do not form a formula. -/
  | malformed (text : String)
  | emptyOperand (operator : String)
  | textOperand (operand operator : String)
  | floatOperand (operator : String)
  | divisionByZero
  | tooFewArguments (function : String)
  | tooManyArguments (function : String)
  | unknownFunction (function : String)
  /-- A condition that spells no truth value. -/
  | noTruth (text : String)
  deriving Repr, DecidableEq

def Fault.message : Fault → String
  | .scan fault => fault.message
  | .bareWord word => "invalid bareword \"" ++ word ++ "\""
  | .malformed text => "syntax error in expression \"" ++ text ++ "\""
  | .emptyOperand operator => "can't use empty string as operand of \"" ++ operator ++ "\""
  | .textOperand operand operator =>
      "can't use non-numeric string \"" ++ operand ++ "\" as operand of \"" ++ operator ++ "\""
  | .floatOperand operator => "can't use floating-point value as operand of \"" ++ operator ++ "\""
  | .divisionByZero => "divide by zero"
  | .tooFewArguments function => "too few arguments for math function \"" ++ function ++ "\""
  | .tooManyArguments function => "too many arguments for math function \"" ++ function ++ "\""
  | .unknownFunction function => "unknown math function \"" ++ function ++ "\""
  | .noTruth text => "expected boolean value but got \"" ++ text ++ "\""

end ScriptBridge.Arithmetic
