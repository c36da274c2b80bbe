import ScriptBridge.Arithmetic.Formula
import ScriptBridge.Arithmetic.Value
import ScriptBridge.Commands.Lists

/-!
# Computing formulas

The operands of a formula are substituted when they are needed, so that what stands behind `&&`,
`||` and `?:` has no effect unless it is reached.
-/

namespace ScriptBridge

variable {Key Host : Type}

open Arithmetic

/-- The outcome of an operator or function as an action. -/
def ofOperation {α : Type} (result : Except Fault α) : Action Key Host α :=
  Action.orFail Fault.message result

mutual

def Arithmetic.Formula.compute (eval : Evaluator Key Host) : Formula → Action Key Host Value
  | .literal text => return Value.ofText text
  | .source text => do return Value.ofText (← eval.substitute text)
  | .unary operator operand => do
      let value ← operand.compute eval
      ofOperation (Value.applyUnary operator value)
  | .binary .both left right => do
      let leftTruth ← ofOperation (← left.compute eval).isTrue
      if leftTruth then
        let rightTruth ← ofOperation (← right.compute eval).isTrue
        return Value.ofBool rightTruth
      else
        return Value.ofBool false
  | .binary .either left right => do
      let leftTruth ← ofOperation (← left.compute eval).isTrue
      if leftTruth then
        return Value.ofBool true
      else
        let rightTruth ← ofOperation (← right.compute eval).isTrue
        return Value.ofBool rightTruth
  | .binary operator left right => do
      let leftValue ← left.compute eval
      let rightValue ← right.compute eval
      ofOperation (Value.applyBinary operator leftValue rightValue)
  | .conditional condition yes no => do
      let truth ← ofOperation (← condition.compute eval).isTrue
      if truth then yes.compute eval else no.compute eval
  | .call function arguments => do
      let values ← computeAll eval arguments
      ofOperation (Value.call function values)

def computeAll (eval : Evaluator Key Host) : List Formula → Action Key Host (List Value)
  | [] => return []
  | formula :: rest => do
      let value ← formula.compute eval
      let values ← computeAll eval rest
      return value :: values

end

def computeText (eval : Evaluator Key Host) (text : String) : Action Key Host Value := do
  let formula ← ofOperation (Formula.ofText text)
  formula.compute eval

def computeCondition (eval : Evaluator Key Host) (text : String) : Action Key Host Bool := do
  ofOperation (← computeText eval text).isTrue

def Commands.expr
    (eval : Evaluator Key Host)
    (arguments : List String) : Action Key Host String :=
  match arguments with
  | [] => Action.wrongUsage "expr arg ?arg ...?"
  | _ => do return (← computeText eval (Commands.concatenation arguments)).toText

end ScriptBridge
