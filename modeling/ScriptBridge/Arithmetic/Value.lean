import ScriptBridge.Arithmetic.Fault
import ScriptBridge.Arithmetic.Operator
import ScriptBridge.Numeral.Decimal
import ScriptBridge.Truth

/-!
# Values of formulas

A text is classified as an integer, a floating-point number or plain text before an operator sees
it. Integers wrap around at 64 bits; their division rounds down, and the remainder has the sign of
the divisor.
-/

namespace ScriptBridge.Arithmetic

inductive Value where
  | int (value : Int64)
  | float (value : Float)
  | text (value : String)

namespace Value

/-- The value of a text: an integer if it spells one, else a number if it spells one. -/
def ofText (text : String) : Value :=
  match Numeral.readWord? text with
  | some value => .int value
  | none =>
      match Numeral.readFloat? text with
      | some value => .float value
      | none => .text text

def toText : Value → String
  | int value => Numeral.formatWord value
  | float value => Numeral.formatFloat value
  | text value => value

def ofBool (value : Bool) : Value :=
  .int (if value then 1 else 0)

/-- The value as a condition. -/
def isTrue : Value → Except Fault Bool
  | int value => .ok (value != 0)
  | float value => .ok (value != 0.0)
  | text value =>
      match Truth.read? value with
      | some truth => .ok truth
      | none => .error (.noTruth value)

/-- The value as a floating-point number; plain text is none. -/
def toFloat : Value → Float
  | int value => Numeral.floatOfWord value
  | float value => value
  | text _ => 0.0 / 0.0

/-- The value, if it is a number; else the fault of the operator or function that needs one. -/
def number (operator : String) : Value → Except Fault Value
  | text value =>
      if value.isEmpty then .error (.emptyOperand operator)
      else .error (.textOperand value operator)
  | value => .ok value

/-! ## Integer division -/

/-- The quotient of two integers, rounded down. -/
def floorQuotient (dividend divisor : Int64) : Int64 :=
  let quotient := dividend / divisor
  if dividend % divisor ≠ 0 ∧ decide (dividend < 0) ≠ decide (divisor < 0) then quotient - 1
  else quotient

/-- The remainder that belongs to the quotient rounded down. -/
def floorRemainder (dividend divisor : Int64) : Int64 :=
  let remainder := dividend % divisor
  if remainder ≠ 0 ∧ decide (remainder < 0) ≠ decide (divisor < 0) then remainder + divisor
  else remainder

/-! ## Operators -/

def applyUnary (operator : UnaryOp) (value : Value) : Except Fault Value :=
  match operator with
  | .not => do return ofBool (!(← value.isTrue))
  | _ => do
      match operator, ← value.number operator.text with
      | .negate, .int n => return .int (-n)
      | .negate, .float x => return .float (-x)
      | .complement, .int n => return .int (~~~n)
      | .complement, .float _ => throw (.floatOperand operator.text)
      | _, operand => return operand

/-- The order of two values: as integers if both are, as numbers if neither is plain text, else as
texts. Next to a not-a-number every number is the smaller one. -/
def order (left right : Value) : Ordering :=
  match left, right with
  | .int x, .int y => compare x.toInt y.toInt
  | .text x, _ => compare x right.toText
  | _, .text y => compare left.toText y
  | _, _ =>
      let x := left.toFloat
      let y := right.toFloat
      if x < y then .lt else if x == y then .eq else if y < x then .gt else .lt

def applyInt (operator : BinaryOp) (x y : Int64) : Except Fault Value :=
  match operator with
  | .add => .ok (.int (x + y))
  | .subtract => .ok (.int (x - y))
  | .multiply => .ok (.int (x * y))
  | .divide => if y = 0 then .error .divisionByZero else .ok (.int (floorQuotient x y))
  | _ => if y = 0 then .error .divisionByZero else .ok (.int (floorRemainder x y))

def applyFloat (operator : BinaryOp) (x y : Float) : Except Fault Value :=
  match operator with
  | .add => .ok (.float (x + y))
  | .subtract => .ok (.float (x - y))
  | .multiply => .ok (.float (x * y))
  | .divide => if y == 0.0 then .error .divisionByZero else .ok (.float (x / y))
  | _ => .error (.floatOperand operator.text)

/-- A binary operator on values; the two that may skip their right operand are not among them. -/
def applyBinary (operator : BinaryOp) (left right : Value) : Except Fault Value :=
  match operator with
  | .sameText => .ok (ofBool (left.toText == right.toText))
  | .otherText => .ok (ofBool (left.toText != right.toText))
  | .equal => .ok (ofBool (left.order right == .eq))
  | .notEqual => .ok (ofBool (left.order right != .eq))
  | .less => .ok (ofBool (left.order right == .lt))
  | .greater => .ok (ofBool (left.order right == .gt))
  | .lessEqual => .ok (ofBool (left.order right != .gt))
  | .greaterEqual => .ok (ofBool (left.order right != .lt))
  | _ => do
      match ← left.number operator.text, ← right.number operator.text with
      | .int x, .int y => applyInt operator x y
      | x, y => applyFloat operator x.toFloat y.toFloat

/-! ## Functions -/

def soleNumber (function : String) : List Value → Except Fault Value
  | [] => .error (.tooFewArguments function)
  | [value] => value.number function
  | _ => .error (.tooManyArguments function)

/-- The first extreme of several numbers; `keeps` says when an earlier one stays. -/
def extreme
    (function : String)
    (keeps : Float → Float → Bool) :
    Option Value → List Value → Except Fault Value
  | none, [] => .error (.tooFewArguments function)
  | some best, [] => .ok best
  | none, value :: rest => do
      extreme function keeps (some (← value.number function)) rest
  | some best, value :: rest => do
      let candidate ← value.number function
      if keeps best.toFloat candidate.toFloat then extreme function keeps (some best) rest
      else extreme function keeps (some candidate) rest

def call (function : String) (arguments : List Value) : Except Fault Value :=
  match function with
  | "abs" => do
      match ← soleNumber function arguments with
      | .int n => return .int (if n < 0 then -n else n)
      | operand => return .float operand.toFloat.abs
  | "int" => do return .int (Numeral.wordOfFloat (← soleNumber function arguments).toFloat)
  | "double" => do return .float (← soleNumber function arguments).toFloat
  | "round" => do
      match ← soleNumber function arguments with
      | .int n => return .int n
      | operand => return .int (Numeral.wordOfFloat operand.toFloat.round)
  | "sqrt" => do return .float (← soleNumber function arguments).toFloat.sqrt
  | "min" => extreme function (fun best candidate => best ≤ candidate) none arguments
  | "max" => extreme function (fun best candidate => candidate ≤ best) none arguments
  | _ => .error (.unknownFunction function)

end Value

end ScriptBridge.Arithmetic
