import ScriptBridge.Text.Blank

/-!
# Integers

The spelling of integers: blanks around it, an optional sign, an optional radix mark (`0x`, `0o`,
`0b`) and digits of that radix. The value has to fit into 64 bits.
-/

namespace ScriptBridge.Numeral

/-! ## Digits -/

def digitValue? (c : Char) : Option Nat :=
  if '0' ≤ c ∧ c ≤ '9' then some (c.toNat - '0'.toNat)
  else if 'a' ≤ c ∧ c ≤ 'z' then some (c.toNat - 'a'.toNat + 10)
  else if 'A' ≤ c ∧ c ≤ 'Z' then some (c.toNat - 'A'.toNat + 10)
  else none

def isDigitOf (radix : Nat) (c : Char) : Bool :=
  match digitValue? c with
  | some value => value < radix
  | none => false

def natOfDigits (radix : Nat) (digits : List Char) : Nat :=
  digits.foldl (fun value c => value * radix + (digitValue? c).getD 0) 0

/-! ## Reading -/

/-- The sign in front of a number, with what follows it; true is minus. -/
def takeSign : List Char → Bool × List Char
  | '-' :: rest => (true, rest)
  | '+' :: rest => (false, rest)
  | rest => (false, rest)

/-- The radix that a mark announces, with what follows it. -/
def takeRadix : List Char → Nat × List Char
  | '0' :: 'x' :: rest => (16, rest)
  | '0' :: 'X' :: rest => (16, rest)
  | '0' :: 'o' :: rest => (8, rest)
  | '0' :: 'O' :: rest => (8, rest)
  | '0' :: 'b' :: rest => (2, rest)
  | '0' :: 'B' :: rest => (2, rest)
  | rest => (10, rest)

/-- The integer that a text spells, of any size. -/
def readInt? (text : List Char) : Option Int :=
  let (negative, body) := takeSign (Text.trim text)
  let (radix, digits) := takeRadix body
  if digits.isEmpty || !digits.all (isDigitOf radix) then
    none
  else
    let magnitude : Int := natOfDigits radix digits
    some (if negative then -magnitude else magnitude)

def wordOfInt? (value : Int) : Option Int64 :=
  if Int64.minValue.toInt ≤ value ∧ value ≤ Int64.maxValue.toInt then
    some (Int64.ofInt value)
  else
    none

def readWord? (text : String) : Option Int64 :=
  (readInt? text.toList).bind wordOfInt?

def formatWord (value : Int64) : String :=
  toString value.toInt

/-! ## Narrowing -/

def narrow? (value : Int64) : Option Int32 :=
  if Int32.minValue.toInt ≤ value.toInt ∧ value.toInt ≤ Int32.maxValue.toInt then
    some (Int32.ofInt value.toInt)
  else
    none

end ScriptBridge.Numeral
