import ScriptBridge.Interp.Action

/-!
# Positions in sequences

A position is written as an integer, as `end`, or as `end` with a distance.
-/

namespace ScriptBridge.Index

/-- The first characters of a text taken away, if it starts with them. -/
def dropStart? : (start cs : List Char) → Option (List Char)
  | [], cs => some cs
  | _ :: _, [] => none
  | expected :: start, c :: rest => if expected = c then dropStart? start rest else none

theorem dropStart?_eq_some_iff (start cs rest : List Char) :
    dropStart? start cs = some rest ↔ cs = start ++ rest := by
  induction start generalizing cs with
  | nil => simp [dropStart?]
  | cons expected start inductionHypothesis =>
      cases cs with
      | nil => simp [dropStart?]
      | cons c cs =>
          by_cases same : expected = c
          · simp [dropStart?, same, inductionHypothesis]
          · simp [dropStart?, same, Ne.symm same]

/-- A sum that fits into 64 bits. -/
def fitting? (value : Int) : Option Int :=
  (Numeral.wordOfInt? value).map Int64.toInt

/-- The integer that a text spells, as an unbounded one. -/
def integer? (text : List Char) : Option Int :=
  (Numeral.readWord? (String.ofList text)).map Int64.toInt

/-- The position that a text means in a sequence of `length` elements, inside it or not. -/
def read? (text : String) (length : Nat) : Option Int :=
  let cs := Text.trim text.toList
  let last : Int := (length : Int) - 1
  match dropStart? ['e', 'n', 'd'] cs with
  | some [] => some last
  | some ('-' :: distance) => (integer? distance).bind fun value => fitting? (last - value)
  | some ('+' :: distance) => (integer? distance).bind fun value => fitting? (last + value)
  | some _ => none
  | none => integer? cs

/-- A position as an index, if it lies in a sequence of `length` elements. -/
def inside? (length : Nat) (position : Int) : Option Nat :=
  if 0 ≤ position ∧ position < length then some position.toNat else none

variable {Key Host : Type}

/-- The index that an argument means; `none` outside the sequence. -/
def resolve (text : String) (length : Nat) : Action Key Host (Option Nat) :=
  match read? text length with
  | some position => return inside? length position
  | none =>
      .fail <|
        "bad index \"" ++ text ++ "\": must be integer?[+-]integer? or end?[+-]integer?"

/-- The position that an argument means as the bound of a range, which may lie outside. Behind `end`
a distance can only be taken away. -/
def resolveBound (text : String) (length : Nat) : Action Key Host Int :=
  let cs := Text.trim text.toList
  let last : Int := (length : Int) - 1
  match dropStart? ['e', 'n', 'd'] cs with
  | some [] => return last
  | some ('-' :: distance) => do
      let value ← Action.intOf (String.ofList distance)
      match fitting? (last - value.toInt) with
      | some position => return position
      | none => Action.fail ("bad index \"" ++ text ++ "\"")
  | some _ => .fail ("bad index \"" ++ text ++ "\"")
  | none => do return (← Action.intOf (String.ofList cs)).toInt

end ScriptBridge.Index
