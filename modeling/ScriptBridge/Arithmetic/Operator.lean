/-!
# Operators of formulas

Binary operators stand on six levels; one on a lower level binds its operands more tightly.
-/

namespace ScriptBridge.Arithmetic

/-- The signs that stand between or before operands. -/
inductive Sign where
  | equal | notEqual | sameText | otherText
  | less | greater | lessEqual | greaterEqual
  | both | either
  | plus | minus | times | divide | modulo
  | bang | tilde | question | colon
  deriving Repr, DecidableEq

inductive UnaryOp where
  | negate | keep | not | complement
  deriving Repr, DecidableEq

inductive BinaryOp where
  | either | both
  | equal | notEqual | sameText | otherText
  | less | greater | lessEqual | greaterEqual
  | add | subtract
  | multiply | divide | modulo
  deriving Repr, DecidableEq

namespace Sign

/-- The sign at the start of a text, the longer one first. Words are no signs here. -/
def take? : List Char → Option (Sign × List Char)
  | '=' :: '=' :: rest => some (equal, rest)
  | '!' :: '=' :: rest => some (notEqual, rest)
  | '<' :: '=' :: rest => some (lessEqual, rest)
  | '>' :: '=' :: rest => some (greaterEqual, rest)
  | '&' :: '&' :: rest => some (both, rest)
  | '|' :: '|' :: rest => some (either, rest)
  | '+' :: rest => some (plus, rest)
  | '-' :: rest => some (minus, rest)
  | '*' :: rest => some (times, rest)
  | '/' :: rest => some (divide, rest)
  | '%' :: rest => some (modulo, rest)
  | '<' :: rest => some (less, rest)
  | '>' :: rest => some (greater, rest)
  | '!' :: rest => some (bang, rest)
  | '~' :: rest => some (tilde, rest)
  | '?' :: rest => some (question, rest)
  | ':' :: rest => some (colon, rest)
  | _ => none

theorem take?_length_lt
    {cs rest : List Char}
    {sign : Sign}
    (taken : take? cs = some (sign, rest)) :
    rest.length < cs.length := by
  unfold take? at taken
  split at taken <;> simp at taken <;> simp only [← taken.2, List.length_cons] <;> omega

def unary? : Sign → Option UnaryOp
  | minus => some .negate
  | plus => some .keep
  | bang => some .not
  | tilde => some .complement
  | _ => none

def binary? : Sign → Option BinaryOp
  | either => some .either
  | both => some .both
  | equal => some .equal
  | notEqual => some .notEqual
  | sameText => some .sameText
  | otherText => some .otherText
  | less => some .less
  | greater => some .greater
  | lessEqual => some .lessEqual
  | greaterEqual => some .greaterEqual
  | plus => some .add
  | minus => some .subtract
  | times => some .multiply
  | divide => some .divide
  | modulo => some .modulo
  | _ => none

end Sign

def UnaryOp.text : UnaryOp → String
  | negate => "-"
  | keep => "+"
  | not => "!"
  | complement => "~"

namespace BinaryOp

def level : BinaryOp → Nat
  | multiply | divide | modulo => 1
  | add | subtract => 2
  | less | greater | lessEqual | greaterEqual => 3
  | equal | notEqual | sameText | otherText => 4
  | both => 5
  | either => 6

def levels : Nat := 6

def text : BinaryOp → String
  | either => "||"
  | both => "&&"
  | equal => "=="
  | notEqual => "!="
  | sameText => "eq"
  | otherText => "ne"
  | less => "<"
  | greater => ">"
  | lessEqual => "<="
  | greaterEqual => ">="
  | add => "+"
  | subtract => "-"
  | multiply => "*"
  | divide => "/"
  | modulo => "%"

end BinaryOp

end ScriptBridge.Arithmetic
