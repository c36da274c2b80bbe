import ScriptBridge.Arithmetic.Token

/-!
# Formulas

The structure of a formula: binary operators group to the left by their levels, the conditional
operator groups to the right and binds loosest of all, and a function stands in front of its
arguments.
-/

namespace ScriptBridge.Arithmetic

inductive Formula where
  | literal (text : String)
  /-- An operand whose substitutions are still to be made. -/
  | source (text : String)
  | unary (operator : UnaryOp) (operand : Formula)
  | binary (operator : BinaryOp) (left right : Formula)
  | conditional (condition yes no : Formula)
  | call (function : String) (arguments : List Formula)

instance : Inhabited Formula := ⟨.literal ""⟩

namespace Formula

/-! ## Reading -/

def operatorOn? (level : Nat) : List Token → Option (BinaryOp × List Token)
  | .sign sign :: rest =>
      match sign.binary? with
      | some operator => if operator.level = level then some (operator, rest) else none
      | none => none
  | _ => none

theorem operatorOn?_length_lt
    {level : Nat}
    {tokens rest : List Token}
    {operator : BinaryOp}
    (found : operatorOn? level tokens = some (operator, rest)) :
    rest.length < tokens.length := by
  unfold operatorOn? at found
  split at found
  · split at found
    · split at found <;> simp at found
      simp [← found.2]
    · simp at found
  · simp at found

/-- What a reader found in front of fewer than `limit` remaining tokens. -/
abbrev Parsed (α : Type) (limit : Nat) := Option (α × { rest : List Token // rest.length < limit })

/-- The same result in front of a longer list. -/
def Parsed.widen
    {α : Type}
    {limit larger : Nat}
    (bound : limit ≤ larger) : Parsed α limit → Parsed α larger
  | some (value, ⟨rest, shorter⟩) => some (value, ⟨rest, Nat.lt_of_lt_of_le shorter bound⟩)
  | none => none

def Parsed.map {α β : Type} {limit : Nat} (change : α → β) : Parsed α limit → Parsed β limit
  | some (value, rest) => some (change value, rest)
  | none => none

mutual

/-- Reads a formula: a conditional, or what stands on the loosest level. -/
def readFormula (tokens : List Token) : Parsed Formula tokens.length :=
  match readLevel BinaryOp.levels tokens with
  | none => none
  | some (condition, ⟨.sign .question :: yesTokens, shorter⟩) =>
      match readFormula yesTokens with
      | some (yes, ⟨.sign .colon :: noTokens, shorterYes⟩) =>
          Parsed.widen
            (by simp only [List.length_cons] at shorter shorterYes; omega)
            (Parsed.map (.conditional condition yes) (readFormula noTokens))
      | _ => none
  | some found => some found
  termination_by (tokens.length, BinaryOp.levels + 3)
  decreasing_by
    · exact Prod.Lex.right _ (Nat.lt_succ_self _)
    · apply Prod.Lex.left
      simp only [List.length_cons] at shorter
      omega
    · apply Prod.Lex.left
      simp only [List.length_cons] at shorter shorterYes
      omega

def readLevel (level : Nat) (tokens : List Token) : Parsed Formula tokens.length :=
  match level with
  | 0 => readOperand tokens
  | tighter + 1 =>
      match readLevel tighter tokens with
      | none => none
      | some (left, ⟨rest, shorter⟩) =>
          match readOperators tighter left rest with
          | none => none
          | some (formula, ⟨after, within⟩) =>
              some (formula, ⟨after, Nat.lt_of_le_of_lt within shorter⟩)
  termination_by (tokens.length, level + 2)
  decreasing_by
    · exact Prod.Lex.right _ (by omega)
    · exact Prod.Lex.right _ (by omega)
    · exact Prod.Lex.left _ _ shorter

/-- Reads the operators of the level above `tighter`, and their right operands, behind `left`. -/
def readOperators
    (tighter : Nat)
    (left : Formula)
    (tokens : List Token) :
    Option (Formula × { rest : List Token // rest.length ≤ tokens.length }) :=
  match _operator : operatorOn? (tighter + 1) tokens with
  | none => some (left, ⟨tokens, Nat.le_refl _⟩)
  | some (operator, rest) =>
      have shorter : rest.length < tokens.length := operatorOn?_length_lt _operator
      match readLevel tighter rest with
      | none => none
      | some (right, ⟨behind, within⟩) =>
          match readOperators tighter (.binary operator left right) behind with
          | none => none
          | some (formula, ⟨after, bound⟩) =>
              some (formula, ⟨after, by omega⟩)
  termination_by (tokens.length, 0)
  decreasing_by
    · exact Prod.Lex.left _ _ shorter
    · exact Prod.Lex.left _ _ (Nat.lt_trans within shorter)

/-- Reads an operand with the operators in front of it. -/
def readOperand (tokens : List Token) : Parsed Formula tokens.length :=
  match tokens with
  | .sign sign :: rest =>
      match sign.unary? with
      | some operator =>
          Parsed.widen (Nat.le_succ _) (Parsed.map (.unary operator) (readOperand rest))
      | none => none
  | .literal text :: rest => some (.literal text, ⟨rest, Nat.lt_succ_self _⟩)
  | .source text :: rest => some (.source text, ⟨rest, Nat.lt_succ_self _⟩)
  | .openParen :: rest =>
      match readFormula rest with
      | some (inner, ⟨.closeParen :: after, shorter⟩) =>
          some (inner, ⟨after, by simp only [List.length_cons] at shorter ⊢; omega⟩)
      | _ => none
  | .function name :: .openParen :: .closeParen :: rest =>
      some (.call name [], ⟨rest, by simp only [List.length_cons]; omega⟩)
  | .function name :: .openParen :: rest =>
      Parsed.widen
        (by simp only [List.length_cons]; omega)
        (Parsed.map (.call name) (readArguments rest))
  | _ => none
  termination_by (tokens.length, 1)
  decreasing_by
    · exact Prod.Lex.left _ _ (Nat.lt_succ_self _)
    · exact Prod.Lex.left _ _ (Nat.lt_succ_self _)
    · apply Prod.Lex.left
      simp only [List.length_cons]
      omega

/-- Reads arguments up to the parenthesis that closes them. -/
def readArguments (tokens : List Token) : Parsed (List Formula) tokens.length :=
  match readFormula tokens with
  | some (argument, ⟨.closeParen :: rest, shorter⟩) =>
      some ([argument], ⟨rest, Nat.lt_of_succ_lt shorter⟩)
  | some (argument, ⟨.comma :: rest, shorter⟩) =>
      Parsed.widen
        (Nat.le_of_lt (Nat.lt_of_succ_lt shorter))
        (Parsed.map (argument :: ·) (readArguments rest))
  | _ => none
  termination_by (tokens.length, BinaryOp.levels + 4)
  decreasing_by
    · exact Prod.Lex.right _ (Nat.lt_succ_self _)
    · exact Prod.Lex.left _ _ (Nat.lt_of_succ_lt shorter)

end

def ofTokens? (tokens : List Token) : Option Formula :=
  match readFormula tokens with
  | some (formula, ⟨[], _⟩) => some formula
  | _ => none

def ofText (text : String) : Except Fault Formula := do
  let found ← tokens text
  match ofTokens? found with
  | some formula => return formula
  | none => throw (.malformed text)

end Formula

end ScriptBridge.Arithmetic
