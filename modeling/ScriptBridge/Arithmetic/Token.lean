import ScriptBridge.Arithmetic.Fault
import ScriptBridge.Arithmetic.Operator
import ScriptBridge.Script.Reader
import ScriptBridge.Truth

/-!
# Tokens of formulas

A formula is cut into tokens before anything in it is computed. Operands with substitutions keep
their text, which is substituted only when the operand is needed.
-/

namespace ScriptBridge.Arithmetic

open Text

inductive Token where
  /-- Text that stands for itself. -/
  | literal (text : String)
  /-- Text to substitute in when the operand is needed. -/
  | source (text : String)
  | sign (sign : Sign)
  | function (name : String)
  | openParen
  | closeParen
  | comma
  deriving Repr, DecidableEq

namespace Token

/-! ## Parts of the text -/

def splitQuoted : List Char → Option (List Char × List Char)
  | [] => none
  | ['\\'] => none
  | '\\' :: c :: rest =>
      (splitQuoted rest).map fun (inside, after) => ('\\' :: c :: inside, after)
  | '"' :: rest => some ([], rest)
  | c :: rest => (splitQuoted rest).map fun (inside, after) => (c :: inside, after)

/-- Splits the text behind an open bracket, with `depth` more of them open, behind the bracket that
closes it. Only brackets and backslashes count. -/
def splitBracketed (depth : Nat) : List Char → Option (List Char × List Char)
  | [] => none
  | ['\\'] => none
  | '\\' :: c :: rest =>
      (splitBracketed depth rest).map fun (inside, after) => ('\\' :: c :: inside, after)
  | '[' :: rest =>
      (splitBracketed (depth + 1) rest).map fun (inside, after) => ('[' :: inside, after)
  | ']' :: rest =>
      match depth with
      | 0 => some ([']'], rest)
      | depth + 1 =>
          (splitBracketed depth rest).map fun (inside, after) => (']' :: inside, after)
  | c :: rest =>
      (splitBracketed depth rest).map fun (inside, after) => (c :: inside, after)

/-- Splits a text behind the name of a variable. -/
def splitName : List Char → Option (List Char × List Char)
  | '{' :: rest =>
      (splitAtBrace rest).map fun (name, after) => ('{' :: name ++ ['}'], after)
  | cs => some (takeName cs)

/-- Splits a text behind the characters of a number, where `before` is the one in front of it. A
sign belongs to the number behind an `e`, unless the number is hexadecimal. -/
def splitNumber (hexadecimal : Bool) (before : Char) : List Char → List Char × List Char
  | [] => ([], [])
  | c :: rest =>
      let exponentSign :=
        (c = '+' || c = '-') && !hexadecimal && (before = 'e' || before = 'E')
      if c.isAlphanum || c = '.' || exponentSign then
        let (number, after) := splitNumber hexadecimal c rest
        (c :: number, after)
      else
        ([], c :: rest)

def isWordChar (c : Char) : Bool :=
  isAlphanumeric c || c = '_'

/-- The token that a bare word is, given what follows it. -/
def ofWord (word rest : List Char) : Except Fault Token :=
  let name := String.ofList word
  if name = "eq" then .ok (.sign .sameText)
  else if name = "ne" then .ok (.sign .otherText)
  else if (trimLeft rest).head? = some '(' then .ok (.function name)
  else if (Truth.read? name).isSome then .ok (.literal name)
  else .error (.bareWord name)

/-- Whether a number starts with `c` in front of `rest`. -/
def startsNumber (c : Char) (rest : List Char) : Bool :=
  c.isDigit || (c = '.' && rest.head?.any Char.isDigit)

/-! ## Cutting -/

abbrev Step := Except Fault (Token × List Char)

/-- An operand from the two parts of a split text, if there was one. -/
def operand
    (token : String → Token)
    (fault : ScanFault)
    (start : List Char)
    (split : Option (List Char × List Char)) : Step :=
  match split with
  | some (inside, after) => .ok (token (String.ofList (start ++ inside)), after)
  | none => .error (.scan fault)

/-- The token that starts with `c`, which is no blank; `text` is the whole formula. -/
def next (text : String) (c : Char) (rest : List Char) : Step :=
  if c = '(' then .ok (.openParen, rest)
  else if c = ')' then .ok (.closeParen, rest)
  else if c = ',' then .ok (.comma, rest)
  else if c = '{' then operand .literal .openBrace [] (splitBraced 0 rest)
  else if c = '"' then operand .source .openQuote [] (splitQuoted rest)
  else if c = '$' then operand .source .openName ['$'] (splitName rest)
  else if c = '[' then operand .source .openBracket ['['] (splitBracketed 0 rest)
  else if startsNumber c rest then
    let hexadecimal := rest.head? = some 'x' || rest.head? = some 'X'
    let (number, after) := splitNumber hexadecimal c rest
    .ok (.literal (String.ofList (c :: number)), after)
  else if isAlphabetic c || c = '_' then
    let word := c :: rest.takeWhile isWordChar
    let after := rest.dropWhile isWordChar
    (ofWord word after).map fun token => (token, after)
  else
    match Sign.take? (c :: rest) with
    | some (found, after) => .ok (.sign found, after)
    | none => .error (.malformed text)

/-! ## Progress -/

theorem splitQuoted_length_le
    {cs inside after : List Char}
    (split : splitQuoted cs = some (inside, after)) :
    after.length ≤ cs.length := by
  fun_induction splitQuoted cs generalizing inside after with
  | case1 => simp at split
  | case2 => simp at split
  | case3 c rest ih =>
      obtain ⟨⟨inner, outer⟩, found, equality⟩ := Option.map_eq_some_iff.mp split
      obtain ⟨-, rfl⟩ := Prod.mk.injEq .. ▸ equality
      exact Nat.le_succ_of_le (Nat.le_succ_of_le (ih found))
  | case4 rest =>
      obtain ⟨-, rfl⟩ := Prod.mk.injEq .. ▸ Option.some.inj split
      exact Nat.le_succ _
  | case5 c rest _ _ _ ih =>
      obtain ⟨⟨inner, outer⟩, found, equality⟩ := Option.map_eq_some_iff.mp split
      obtain ⟨-, rfl⟩ := Prod.mk.injEq .. ▸ equality
      exact Nat.le_succ_of_le (ih found)

theorem splitBracketed_length_le
    {depth : Nat}
    {cs inside after : List Char}
    (split : splitBracketed depth cs = some (inside, after)) :
    after.length ≤ cs.length := by
  fun_induction splitBracketed depth cs generalizing inside after with
  | case1 => simp at split
  | case2 => simp at split
  | case3 depth c rest ih =>
      obtain ⟨⟨inner, outer⟩, found, equality⟩ := Option.map_eq_some_iff.mp split
      obtain ⟨-, rfl⟩ := Prod.mk.injEq .. ▸ equality
      exact Nat.le_succ_of_le (Nat.le_succ_of_le (ih found))
  | case4 depth rest ih =>
      obtain ⟨⟨inner, outer⟩, found, equality⟩ := Option.map_eq_some_iff.mp split
      obtain ⟨-, rfl⟩ := Prod.mk.injEq .. ▸ equality
      exact Nat.le_succ_of_le (ih found)
  | case5 rest =>
      obtain ⟨-, rfl⟩ := Prod.mk.injEq .. ▸ Option.some.inj split
      exact Nat.le_succ _
  | case6 rest depth ih =>
      obtain ⟨⟨inner, outer⟩, found, equality⟩ := Option.map_eq_some_iff.mp split
      obtain ⟨-, rfl⟩ := Prod.mk.injEq .. ▸ equality
      exact Nat.le_succ_of_le (ih found)
  | case7 depth c rest _ _ _ _ ih =>
      obtain ⟨⟨inner, outer⟩, found, equality⟩ := Option.map_eq_some_iff.mp split
      obtain ⟨-, rfl⟩ := Prod.mk.injEq .. ▸ equality
      exact Nat.le_succ_of_le (ih found)

theorem splitName_length_le
    {cs inside after : List Char}
    (split : splitName cs = some (inside, after)) :
    after.length ≤ cs.length := by
  unfold splitName at split
  split at split
  · obtain ⟨⟨inner, outer⟩, found, equality⟩ := Option.map_eq_some_iff.mp split
    obtain ⟨-, rfl⟩ := Prod.mk.injEq .. ▸ equality
    exact Nat.le_succ_of_le (Nat.le_of_lt (splitAtBrace_length_lt found))
  · have bound := takeName_length_le cs
    rw [Option.some.inj split] at bound
    exact bound

theorem splitNumber_length_le (hexadecimal : Bool) (before : Char) (cs : List Char) :
    (splitNumber hexadecimal before cs).2.length ≤ cs.length := by
  fun_induction splitNumber hexadecimal before cs with
  | case1 => simp
  | case2 before c rest _ _ number after equality ih =>
      rw [equality] at ih
      exact Nat.le_succ_of_le ih
  | case3 => simp

theorem operand_length_le
    {token : String → Token}
    {fault : ScanFault}
    {start rest after : List Char}
    {split : Option (List Char × List Char)}
    {found : Token}
    (bound : ∀ inside behind, split = some (inside, behind) → behind.length ≤ rest.length)
    (step : operand token fault start split = .ok (found, after)) :
    after.length ≤ rest.length := by
  unfold operand at step
  split at step
  · rename_i inside behind
    obtain ⟨-, rfl⟩ := Prod.mk.injEq .. ▸ Except.ok.inj step
    exact bound _ _ rfl
  · simp at step

theorem next_length_le
    {text : String}
    {c : Char}
    {rest after : List Char}
    {token : Token}
    (step : next text c rest = .ok (token, after)) :
    after.length ≤ rest.length := by
  unfold next at step
  split at step
  · simp at step; simp [← step.2]
  split at step
  · simp at step; simp [← step.2]
  split at step
  · simp at step; simp [← step.2]
  split at step
  · exact operand_length_le
      (fun _ _ found => Nat.le_of_lt (splitBraced_length_lt found)) step
  split at step
  · exact operand_length_le (fun _ _ found => splitQuoted_length_le found) step
  split at step
  · exact operand_length_le (fun _ _ found => splitName_length_le found) step
  split at step
  · exact operand_length_le (fun _ _ found => splitBracketed_length_le found) step
  split at step
  · have bound := splitNumber_length_le
      (rest.head? = some 'x' || rest.head? = some 'X') c rest
    obtain ⟨-, rfl⟩ := Prod.mk.injEq .. ▸ Except.ok.inj step
    exact bound
  split at step
  · cases made : ofWord (c :: rest.takeWhile isWordChar) (rest.dropWhile isWordChar) with
    | error fault => simp [made, Except.map] at step
    | ok found =>
        simp [made, Except.map] at step
        rw [← step.2]
        exact length_dropWhile_le _ _
  · split at step
    · rename_i found behind taken
      obtain ⟨-, rfl⟩ := Prod.mk.injEq .. ▸ Except.ok.inj step
      exact Nat.le_of_lt_succ (Sign.take?_length_lt taken)
    · simp at step

end Token

/-- The tokens of the rest of a formula. -/
def tokensFrom (text : String) (cs : List Char) : Except Fault (List Token) :=
  match cs with
  | [] => .ok []
  | c :: rest =>
      if isBlank c then
        tokensFrom text rest
      else
        match _step : Token.next text c rest with
        | .error fault => .error fault
        | .ok (token, after) => (tokensFrom text after).map (token :: ·)
  termination_by cs.length
  decreasing_by
    · simp
    · exact Nat.lt_succ_of_le (Token.next_length_le _step)

def tokens (text : String) : Except Fault (List Token) :=
  tokensFrom text text.toList

end ScriptBridge.Arithmetic
