import ScriptBridge.Script.Tree
import ScriptBridge.Text.Brace
import ScriptBridge.Text.Escape
import ScriptBridge.Text.Letter

/-!
# Reading scripts

Commands end at a line end or a semicolon, words at blanks. A word in braces is taken as it
stands, one in quotes and a bare one with its substitutions. What a script does has no influence
on how it is read, so reading comes first and yields a tree.

Every reader returns the text behind what it has read, together with a bound on its length; the
bounds are what makes the readers terminate.
-/

namespace ScriptBridge

open Text

/-! ## Results of readers -/

/-- What a reader found. A complete reading leaves a rest of at most `limit` characters. -/
inductive Reading (α : Type) (limit : Nat) where
  | complete (value : α) (rest : List Char) (within : rest.length ≤ limit)
  | cut (value : α) (fault : ScanFault)

namespace Reading

def map {α β : Type} {limit : Nat} (change : α → β) : Reading α limit → Reading β limit
  | complete value rest within => complete (change value) rest within
  | cut value fault => cut (change value) fault

def widen
    {α : Type}
    {limit larger : Nat}
    (bound : limit ≤ larger) : Reading α limit → Reading α larger
  | complete value rest within => complete value rest (Nat.le_trans within bound)
  | cut value fault => cut value fault

/-- What was read, whether or not a fault cut it off. -/
def value {α : Type} {limit : Nat} : Reading α limit → α
  | complete value _ _ => value
  | cut value _ => value

end Reading

/-! ## Variable references -/

/-- The longest name at the start of a text: letters, numbers and underscores of any script, and
pairs of colons. -/
def takeName : List Char → List Char × List Char
  | [] => ([], [])
  | ':' :: ':' :: rest =>
      let (name, after) := takeName rest
      (':' :: ':' :: name, after)
  | c :: rest =>
      if isAlphanumeric c || c = '_' then
        let (name, after) := takeName rest
        (c :: name, after)
      else
        ([], c :: rest)

theorem takeName_append (cs : List Char) :
    (takeName cs).1 ++ (takeName cs).2 = cs := by
  fun_induction takeName cs with
  | case1 => rfl
  | case2 rest name after equality ih => simpa [equality] using ih
  | case3 c rest _ _ name after equality ih => simpa [equality] using ih
  | case4 => rfl

theorem takeName_length_le (cs : List Char) :
    (takeName cs).2.length ≤ cs.length := by
  have parts := congrArg List.length (takeName_append cs)
  rw [List.length_append] at parts
  omega

def splitAtBrace : List Char → Option (List Char × List Char)
  | [] => none
  | '}' :: rest => some ([], rest)
  | c :: rest => (splitAtBrace rest).map fun (name, after) => (c :: name, after)

theorem splitAtBrace_append
    {cs name after : List Char}
    (split : splitAtBrace cs = some (name, after)) :
    cs = name ++ '}' :: after := by
  fun_induction splitAtBrace cs generalizing name after with
  | case1 => simp at split
  | case2 rest =>
      obtain ⟨rfl, rfl⟩ := Prod.mk.injEq .. ▸ Option.some.inj split
      rfl
  | case3 c rest _ ih =>
      obtain ⟨⟨inner, outer⟩, found, equality⟩ := Option.map_eq_some_iff.mp split
      obtain ⟨rfl, rfl⟩ := Prod.mk.injEq .. ▸ equality
      simp [ih found]

theorem splitAtBrace_length_lt
    {cs name after : List Char}
    (split : splitAtBrace cs = some (name, after)) :
    after.length < cs.length := by
  simp only [splitAtBrace_append split, List.length_append, List.length_cons]
  omega

/-- Reads what follows a dollar sign: a name, a name in braces, or nothing that is a name; then the
sign stands for itself. -/
def readReference (cs : List Char) : Reading Piece cs.length :=
  match cs with
  | '{' :: rest =>
      match _split : splitAtBrace rest with
      | some (name, after) =>
          .complete (.variable (String.ofList name)) after <|
            Nat.le_of_lt <| Nat.lt_succ_of_lt <| splitAtBrace_length_lt _split
      | none => .cut (.literal []) .openName
  | text =>
      let name := takeName text
      .complete
        (if name.1.isEmpty then .literal ['$'] else .variable (String.ofList name.1))
        name.2
        (takeName_length_le text)

/-! ## Words and commands -/

def endsWordAt (nested : Bool) (c : Char) : Bool :=
  isBlank c || c = ';' || (nested && c = ']')

def endsWord (nested : Bool) : List Char → Bool
  | [] => true
  | c :: _ => endsWordAt nested c

/-- Text in braces with each escaped line end, and the blanks behind it, as one space. All other
escapes stay as they are. -/
def joinLines : List Char → List Char
  | [] => []
  | ['\\'] => ['\\']
  | '\\' :: '\n' :: rest => ' ' :: joinLines (rest.dropWhile isLineBlank)
  | '\\' :: c :: rest => '\\' :: c :: joinLines rest
  | c :: rest => c :: joinLines rest
  termination_by cs => cs.length
  decreasing_by
    · have shorter := length_dropWhile_le isLineBlank rest
      simp only [List.length_cons]
      omega
    · simp only [List.length_cons]
      omega
    · simp

/-- What follows a comment: its line end, unless a backslash stands before that. -/
def dropComment : List Char → List Char
  | [] => []
  | ['\\'] => []
  | '\\' :: _ :: rest => dropComment rest
  | '\n' :: rest => '\n' :: rest
  | _ :: rest => dropComment rest

theorem dropComment_length_le (cs : List Char) :
    (dropComment cs).length ≤ cs.length := by
  fun_induction dropComment cs with
  | case1 => simp
  | case2 => simp
  | case3 c rest ih =>
      simp only [List.length_cons]
      omega
  | case4 => simp
  | case5 c rest _ _ _ ih => exact Nat.le_succ_of_le ih

def Script.finish (words : Option (List Word)) (rest : Script) : Script :=
  match words with
  | none => rest
  | some words => .command words rest

mutual

def readPiece (c : Char) (rest : List Char) : Reading Piece rest.length :=
  if c = '$' then
    readReference rest
  else if c = '[' then
    (readScript true none rest).map .command
  else if c = '\\' then
    .complete (.literal (readEscape rest).1) (readEscape rest).2 (readEscape_length_le rest)
  else
    .complete (.literal [c]) rest (Nat.le_refl _)
  termination_by (rest.length, 4)

/-- Reads pieces up to the first character that is to stop at, or to the end. -/
def readPieces (stop : Char → Bool) (cs : List Char) : Reading (List Piece) cs.length :=
  match cs with
  | [] => .complete [] [] (Nat.le_refl _)
  | c :: rest =>
      if stop c then
        .complete [] (c :: rest) (Nat.le_refl _)
      else
        match readPiece c rest with
        | .complete piece after within =>
            ((readPieces stop after).map (piece :: ·)).widen (Nat.le_succ_of_le within)
        | .cut piece fault => .cut [piece] fault
  termination_by (cs.length, 0)
  decreasing_by
    · simp only [Prod.lex_def, List.length_cons]
      omega
    · simp only [Prod.lex_def, List.length_cons]
      omega

/-- Takes the word that starts with `c`, up to where it ends. A bare one may end where it starts. -/
def takeWord (nested : Bool) (c : Char) (rest : List Char) : Reading Word (rest.length + 1) :=
  if c = '{' then
    match _split : splitBraced 0 rest with
    | none => .cut [] .openBrace
    | some (inside, after) =>
        if endsWord nested after then
          .complete [.literal (joinLines inside)] after <|
            Nat.le_succ_of_le (Nat.le_of_lt (splitBraced_length_lt _split))
        else
          .cut [] .afterBrace
  else if c = '"' then
    match readPieces (· = '"') rest with
    | .cut pieces fault => .cut pieces fault
    | .complete pieces [] _ => .cut pieces .openQuote
    | .complete pieces (_ :: after) within =>
        if endsWord nested after then
          .complete pieces after (Nat.le_succ_of_le (Nat.le_of_succ_le within))
        else
          .cut pieces .afterQuote
  else
    readPieces (endsWordAt nested) (c :: rest)
  termination_by (rest.length + 1, 1)
  decreasing_by
    · exact Prod.Lex.left _ _ (Nat.lt_succ_self _)
    · exact Prod.Lex.right _ (by decide)

/-- Reads a word. One that ends where it starts would be read for ever. -/
def readWord (nested : Bool) (c : Char) (rest : List Char) : Reading Word rest.length :=
  match takeWord nested c rest with
  | .complete word after _ =>
      if moved : after.length ≤ rest.length then .complete word after moved else .cut [] .stuck
  | .cut pieces fault => .cut pieces fault
  termination_by (rest.length + 1, 2)
  decreasing_by exact Prod.Lex.right _ (by decide)

/-- Reads commands; inside brackets up to the closing one. `words` are those of the command that is
being read, `none` in front of a command. Only there all blanks are skipped and comments are
known. -/
def readScript
    (nested : Bool)
    (words : Option (List Word))
    (cs : List Char) : Reading Script cs.length :=
  match cs with
  | [] =>
      if nested then
        .cut (.cut (words.getD []) [] .openBracket) .openBracket
      else
        .complete (Script.finish words .done) [] (Nat.le_refl _)
  | c :: rest =>
      if isLineBlank c then
        (readScript nested words rest).widen (Nat.le_succ _)
      else if c = '\\' && rest.head? = some '\n' then
        (readScript nested (some (words.getD [])) rest.tail).widen <| by
          simp only [List.length_tail, List.length_cons]
          omega
      else if c = '\n' || c = ';' then
        ((readScript nested none rest).map (Script.finish words)).widen (Nat.le_succ _)
      else if nested && c = ']' then
        .complete (Script.finish words .done) rest (Nat.le_succ _)
      else if words.isNone && isBlank c then
        (readScript nested none rest).widen (Nat.le_succ _)
      else if words.isNone && c = '#' then
        (readScript nested none (dropComment rest)).widen <|
          Nat.le_succ_of_le (dropComment_length_le rest)
      else
        match readWord nested c rest with
        | .complete word after within =>
            (readScript nested (some (words.getD [] ++ [word])) after).widen
              (Nat.le_succ_of_le within)
        | .cut pieces fault => .cut (.cut (words.getD []) pieces fault) fault
  termination_by (cs.length, 3)
  decreasing_by
    · simp only [Prod.lex_def, List.length_cons]
      omega
    · simp only [Prod.lex_def, List.length_cons, List.length_tail]
      omega
    · simp only [Prod.lex_def, List.length_cons]
      omega
    · simp only [Prod.lex_def, List.length_cons]
      omega
    · have shorter := dropComment_length_le rest
      simp only [Prod.lex_def, List.length_cons]
      omega
    · exact Prod.Lex.right _ (by decide)
    · simp only [Prod.lex_def, List.length_cons]
      omega

end

/-! ## Whole texts -/

def Script.ofText (text : String) : Script :=
  (readScript false none text.toList).value

/-- A text to substitute in, which is all one word. -/
structure Template where
  pieces : List Piece
  fault : Option ScanFault

def Template.ofText (text : String) : Template :=
  match readPieces (fun _ => false) text.toList with
  | .complete pieces _ _ => ⟨pieces, none⟩
  | .cut pieces fault => ⟨pieces, some fault⟩

end ScriptBridge
