import ScriptBridge.Numeral.Integer

/-!
# Backslash escapes

Lists and scripts read a backslash in the same way: letters for control characters, `\xhh` and
`\uhhhh` for code points, a line end with the blanks after it for one space, and any other
character for itself.
-/

namespace ScriptBridge.Text

/-! ## One escape -/

/-- The control character that a letter after a backslash stands for. -/
def controlOf? : Char → Option Char
  | 'n' => some '\n'
  | 't' => some '\t'
  | 'r' => some '\r'
  | 'a' => some '\x07'
  | 'b' => some '\x08'
  | 'f' => some '\x0c'
  | 'v' => some '\x0b'
  | _ => none

/-- The blanks of a line: space and tab. -/
def isLineBlank (c : Char) : Bool :=
  c = ' ' || c = '\t'

def charOfCode? (code : Nat) : Option Char :=
  if h : code.isValidChar then some (Char.ofNatAux code h) else none

/-- Reads up to `limit` hexadecimal digits for a code point. Without a digit the mark stands for
itself, and a number that is no character for nothing. -/
def readCode (mark : Char) (limit : Nat) (cs : List Char) : List Char × List Char :=
  let digits := (cs.take limit).takeWhile (Numeral.isDigitOf 16)
  if digits.isEmpty then
    ([mark], cs)
  else
    ((charOfCode? (Numeral.natOfDigits 16 digits)).toList, cs.drop digits.length)

/-- What a backslash in front of `cs` stands for, with the rest of the text. -/
def readEscape (cs : List Char) : List Char × List Char :=
  match cs with
  | [] => (['\\'], [])
  | '\n' :: rest => ([' '], rest.dropWhile isLineBlank)
  | 'x' :: rest => readCode 'x' 2 rest
  | 'u' :: rest => readCode 'u' 4 rest
  | c :: rest => ([(controlOf? c).getD c], rest)

theorem length_dropWhile_le (test : Char → Bool) (cs : List Char) :
    (cs.dropWhile test).length ≤ cs.length :=
  (List.dropWhile_suffix test).length_le

theorem readCode_length_le (mark : Char) (limit : Nat) (cs : List Char) :
    (readCode mark limit cs).2.length ≤ cs.length := by
  unfold readCode
  dsimp only
  split
  · exact Nat.le_refl _
  · simp

theorem readEscape_length_le (cs : List Char) :
    (readEscape cs).2.length ≤ cs.length := by
  unfold readEscape
  split
  · simp
  · exact Nat.le_succ_of_le (length_dropWhile_le _ _)
  · exact Nat.le_succ_of_le (readCode_length_le _ _ _)
  · exact Nat.le_succ_of_le (readCode_length_le _ _ _)
  · simp

/-! ## A run of text -/

/-- Reads text with its escapes up to the first character that is to stop at, or to the end. -/
def readUntil (stop : Char → Bool) (cs : List Char) : List Char × List Char :=
  match cs with
  | [] => ([], [])
  | c :: rest =>
      if stop c then
        ([], c :: rest)
      else if c = '\\' then
        let escape := readEscape rest
        let later := readUntil stop escape.2
        (escape.1 ++ later.1, later.2)
      else
        let later := readUntil stop rest
        (c :: later.1, later.2)
  termination_by cs.length
  decreasing_by
    · exact Nat.lt_succ_of_le (readEscape_length_le rest)
    · simp

theorem readUntil_length_le (stop : Char → Bool) (cs : List Char) :
    (readUntil stop cs).2.length ≤ cs.length := by
  fun_induction readUntil stop cs with
  | case1 => simp
  | case2 => simp
  | case3 rest escape later _ ih =>
      exact Nat.le_succ_of_le (Nat.le_trans ih (readEscape_length_le rest))
  | case4 _ _ _ _ _ ih =>
      exact Nat.le_succ_of_le ih

end ScriptBridge.Text
