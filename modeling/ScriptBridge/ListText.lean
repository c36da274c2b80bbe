import ScriptBridge.Text.Brace
import ScriptBridge.Text.Escape

/-!
# Lists as text

A list is written as its elements with blanks between them. An element in braces is taken as it
stands, one in quotes or bare with its backslash escapes. Writing picks the plainest form that
reads back as the same element.
-/

namespace ScriptBridge.ListText

open Text

/-! ## Faults -/

inductive Fault where
  | openBrace
  | openQuote
  /-- Text stands directly behind an element in braces. -/
  | afterBrace (word : String)
  /-- Text stands directly behind an element in quotes. -/
  | afterQuote (word : String)
  deriving Repr, DecidableEq

def Fault.message : Fault → String
  | .openBrace => "unmatched open brace in list"
  | .openQuote => "unmatched open quote in list"
  | .afterBrace word => "list element in braces followed by \"" ++ word ++ "\" instead of space"
  | .afterQuote word => "list element in quotes followed by \"" ++ word ++ "\" instead of space"

/-! ## Reading -/

def endsElement : List Char → Bool
  | [] => true
  | c :: _ => isBlank c

def reported (cs : List Char) : String :=
  String.ofList (firstWord cs)

/-- Reads the element at the start of a text that starts with no blank. -/
def readElement (cs : List Char) : Except Fault (List Char × List Char) :=
  match cs with
  | '{' :: rest =>
      match splitBraced 0 rest with
      | none => .error .openBrace
      | some (inside, after) =>
          if endsElement after then .ok (inside, after) else .error (.afterBrace (reported after))
  | '"' :: rest =>
      match readUntil (· = '"') rest with
      | (_, []) => .error .openQuote
      | (inside, _ :: after) =>
          if endsElement after then .ok (inside, after) else .error (.afterQuote (reported after))
  | _ => .ok (readUntil isBlank cs)

theorem readElement_length_lt
    {c : Char}
    {rest element after : List Char}
    (notBlank : isBlank c = false)
    (read : readElement (c :: rest) = .ok (element, after)) :
    after.length < (c :: rest).length := by
  unfold readElement at read
  split at read
  case h_1 inner heads =>
      obtain ⟨rfl, rfl⟩ := List.cons_eq_cons.mp heads
      split at read
      · simp at read
      · rename_i inside behind split_
        split at read <;> simp at read
        obtain ⟨rfl, rfl⟩ := read
        exact Nat.lt_succ_of_lt (splitBraced_length_lt split_)
  case h_2 inner heads =>
      obtain ⟨rfl, rfl⟩ := List.cons_eq_cons.mp heads
      have bound := readUntil_length_le (· = '"') rest
      split at read
      · simp at read
      · rename_i inside quote behind run
        rw [run] at bound
        split at read <;> simp at read
        obtain ⟨rfl, rfl⟩ := read
        simp only [List.length_cons] at bound ⊢
        omega
  case h_3 =>
      have equality := Except.ok.inj read
      unfold readUntil at equality
      simp only [notBlank, Bool.false_eq_true, if_false] at equality
      split at equality
      · obtain ⟨-, rfl⟩ := Prod.mk.injEq .. ▸ equality
        exact Nat.lt_succ_of_le <|
          Nat.le_trans (readUntil_length_le _ _) (readEscape_length_le _)
      · obtain ⟨-, rfl⟩ := Prod.mk.injEq .. ▸ equality
        exact Nat.lt_succ_of_le (readUntil_length_le _ _)

def read (cs : List Char) : Except Fault (List String) :=
  match cs with
  | [] => .ok []
  | c :: rest =>
      match _notBlank : isBlank c with
      | true => read rest
      | false =>
          match _isElement : readElement (c :: rest) with
          | .error fault => .error fault
          | .ok (item, after) => do
              let items ← read after
              return String.ofList item :: items
  termination_by cs.length
  decreasing_by
    · simp
    · exact readElement_length_lt _notBlank _isElement

def parse (text : String) : Except Fault (List String) :=
  read text.toList

/-! ## Writing -/

/-- The characters that mean something to a reader of lists or scripts. -/
def isSpecial (c : Char) : Bool :=
  isBlank c || ['{', '}', '[', ']', '$', '"', ';', '\\'].contains c

/-- Whether all braces of a text match inside `depth` open ones, those behind a backslash apart. -/
def bracesMatch (depth : Nat) : List Char → Bool
  | [] => depth = 0
  | ['\\'] => depth = 0
  | '\\' :: _ :: rest => bracesMatch depth rest
  | '{' :: rest => bracesMatch (depth + 1) rest
  | '}' :: rest =>
      match depth with
      | 0 => false
      | depth + 1 => bracesMatch depth rest
  | _ :: rest => bracesMatch depth rest

/-- A character of a bare element, with a backslash where it needs one. -/
def escapeChar (c : Char) : List Char :=
  if c = '\n' then ['\\', 'n']
  else if c = '\t' then ['\\', 't']
  else if isSpecial c || c = '#' then ['\\', c]
  else [c]

/-- The written form of one element: bare if nothing in it is special, else in braces if they
would match, else with backslashes. -/
def writeElement (item : List Char) : List Char :=
  if item.isEmpty then ['{', '}']
  else if !item.any isSpecial && item.head? != some '#' then item
  else if bracesMatch 0 item && item.getLast? != some '\\' then '{' :: item ++ ['}']
  else item.flatMap escapeChar

def element (item : String) : String :=
  String.ofList (writeElement item.toList)

def format (items : List String) : String :=
  " ".intercalate (items.map element)

end ScriptBridge.ListText
