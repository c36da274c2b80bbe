import ScriptBridge.Text.Ranges

/-!
# Blank characters

White space is the Unicode property White_Space: besides space, tab and the line ends it has the
no-break space, the wide spaces and the two Unicode separators. Lists, numbers and settings are
trimmed and split by it.
-/

namespace ScriptBridge.Text

/-- The code points with the property White_Space. -/
def blankRanges : List (Nat × Nat) := [
  (0x9, 0xD), (0x20, 0x20), (0x85, 0x85), (0xA0, 0xA0), (0x1680, 0x1680), (0x2000, 0x200A),
  (0x2028, 0x2029), (0x202F, 0x202F), (0x205F, 0x205F), (0x3000, 0x3000)]

def isBlank (c : Char) : Bool :=
  inRanges blankRanges c.toNat

def trimLeft (cs : List Char) : List Char :=
  cs.dropWhile isBlank

def trim (cs : List Char) : List Char :=
  (trimLeft (trimLeft cs).reverse).reverse

/-- The longest part without blanks at the start of a text. -/
def firstWord (cs : List Char) : List Char :=
  cs.takeWhile (!isBlank ·)

/-- The rest of the lines of a text, where `line` holds backwards what has been read of the first. -/
def linesFrom (line : List Char) : List Char → List (List Char)
  | [] => if line.isEmpty then [] else [line.reverse]
  | '\n' :: rest => (dropReturn line).reverse :: linesFrom [] rest
  | c :: rest => linesFrom (c :: line) rest
where
  dropReturn : List Char → List Char
    | '\r' :: line => line
    | line => line

/-- The lines of a text: each ends with a line feed, a carriage return before that belongs to the
line end, and the end of the text starts no further line. -/
def linesOf (cs : List Char) : List (List Char) :=
  linesFrom [] cs

theorem isBlank_space : isBlank ' ' = true := by decide

theorem isBlank_newline : isBlank '\n' = true := by decide

end ScriptBridge.Text
