/-!
# Glob patterns

In a pattern a star stands for any text and a question mark for any one character; a backslash
makes the character after it stand for itself.
-/

namespace ScriptBridge.Glob

/-- Whether some end of a text, the text itself included, passes a test. -/
def anySuffix (test : List Char → Bool) : List Char → Bool
  | [] => test []
  | c :: rest => test (c :: rest) || anySuffix test rest

/-- Whether a pattern matches the whole of a text. -/
def matchesChars : (pattern text : List Char) → Bool
  | [], text => text.isEmpty
  | '*' :: pattern, text => anySuffix (matchesChars pattern) text
  | '?' :: pattern, text =>
      match text with
      | [] => false
      | _ :: rest => matchesChars pattern rest
  | '\\' :: c :: pattern, text =>
      match text with
      | [] => false
      | first :: rest => first == c && matchesChars pattern rest
  | c :: pattern, text =>
      match text with
      | [] => false
      | first :: rest => first == c && matchesChars pattern rest

def matchesText (pattern text : String) : Bool :=
  matchesChars pattern.toList text.toList

end ScriptBridge.Glob
