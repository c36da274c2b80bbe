import ScriptBridge.Commands.Glob
import ScriptBridge.Commands.Index
import ScriptBridge.Text.LetterCase
import ScriptBridge.Truth

/-!
# Commands on texts
-/

namespace ScriptBridge.Commands

variable {Key Host : Type}

open ScriptBridge.Action

/-- The longest text, in bytes, that may be made by repetition. -/
def longestText : Nat := Nat.pow 2 31 - 1

/-- The position of the first place where a text occurs in another one; `index` counts the
characters in front of the second. -/
def findText (needle : List Char) : (index : Nat) → List Char → Option Nat
  | index, [] => if needle.isEmpty then some index else none
  | index, c :: rest =>
      if (Index.dropStart? needle (c :: rest)).isSome then some index
      else findText needle (index + 1) rest

def charRange (cs : List Char) (first last : Int) : List Char :=
  (cs.take (last + 1).toNat).drop first.toNat

def trimSet : Option String → List Char
  | some chars => chars.toList
  | none => [' ', '\t', '\n', '\r']

inductive TrimSide where
  | left | right | both
  deriving Repr, DecidableEq

def trimText (side : TrimSide) (set cs : List Char) : List Char :=
  let trimLeft (cs : List Char) := cs.dropWhile set.contains
  let trimRight (cs : List Char) := (trimLeft cs.reverse).reverse
  match side with
  | .left => trimLeft cs
  | .right => trimRight cs
  | .both => trimRight (trimLeft cs)

/-- Trims as one of the trim subcommands, called `name`, says. -/
def trim (name : String) (side : TrimSide) : List String → Action Key Host String
  | [text] => return String.ofList (trimText side (trimSet none) text.toList)
  | [text, chars] => return String.ofList (trimText side (trimSet (some chars)) text.toList)
  | _ => wrongUsage ("string " ++ name ++ " string ?chars?")

def orderNumber (first second : String) : String :=
  match compare first second with
  | .lt => "-1"
  | .eq => "0"
  | .gt => "1"

/-- A text repeated, unless the result would be too long. -/
def repeatText (text : String) (count : Int64) : Action Key Host String :=
  let count := count.toInt.toNat
  if text.utf8ByteSize * count ≤ longestText then
    return if text.isEmpty then "" else String.join (List.replicate count text)
  else
    fail "result would exceed maximum string length"

def string : List String → Action Key Host String
  | [] => wrongUsage "string subcommand ?arg ...?"
  | "length" :: arguments =>
      match arguments with
      | [text] => return toString text.length
      | _ => wrongUsage "string length string"
  | "equal" :: arguments =>
      match arguments with
      | [first, second] => return Truth.digit (first == second)
      | _ => wrongUsage "string equal string1 string2"
  | "compare" :: arguments =>
      match arguments with
      | [first, second] => return orderNumber first second
      | _ => wrongUsage "string compare string1 string2"
  | "match" :: arguments =>
      match arguments with
      | [pattern, text] => return Truth.digit (Glob.matchesText pattern text)
      | _ => wrongUsage "string match pattern string"
  | "toupper" :: arguments =>
      match arguments with
      | [text] => return Text.toUpper text
      | _ => wrongUsage "string toupper string"
  | "tolower" :: arguments =>
      match arguments with
      | [text] => return Text.toLower text
      | _ => wrongUsage "string tolower string"
  | "trim" :: arguments => trim "trim" .both arguments
  | "trimleft" :: arguments => trim "trimleft" .left arguments
  | "trimright" :: arguments => trim "trimright" .right arguments
  | "index" :: arguments =>
      match arguments with
      | [text, index] => do
          let cs := text.toList
          return String.ofList ((← Index.resolve index cs.length).bind (cs[·]?)).toList
      | _ => wrongUsage "string index string charIndex"
  | "range" :: arguments =>
      match arguments with
      | [text, first, last] => do
          let cs := text.toList
          let first ← Index.resolveBound first cs.length
          let last ← Index.resolveBound last cs.length
          return String.ofList (charRange cs first last)
      | _ => wrongUsage "string range string first last"
  | "first" :: arguments =>
      match arguments with
      | [needle, text] =>
          match findText needle.toList 0 text.toList with
          | some index => return toString index
          | none => return "-1"
      | _ => wrongUsage "string first needleString haystackString"
  | "repeat" :: arguments =>
      match arguments with
      | [text, count] => do repeatText text (← intOf count)
      | _ => wrongUsage "string repeat string count"
  | other :: _ =>
      fail <|
        "unknown or ambiguous subcommand \"" ++ other ++ "\": must be compare, equal, first, " ++
        "index, length, match, range, repeat, tolower, toupper, trim, trimleft, or trimright"

end ScriptBridge.Commands
