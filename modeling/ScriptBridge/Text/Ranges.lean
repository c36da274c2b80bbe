/-!
# Range tables

A class of characters is given by the increasing list of its ranges of code points. The tables of
character properties follow version 17.0 of Unicode.
-/

namespace ScriptBridge.Text

/-- Whether a code point lies in one of the ranges, which are in increasing order: the search ends
at the first range that starts past it. -/
def inRanges : List (Nat × Nat) → Nat → Bool
  | [], _ => false
  | (low, high) :: rest, code =>
      if code < low then false
      else if code ≤ high then true
      else inRanges rest code

end ScriptBridge.Text
