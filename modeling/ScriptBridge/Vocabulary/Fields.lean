/-!
# Substitution fields

Codes in the scripts of bindings and of validation commands, which are replaced by data of the
event or of the edit.
-/

namespace ScriptBridge

/-- Data of an event. -/
inductive EventField where
  | char | button | delta | focus | height | keycode | keysym | mode | keysymNum | state | type
  | width | window | x | rootX | y | rootY
  deriving Repr, DecidableEq

def EventField.letter : EventField → Char
  | char => 'A'
  | button => 'b'
  | delta => 'D'
  | focus => 'f'
  | height => 'h'
  | keycode => 'k'
  | keysym => 'K'
  | mode => 'm'
  | keysymNum => 'N'
  | state => 's'
  | type => 'T'
  | width => 'w'
  | window => 'W'
  | x => 'x'
  | rootX => 'X'
  | y => 'y'
  | rootY => 'Y'

/-- Data of an edit that is to be validated. -/
inductive EditField where
  | action | index | newValue | oldValue | change | mode | trigger | widget
  deriving Repr, DecidableEq

def EditField.letter : EditField → Char
  | action => 'd'
  | index => 'i'
  | newValue => 'P'
  | oldValue => 's'
  | change => 'S'
  | mode => 'v'
  | trigger => 'V'
  | widget => 'W'

def scriptWithFields (name : String) (letters : List Char) : String :=
  letters.foldl (fun script letter => script ++ " %" ++ letter.toString) name

end ScriptBridge
