/-!
# Qualified names

Colons in pairs qualify a name. A name with a pair of colons in it is global wherever it stands,
and pairs at its start say no more than that.
-/

namespace ScriptBridge.Name

/-- The text behind all pairs of colons at its start. -/
def dropQualifier : List Char → List Char
  | ':' :: ':' :: rest => dropQualifier rest
  | cs => cs

/-- Whether a pair of colons stands somewhere in the text. -/
def hasQualifier : List Char → Bool
  | ':' :: ':' :: _ => true
  | _ :: rest => hasQualifier rest
  | [] => false

/-- The name under which the tables keep an entry. -/
def key (name : String) : String :=
  String.ofList (dropQualifier name.toList)

def isQualified (name : String) : Bool :=
  hasQualifier name.toList

end ScriptBridge.Name
