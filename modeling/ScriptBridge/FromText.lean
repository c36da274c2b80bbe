import ScriptBridge.Failure
import ScriptBridge.Numeral.Decimal
import ScriptBridge.Truth

/-!
# Typed values out of text

Every result and every argument is a text. Host programs read it as an integer of 64 or 32 bits, a
floating-point number, a truth value or the text itself, or index it as a list.
-/

namespace ScriptBridge

class FromText (α : Type) where
  fromText : String → Except Failure α

export FromText (fromText)

/-! ## Scalars -/

instance : FromText Int64 where
  fromText text :=
    match Numeral.readWord? text with
    | some value => .ok value
    | none => .error (.conversion (.noInteger text))

instance : FromText Int32 where
  fromText text := do
    let wide : Int64 ← fromText text
    match Numeral.narrow? wide with
    | some value => return value
    | none => throw (.conversion (.tooLarge text))

instance : FromText Float where
  fromText text :=
    match Numeral.readFloat? text with
    | some value => .ok value
    | none => .error (.conversion (.noFloat text))

instance : FromText Bool where
  fromText text :=
    match Truth.read? text with
    | some value => .ok value
    | none => .error (.conversion (.noTruth text))

instance : FromText String where
  fromText text := .ok text

/-! ## Lists -/

def listFromText (text : String) : Except Failure (List String) :=
  (ListText.parse text).mapError fun fault => .conversion (.noList fault)

def elementAt (α : Type) [FromText α] (items : List String) (index : Nat) : Except Failure α :=
  match items[index]? with
  | some item => fromText item
  | none => .error (.range (.listIndex index))

/-! ## Coordinates -/

structure Point where
  x : Int64
  y : Int64
  deriving Repr, DecidableEq

/-- A rectangle between two corners. -/
structure Rect where
  x1 : Int64
  y1 : Int64
  x2 : Int64
  y2 : Int64
  deriving Repr, DecidableEq

def Rect.width (rect : Rect) : Int64 :=
  rect.x2 - rect.x1

def Rect.height (rect : Rect) : Int64 :=
  rect.y2 - rect.y1

/-- A coordinate: an integer, or a number rounded to the nearest one. -/
def coordinate (item : String) : Except Failure Int64 :=
  match Numeral.readWord? item with
  | some value => .ok value
  | none => do
      let value : Float ← fromText item
      return Numeral.wordOfFloat value.round

/-- The coordinates that a text lists for a shape; a blank text has them all zero. -/
def coordinates (shape : String) (count : Nat) (text : String) : Except Failure (List Int64) := do
  if (Text.trim text.toList).isEmpty then
    return List.replicate count 0
  else
    let items ← listFromText text
    if items.length < count then
      throw (.conversion (.tooFewCoordinates shape count items.length))
    else
      (items.take count).mapM coordinate

instance : FromText Point where
  fromText text := do
    let values ← coordinates "Point" 2 text
    return ⟨values[0]?.getD 0, values[1]?.getD 0⟩

instance : FromText Rect where
  fromText text := do
    let values ← coordinates "Rect" 4 text
    return ⟨values[0]?.getD 0, values[1]?.getD 0, values[2]?.getD 0, values[3]?.getD 0⟩

/-! ## Arguments of a callback -/

/-- The words of a call; the first is the name of the command. -/
structure Parameters where
  words : List String

namespace Parameters

/-- The number of arguments behind the name. -/
def count (parameters : Parameters) : Nat :=
  parameters.words.length - 1

def get (α : Type) [FromText α] (parameters : Parameters) (index : Nat) : Except Failure α :=
  match index, parameters.words[index]? with
  | 0, _ | _, none => .error (.range (.parameter index))
  | _ + 1, some word => fromText word

end Parameters

/-! ## Texts of values -/

/-- A type whose values a callback can return; `none` leaves the result empty. -/
class ToResult (α : Type) where
  toResult : α → Option String

export ToResult (toResult)

instance : ToResult Unit where
  toResult _ := none

instance : ToResult Bool where
  toResult value := some (Truth.digit value)

instance : ToResult Int64 where
  toResult value := some (Numeral.formatWord value)

instance : ToResult Int32 where
  toResult value := some (toString value.toInt)

instance : ToResult Float where
  toResult value := some (Numeral.formatFloat value)

instance : ToResult String where
  toResult value := some value

end ScriptBridge
