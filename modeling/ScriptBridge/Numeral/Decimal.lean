import ScriptBridge.Numeral.Integer

/-!
# Decimal text of floating-point numbers

A finite double is `significand · 2 ^ exponent`. It is written with the fewest decimal digits that
read back as the same double, always in positional notation; a whole number below `10 ^ 15` keeps a
`.0`. Reading accepts digits with a point and an exponent, and the names of infinity and of
not-a-number in any letter case.
-/

namespace ScriptBridge.Numeral

/-! ## Binary form -/

/-- The size of a finite double: `significand · 2 ^ exponent`. `narrowBelow` says that the double
below it is only half as far away as the one above. -/
structure BinaryForm where
  significand : Nat
  exponent : Int
  narrowBelow : Bool

/-- The size of a double from its bits; infinities and not-a-number have no such form. -/
def binaryForm? (x : Float) : Option BinaryForm :=
  let bits := x.toBits.toNat
  let fraction := bits % Nat.pow 2 52
  let biased : Nat := bits / Nat.pow 2 52 % Nat.pow 2 11
  if biased = Nat.pow 2 11 - 1 then none
  else if biased = 0 then some ⟨fraction, -1074, false⟩
  else some ⟨Nat.pow 2 52 + fraction, Int.ofNat biased - 1075, fraction = 0 && 1 < biased⟩

/-- Whether the sign bit is set; it is for minus zero too. -/
def hasMinusSign (x : Float) : Bool :=
  x.toBits.toNat / Nat.pow 2 63 % 2 = 1

/-! ## Integers -/

/-- The double nearest to an integer, of two equally near ones that with the even significand. -/
def floatOfWord (value : Int64) : Float :=
  .ofModel (.ofInt64 value)

/-- The integer part of a number, toward zero; numbers past the ends of the range become the ends
and not-a-number becomes zero. -/
def wordOfFloat (x : Float) : Int64 :=
  x.toModel.toInt64

/-! ## Shortest digits -/

def scaleByTen (numerator denominator : Nat) (power : Int) : Nat × Nat :=
  match power with
  | .ofNat n => (numerator * Nat.pow 10 n, denominator)
  | .negSucc n => (numerator, denominator * Nat.pow 10 (n + 1))

/-- How many zeros follow the point in the decimal form of a quotient below one; the search is
limited by `bound`. -/
def zerosAfterPoint : (bound numerator denominator : Nat) → Nat
  | 0, _, _ => 0
  | bound + 1, numerator, denominator =>
      if denominator ≤ numerator * 10 then 0
      else zerosAfterPoint bound (numerator * 10) denominator + 1

/-- The place of the leading digit: a positive quotient lies in `[10 ^ (p - 1), 10 ^ p)`. -/
def leadingPlace (numerator denominator : Nat) : Int :=
  if denominator ≤ numerator then
    (Nat.toDigits 10 (numerator / denominator)).length
  else
    -(zerosAfterPoint 400 numerator denominator : Int)

/-- The numbers that read back as a given one: a centre with a lower and an upper end, all over the
same denominator. The ends belong to it if `closed`. -/
structure RoundingInterval where
  lower : Nat
  centre : Nat
  upper : Nat
  denominator : Nat
  closed : Bool

/-- The numbers that round to a double, a tie going to the even significand. -/
def BinaryForm.interval (form : BinaryForm) : RoundingInterval :=
  let (factor, denominator) : Nat × Nat :=
    match form.exponent - 2 with
    | .ofNat n => (Nat.pow 2 n, 1)
    | .negSucc n => (1, Nat.pow 2 (n + 1))
  let centre := 4 * form.significand
  { lower := (centre - if form.narrowBelow then 1 else 2) * factor
    centre := centre * factor
    upper := (centre + 2) * factor
    denominator
    closed := form.significand % 2 = 0 }

/-- Whether `digits / scale`, over the denominator of the interval, lies in it. -/
def RoundingInterval.holds (interval : RoundingInterval) (digits scale : Nat) : Bool :=
  let scaled := digits * scale
  if interval.closed then
    interval.lower ≤ scaled && scaled ≤ interval.upper
  else
    interval.lower < scaled && scaled < interval.upper

/-- Digits and the power of ten they are multiplied with. -/
structure Decimal where
  digits : Nat
  power : Int

/-- The number with `count` digits that reads back, if there is one; of two the nearer, and of two
equally near ones the greater. -/
def RoundingInterval.withDigits
    (interval : RoundingInterval)
    (count : Nat)
    (place : Int) : Option Decimal :=
  let power := place - count
  let (up, down) := scaleByTen 1 1 (-power)
  let scaled : RoundingInterval :=
    { lower := interval.lower * up
      centre := interval.centre * up
      upper := interval.upper * up
      denominator := interval.denominator * down
      closed := interval.closed }
  let below := scaled.centre / scaled.denominator
  let above := below + 1
  let aboveDecimal : Decimal := if above = Nat.pow 10 count then ⟨1, place⟩ else ⟨above, power⟩
  match scaled.holds below scaled.denominator, scaled.holds above scaled.denominator with
  | false, false => none
  | true, false => some ⟨below, power⟩
  | false, true => some aboveDecimal
  | true, true =>
      if 2 * scaled.centre < (below + above) * scaled.denominator then some ⟨below, power⟩
      else some aboveDecimal

/-- The fewest digits that read back as the double. -/
def BinaryForm.shortest (form : BinaryForm) : Decimal :=
  let interval := form.interval
  let place := leadingPlace interval.centre interval.denominator
  ((List.range' 1 17).findSome? fun count => interval.withDigits count place).getD ⟨0, 0⟩

/-! ## Writing -/

def Decimal.positional (decimal : Decimal) : String :=
  let digits := Nat.toDigits 10 decimal.digits
  match decimal.power with
  | .ofNat n => String.ofList (digits ++ List.replicate n '0')
  | .negSucc n =>
      let padded := List.replicate (n + 2 - digits.length) '0' ++ digits
      let whole := padded.take (padded.length - (n + 1))
      let fraction := padded.drop (padded.length - (n + 1))
      String.ofList (whole ++ '.' :: fraction)

/-- The whole part of the size of a double, if there is nothing behind the point. -/
def BinaryForm.whole? (form : BinaryForm) : Option Nat :=
  match form.exponent with
  | .ofNat n => some (form.significand * Nat.pow 2 n)
  | .negSucc n =>
      let part := Nat.pow 2 (n + 1)
      if form.significand % part = 0 then some (form.significand / part) else none

def withSign (x : Float) (size : String) : String :=
  if hasMinusSign x then "-" ++ size else size

/-- The plain text of a double: the fewest digits, and nothing behind a whole number. -/
def plainFloat (x : Float) : String :=
  match binaryForm? x with
  | some form =>
      withSign x <|
        if form.significand = 0 then "0" else form.shortest.positional
  | none => if x.isNaN then "NaN" else withSign x "inf"

/-- The text of a double as a script sees it: whole numbers below `10 ^ 15` keep a `.0`. -/
def formatFloat (x : Float) : String :=
  match (binaryForm? x).bind BinaryForm.whole? with
  | some whole =>
      if whole < Nat.pow 10 15 then withSign x (toString whole ++ ".0") else plainFloat x
  | none => plainFloat x

/-! ## Reading -/

/-- The largest distance of the leading digit from the point that is worth computing: past it a
number is infinite or zero. -/
def placeLimit : Int := 400

/-- The double nearest to `digits · 10 ^ power`. -/
def floatOfDecimal (digits : Nat) (power : Int) : Float :=
  let place : Int := (Nat.toDigits 10 digits).length + power
  if digits = 0 || place < -placeLimit then 0.0
  else if placeLimit < place then 1.0 / 0.0
  else
    match power with
    | .ofNat n => Float.ofScientific digits false n
    | .negSucc n => Float.ofScientific digits true (n + 1)

/-- The exponent at the end of a number: nothing, or an `e` with an optional sign and digits. -/
def readExponent? : List Char → Option Int
  | [] => some 0
  | c :: rest =>
      let (negative, digits) := takeSign rest
      if (c = 'e' || c = 'E') && !digits.isEmpty && digits.all (isDigitOf 10) then
        let value : Int := natOfDigits 10 digits
        some (if negative then -value else value)
      else
        none

/-- The size of a number without a sign. -/
def readMagnitude? (cs : List Char) : Option Float :=
  let whole := cs.takeWhile (isDigitOf 10)
  let afterWhole := cs.dropWhile (isDigitOf 10)
  let (fraction, rest) : List Char × List Char :=
    match afterWhole with
    | '.' :: digits => (digits.takeWhile (isDigitOf 10), digits.dropWhile (isDigitOf 10))
    | _ => ([], afterWhole)
  match String.ofList (cs.map Char.toLower) with
  | "inf" | "infinity" => some (1.0 / 0.0)
  | "nan" => some (0.0 / 0.0)
  | _ =>
      if whole.isEmpty && fraction.isEmpty then none
      else
        (readExponent? rest).map fun exponent =>
          floatOfDecimal (natOfDigits 10 (whole ++ fraction)) (exponent - fraction.length)

/-- The double that a text without blanks around it spells. -/
def readFloatText? (cs : List Char) : Option Float :=
  let (negative, body) := takeSign cs
  (readMagnitude? body).map fun size => if negative then -size else size

/-- The double that a text spells; every spelling of an integer is one of a double too. -/
def readFloat? (text : String) : Option Float :=
  match readWord? text with
  | some value => some (floatOfWord value)
  | none => readFloatText? (Text.trim text.toList)

end ScriptBridge.Numeral
