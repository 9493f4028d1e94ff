import GridScript.Number.Binary64

/-!
# Doubles as text

Two ways to write a double.  Scripts use fifteen significant digits with an
exponent; exported files use the fewest digits that still determine the number,
always without an exponent.
-/

namespace GridScript

/-- Decimal digits with leading zeros up to the given width. -/
def paddedDigits (width n : Nat) : List Char :=
  let digits := decimalDigits n
  List.replicate (width - digits.length) '0' ++ digits

namespace Binary64

/-- The text of a double given the text of its magnitude. -/
def withSign (d : Binary64) (magnitude : List Char) : String :=
  if d.isNaN then "NaN"
  else
    let body := if d.isInfinite then "inf".toList else magnitude
    String.ofList (if d.isNegative then '-' :: body else body)

/-- The number of digits after the point in scripts. -/
def scriptPlaces : Nat := 14

/-- The positive quotient `num / den` rounded to `places + 1` significant
digits: the digits as one number and the exponent of the first digit. -/
def roundSignificant (places num den : Nat) : Nat × Int :=
  let exponent := decimalExponent num den
  let scaled := scaleRatio 10 num den (places - exponent)
  let digits := roundHalfEven scaled.1 scaled.2
  if digits = Nat.pow 10 (places + 1) then (Nat.pow 10 places, exponent + 1)
  else (digits, exponent)

/-- One digit, a point, the other digits and the exponent. -/
def scientificText (digits : List Char) (exponent : Int) : List Char :=
  match digits with
  | [] => []
  | first :: others =>
    first :: '.' :: others ++ 'e' :: (intText exponent).toList

/-- A double as scripts write it, such as 1.50000000000000e0. -/
def scientific (d : Binary64) : String :=
  let magnitude := d.magnitudeRatio
  d.withSign <|
    if d.isZero then scientificText (paddedDigits (scriptPlaces + 1) 0) 0
    else
      let rounded := roundSignificant scriptPlaces magnitude.1 magnitude.2
      scientificText (decimalDigits rounded.1) rounded.2

/-- Compares `left * 10 ^ ten` with `right * 2 ^ two`. -/
def compareScaled (left : Nat) (ten : Int) (right : Nat) (two : Int) :
    Ordering :=
  compare (left * Nat.pow 10 ten.toNat * Nat.pow 2 (-two).toNat)
    (right * Nat.pow 2 two.toNat * Nat.pow 10 (-ten).toNat)

/-- Whether `digits * 10 ^ ten` reads back as the double: it lies between the
midpoints to the neighbouring doubles, the midpoints included if the significand
is even.  Below a power of two the neighbour is half as far away. -/
def readsBack (d : Binary64) (digits : Nat) (ten : Int) : Bool :=
  let quarters := 4 * d.significand
  let narrow := d.significand == leadingBit && -1074 < d.exponent
  let low := if narrow then quarters - 1 else quarters - 2
  let fromLow := compareScaled digits ten low (d.exponent - 2)
  let fromHigh := compareScaled digits ten (quarters + 2) (d.exponent - 2)
  let inside := fromLow == .gt && fromHigh == .lt
  inside || (d.significand % 2 == 0 && (fromLow == .eq || fromHigh == .eq))

/-- The decimal with `count` significant digits that reads back as the double,
if there is one: of the two neighbours on that grid the nearer, and the greater
of two equally near. -/
def decimalWith? (d : Binary64) (count : Nat) : Option (Nat × Int) :=
  let magnitude := d.magnitudeRatio
  let ten : Int := decimalExponent magnitude.1 magnitude.2 + 1 - count
  let scaled := scaleRatio 10 magnitude.1 magnitude.2 (-ten)
  let below := scaled.1 / scaled.2
  let upper := below + 1
  match d.readsBack below ten, d.readsBack upper ten with
  | true, true =>
    some (if scaled.2 ≤ 2 * (scaled.1 % scaled.2) then upper else below, ten)
  | true, false => some (below, ten)
  | false, true => some (upper, ten)
  | false, false => none

/-- The decimal with the fewest significant digits that reads back as the
double. -/
def shortestDecimal (d : Binary64) : Nat × Int :=
  ((List.range 17).findSome? fun few => d.decimalWith? (few + 1)).getD (0, 0)

/-- Drops zeros from the back of `digits` as long as there are places after the
point. -/
def dropPlaces : Nat → List Char → Nat × List Char
  | places + 1, '0' :: reversed => dropPlaces places reversed
  | places, reversed => (places, reversed)

/-- The number `digits * 10 ^ ten` without an exponent and without needless
zeros. -/
def positional (digits : List Char) (ten : Int) : List Char :=
  if 0 ≤ ten then digits ++ List.replicate ten.toNat '0'
  else
    let (places, reversed) := dropPlaces (-ten).toNat digits.reverse
    let padded := reversed ++ List.replicate (places + 1 - reversed.length) '0'
    let fraction := (padded.take places).reverse
    (padded.drop places).reverse ++
      if fraction.isEmpty then [] else '.' :: fraction

/-- A double with the fewest digits that determine it, never with an
exponent. -/
def shortest (d : Binary64) : String :=
  d.withSign <|
    if d.isZero then ['0']
    else
      let decimal := d.shortestDecimal
      positional (decimalDigits decimal.1) decimal.2

end Binary64

end GridScript
