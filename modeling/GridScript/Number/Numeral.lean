import GridScript.Number.Binary64

/-!
# Numerals of the script language

A numeral is an optional sign, digits with an optional point, and an optional
exponent.  `scan?` splits a numeral off the front of a text and `text` writes it
back.
-/

namespace GridScript

/-- The exponent of a numeral: its letter, its sign if it has one, and its
digits. -/
structure NumeralExponent where
  letter : Char
  sign : List Char
  digits : List Char
  deriving DecidableEq, Repr

/-- A numeral, split into its parts as written. -/
structure Numeral where
  sign : List Char
  whole : List Char
  /-- The digits after the point, if there is a point. -/
  fraction : Option (List Char)
  exponent : Option NumeralExponent
  deriving DecidableEq, Repr

namespace NumeralExponent

def text (e : NumeralExponent) : List Char :=
  e.letter :: e.sign ++ e.digits

def value (e : NumeralExponent) : Int :=
  if e.sign = ['-'] then -(digitsValue e.digits : Int) else digitsValue e.digits

end NumeralExponent

namespace Numeral

/-- The numeral as written. -/
def text (n : Numeral) : List Char :=
  n.sign ++ n.whole ++
    (match n.fraction with
      | none => []
      | some digits => '.' :: digits) ++
    (match n.exponent with
      | none => []
      | some exponent => exponent.text)

/-- A plus or minus sign at the front, and what follows. -/
def splitSign : List Char → List Char × List Char
  | '+' :: rest => (['+'], rest)
  | '-' :: rest => (['-'], rest)
  | rest => ([], rest)

/-- The digits at the front, and what follows. -/
def splitDigits (text : List Char) : List Char × List Char :=
  (text.takeWhile isDecimalDigit, text.dropWhile isDecimalDigit)

/-- The digits before and after the point.  At least one digit has to stand on
either side, and without digits in front the point has to be followed by one. -/
def scanMantissa? (text : List Char) :
    Option (List Char × Option (List Char) × List Char) :=
  let (whole, rest) := splitDigits text
  match rest with
  | '.' :: afterPoint =>
    let (fraction, rest) := splitDigits afterPoint
    if whole.isEmpty && fraction.isEmpty then none
    else some (whole, some fraction, rest)
  | _ => if whole.isEmpty then none else some (whole, none, rest)

/-- The exponent at the front.  A letter that no digits follow spoils the whole
numeral, which is the outer `none`. -/
def scanExponent? (text : List Char) :
    Option (Option NumeralExponent × List Char) :=
  match text with
  | [] => some (none, [])
  | letter :: rest =>
    if letter == 'e' || letter == 'E' then
      let (sign, rest) := splitSign rest
      let (digits, rest) := splitDigits rest
      if digits.isEmpty then none else some (some ⟨letter, sign, digits⟩, rest)
    else some (none, text)

/-- Splits a numeral off the front of a text. -/
def scan? (text : List Char) : Option (Numeral × List Char) := do
  let (sign, rest) := splitSign text
  let (whole, fraction, rest) ← scanMantissa? rest
  let (exponent, rest) ← scanExponent? rest
  return (⟨sign, whole, fraction, exponent⟩, rest)

/-- The numeral as an integer of 64 bits; one with a point or an exponent is
none. -/
def toInt? (n : Numeral) : Option Int :=
  parseInt64? n.text

/-- The double nearest to the number that the numeral denotes. -/
def toBinary64 (n : Numeral) : Binary64 :=
  let fraction := n.fraction.getD []
  let exponent := (n.exponent.map NumeralExponent.value).getD 0
  Binary64.ofDecimal (n.sign == ['-']) (digitsValue (n.whole ++ fraction))
    (exponent - fraction.length)

end Numeral

end GridScript
