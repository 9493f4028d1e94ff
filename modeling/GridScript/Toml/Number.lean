import GridScript.Number.Numeral
import GridScript.Text.Hex
import GridScript.Toml.Basic

/-!
# Numbers and dates in TOML

Integers in four bases, doubles, dates and times.
-/

namespace GridScript

namespace Toml

/-! ## Numbers -/

/-- Further digits, with or without a low line before each. -/
def moreDigits (isDigit : Char → Bool) : List Char → List Char × List Char
  | [] => ([], [])
  | '_' :: c :: rest =>
    if isDigit c then (moreDigits isDigit rest).map (c :: ·) id
    else ([], '_' :: c :: rest)
  | c :: rest =>
    if isDigit c then (moreDigits isDigit rest).map (c :: ·) id
    else ([], c :: rest)

/-- One or more digits. -/
def readDigits? (isDigit : Char → Bool) :
    List Char → Option (List Char × List Char)
  | [] => none
  | c :: rest =>
    if isDigit c then some ((moreDigits isDigit rest).map (c :: ·) id)
    else none

/-- The digits of a decimal number before its point.  A zero at the front stands
alone. -/
def readWhole? : List Char → Option (List Char × List Char)
  | '0' :: rest => some (['0'], rest)
  | text => readDigits? isDecimalDigit text

/-- An exponent, if there is one.  Its letter has to be followed by digits. -/
def readExponent? : List Char → Option (Option NumeralExponent × List Char)
  | [] => some (none, [])
  | letter :: rest =>
    if letter == 'e' || letter == 'E' then do
      let (sign, rest) := Numeral.splitSign rest
      let (digits, rest) ← readDigits? isDecimalDigit rest
      return (some ⟨letter, sign, digits⟩, rest)
    else some (none, letter :: rest)

def integer? (value : Int) : Option Toml :=
  if InInt64 value then some (.integer value) else none

/-- The double that a numeral denotes.  One above all doubles is refused. -/
def float? (numeral : Numeral) : Option Toml :=
  let value := numeral.toBinary64
  if value.isInfinite && !value.isNegative then none else some (.float value)

/-- A number to base ten. -/
def readDecimal? (text : List Char) : Option (Toml × List Char) := do
  let (sign, rest) := Numeral.splitSign text
  let (whole, rest) ← readWhole? rest
  match rest with
  | '.' :: rest =>
    let (fraction, rest) ← readDigits? isDecimalDigit rest
    let (exponent, rest) ← readExponent? rest
    return (← float? ⟨sign, whole, some fraction, exponent⟩, rest)
  | rest =>
    match ← readExponent? rest with
    | (some exponent, rest) =>
      return (← float? ⟨sign, whole, none, some exponent⟩, rest)
    | (none, rest) =>
      let magnitude : Int := digitsValue whole
      let value ← integer? (if sign == ['-'] then -magnitude else magnitude)
      return (value, rest)

/-- An integer to a base up to sixteen, behind the letter for the base. -/
def readBased? (base : Nat) (text : List Char) : Option (Toml × List Char) := do
  let isDigit := fun c => (hexDigit? c).any (· < base)
  let (digits, rest) ← readDigits? isDigit text
  let value :=
    digits.foldl (fun value c => base * value + (hexDigit? c).getD 0) 0
  return (← integer? value, rest)

/-- Infinity or what is not a number. -/
def readSpecial? (text : List Char) : Option (Toml × List Char) :=
  let (sign, rest) := Numeral.splitSign text
  let negative := sign == ['-']
  match rest with
  | 'i' :: 'n' :: 'f' :: rest =>
    some (.float (Binary64.ofParts negative Binary64.infinityBits), rest)
  | 'n' :: 'a' :: 'n' :: rest =>
    some (.float (Binary64.ofParts negative Binary64.nan.magnitudeBits), rest)
  | _ => none

def readNumber? (text : List Char) : Option (Toml × List Char) :=
  match text with
  | '0' :: 'x' :: rest => readBased? 16 rest
  | '0' :: 'o' :: rest => readBased? 8 rest
  | '0' :: 'b' :: rest => readBased? 2 rest
  | text => readSpecial? text <|> readDecimal? text

/-! ## Dates and times -/

/-- A number with exactly so many digits and within bounds, and what follows. -/
def readPart? (digits least greatest : Nat) (text : List Char) :
    Option (Nat × List Char) :=
  let front := text.take digits
  let value := digitsValue front
  if front.length = digits && front.all isDecimalDigit &&
      least ≤ value && value ≤ greatest then
    some (value, text.drop digits)
  else none

/-- What follows one given character. -/
def afterChar? (c : Char) : List Char → Option (List Char)
  | [] => none
  | d :: rest => if d = c then some rest else none

def isLeapYear (year : Nat) : Bool :=
  year % 4 == 0 && (year % 100 != 0 || year % 400 == 0)

def daysInMonth (year month : Nat) : Nat :=
  if month = 2 then if isLeapYear year then 29 else 28
  else if [4, 6, 9, 11].contains month then 30
  else 31

/-- What follows a date. -/
def afterDate? (text : List Char) : Option (List Char) := do
  let (year, rest) ← readPart? 4 0 9999 text
  let rest ← afterChar? '-' rest
  let (month, rest) ← readPart? 2 1 12 rest
  let rest ← afterChar? '-' rest
  let (_, rest) ← readPart? 2 1 (daysInMonth year month) rest
  return rest

/-- What follows the fraction of a second, if there is one. -/
def afterFraction (text : List Char) : List Char :=
  match text with
  | '.' :: rest =>
    if (rest.head?.map isDecimalDigit).getD false then
      rest.dropWhile isDecimalDigit
    else text
  | _ => text

/-- What follows a time of day.  A minute may have a leap second. -/
def afterTime? (text : List Char) : Option (List Char) := do
  let (_, rest) ← readPart? 2 0 23 text
  let rest ← afterChar? ':' rest
  let (_, rest) ← readPart? 2 0 59 rest
  let rest ← afterChar? ':' rest
  let (_, rest) ← readPart? 2 0 60 rest
  return afterFraction rest

/-- What follows the distance from universal time. -/
def afterOffset? (text : List Char) : Option (List Char) :=
  match text with
  | [] => none
  | c :: rest =>
    if c = 'Z' || c = 'z' then some rest
    else if c = '+' || c = '-' then do
      let (_, rest) ← readPart? 2 0 23 rest
      let rest ← afterChar? ':' rest
      let (_, rest) ← readPart? 2 0 59 rest
      return rest
    else none

/-- What follows a time behind a date, if there is one. -/
def afterTimeOfDate (text : List Char) : List Char :=
  match text with
  | [] => []
  | c :: rest =>
    if c = 'T' || c = 't' || c = ' ' then
      match afterTime? rest with
      | some rest => (afterOffset? rest).getD rest
      | none => text
    else text

/-- What follows a date, a time or both. -/
def afterDateTime? (text : List Char) : Option (List Char) :=
  ((afterDate? text).map afterTimeOfDate) <|> afterTime? text

/-- A date or a number. -/
def readDateOrNumber? (text : List Char) : Option (Toml × List Char) :=
  match afterDateTime? text with
  | some rest => some (.dateTime, rest)
  | none => readNumber? text

end Toml

end GridScript
