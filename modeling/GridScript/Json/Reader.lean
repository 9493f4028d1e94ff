import GridScript.Text.Hex

/-!
# Reading JSON

A reader for JSON texts.  A string may spell characters outside the basic plane
by two escapes; one that holds half of such a pair denotes no text, which
matters only where the text is used.
-/

namespace GridScript

/-- A JSON value.  Numbers are kept as written. -/
inductive JsonValue where
  | null
  | bool (value : Bool)
  | number (text : String)
  /-- No text if the escapes do not pair up. -/
  | string (text : Option String)
  | array (items : List JsonValue)
  | object (members : List (Option String × JsonValue))
  deriving Repr, Inhabited

namespace JsonValue

/-- The character that a one-letter escape stands for. -/
def escaped? (c : Char) : Option Nat :=
  match c with
  | '"' | '\\' | '/' => some c.toNat
  | 'b' => some 8
  | 'f' => some 12
  | 'n' => some 10
  | 'r' => some 13
  | 't' => some 9
  | _ => none

/-- The code units of a string behind its opening quote, and what follows the
closing quote. -/
def scanUnits : List Char → Option (List Nat × List Char)
  | [] => none
  | '"' :: rest => some ([], rest)
  | '\\' :: 'u' :: a :: b :: c :: d :: rest => do
    let unit ← hexValue? [a, b, c, d]
    let (units, rest) ← scanUnits rest
    return (unit :: units, rest)
  | '\\' :: c :: rest => do
    let unit ← escaped? c
    let (units, rest) ← scanUnits rest
    return (unit :: units, rest)
  | c :: rest =>
    if c = '\\' || c.toNat < 32 then none
    else do
      let (units, rest) ← scanUnits rest
      return (c.toNat :: units, rest)

/-- The text that code units denote.  A first half of a pair has to be followed
by a second half, and a second half may not stand alone. -/
def textOfUnits? : List Nat → Option (List Char)
  | [] => some []
  | unit :: rest =>
    if 0xD800 ≤ unit && unit < 0xDC00 then
      match rest with
      | [] => none
      | second :: rest =>
        if 0xDC00 ≤ second && second < 0xE000 then
          (textOfUnits? rest).map
            (Char.ofNat
              (0x10000 + (unit - 0xD800) * 0x400 + (second - 0xDC00)) :: ·)
        else none
    else if 0xDC00 ≤ unit && unit < 0xE000 then none
    else (textOfUnits? rest).map (Char.ofNat unit :: ·)

/-- A string behind its opening quote. -/
def scanString (text : List Char) : Option (Option String × List Char) := do
  let (units, rest) ← scanUnits text
  return ((textOfUnits? units).map String.ofList, rest)

/-- One or more digits at the front. -/
def scanDigits (text : List Char) : Option (List Char × List Char) :=
  let digits := text.takeWhile isDecimalDigit
  if digits.isEmpty then none else some (digits, text.dropWhile isDecimalDigit)

/-- Digits behind a point, if there is one. -/
def scanFraction (text : List Char) : Option (List Char × List Char) :=
  match text with
  | '.' :: rest =>
    (scanDigits rest).map fun (digits, rest) => ('.' :: digits, rest)
  | _ => some ([], text)

/-- An exponent, if there is one. -/
def scanExponent (text : List Char) : Option (List Char × List Char) :=
  match text with
  | letter :: rest =>
    if letter == 'e' || letter == 'E' then
      match rest with
      | '+' :: rest =>
        (scanDigits rest).map fun (digits, rest) =>
          (letter :: '+' :: digits, rest)
      | '-' :: rest =>
        (scanDigits rest).map fun (digits, rest) =>
          (letter :: '-' :: digits, rest)
      | rest =>
        (scanDigits rest).map fun (digits, rest) => (letter :: digits, rest)
    else some ([], text)
  | [] => some ([], [])

/-- A number without its sign.  A zero at the front is followed by no further
digit. -/
def scanMagnitude (text : List Char) : Option (List Char × List Char) := do
  let (whole, rest) ← scanDigits text
  if whole.head? == some '0' && 1 < whole.length then none
  else
    let (fraction, rest) ← scanFraction rest
    let (exponent, rest) ← scanExponent rest
    return (whole ++ fraction ++ exponent, rest)

/-- A number. -/
def scanNumber (text : List Char) : Option (JsonValue × List Char) :=
  match text with
  | '-' :: rest =>
    (scanMagnitude rest).map fun (digits, rest) =>
      (.number (String.ofList ('-' :: digits)), rest)
  | _ =>
    (scanMagnitude text).map fun (digits, rest) =>
      (.number (String.ofList digits), rest)

mutual

/-- A value at the front.  `fuel` bounds the nesting and the number of items. -/
def scanValue : Nat → List Char → Option (JsonValue × List Char)
  | 0, _ => none
  | fuel + 1, text =>
    match text.dropWhile isPlainBlank with
    | '"' :: rest =>
      (scanString rest).map fun (text, rest) => (.string text, rest)
    | '[' :: rest =>
      match rest.dropWhile isPlainBlank with
      | ']' :: rest => some (.array [], rest)
      | rest =>
        (scanItems fuel rest).map fun (items, rest) => (.array items, rest)
    | '\x7b' :: rest =>
      match rest.dropWhile isPlainBlank with
      | '\x7d' :: rest => some (.object [], rest)
      | rest =>
        (scanMembers fuel rest).map fun (members, rest) =>
          (.object members, rest)
    | 't' :: 'r' :: 'u' :: 'e' :: rest => some (.bool true, rest)
    | 'f' :: 'a' :: 'l' :: 's' :: 'e' :: rest => some (.bool false, rest)
    | 'n' :: 'u' :: 'l' :: 'l' :: rest => some (.null, rest)
    | rest => scanNumber rest

/-- The items of an array, at least one, up to its closing bracket. -/
def scanItems : Nat → List Char → Option (List JsonValue × List Char)
  | 0, _ => none
  | fuel + 1, text => do
    let (item, rest) ← scanValue fuel text
    match rest.dropWhile isPlainBlank with
    | ',' :: rest =>
      let (items, rest) ← scanItems fuel rest
      return (item :: items, rest)
    | ']' :: rest => return ([item], rest)
    | _ => none

/-- The members of an object, at least one, up to its closing brace. -/
def scanMembers :
    Nat → List Char → Option (List (Option String × JsonValue) × List Char)
  | 0, _ => none
  | fuel + 1, text =>
    match text.dropWhile isPlainBlank with
    | '"' :: rest => do
      let (name, rest) ← scanString rest
      match rest.dropWhile isPlainBlank with
      | ':' :: rest =>
        let (value, rest) ← scanValue fuel rest
        match rest.dropWhile isPlainBlank with
        | ',' :: rest =>
          let (members, rest) ← scanMembers fuel rest
          return ((name, value) :: members, rest)
        | '\x7d' :: rest => return ([(name, value)], rest)
        | _ => none
      | _ => none
    | _ => none

end

/-- A whole text as one JSON value. -/
def parse? (text : String) : Option JsonValue := do
  let chars := text.toList
  let (value, rest) ← scanValue (2 * chars.length + 2) chars
  if rest.all isPlainBlank then some value else none

/-- The text of a string. -/
def text? : JsonValue → Option String
  | string text => text
  | _ => none

/-- The items of an array, each read by `item`. -/
def listOf? {α : Type} (item : JsonValue → Option α) :
    JsonValue → Option (List α)
  | array items => items.mapM item
  | _ => none

end JsonValue

end GridScript
