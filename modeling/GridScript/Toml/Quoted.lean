import GridScript.Text.Hex

/-!
# Texts in TOML

A text stands between quotes or apostrophes, one on each side, or three if it
may span lines.  Between quotes a backslash starts an escape; between
apostrophes all characters stand for themselves.
-/

namespace GridScript

namespace Toml

/-- A character that may stand in a comment or a text: a tab or no control
character. -/
def isPrintable (c : Char) : Bool :=
  c == '\t' || (32 ≤ c.toNat && c.toNat != 127)

def isSpace (c : Char) : Bool :=
  c == ' ' || c == '\t'

def skipSpaces (text : List Char) : List Char :=
  text.dropWhile isSpace

/-- What follows the end of a line, which is a newline or a carriage return and
a newline. -/
def lineEnd? : List Char → Option (List Char)
  | '\n' :: rest => some rest
  | '\r' :: '\n' :: rest => some rest
  | _ => none

/-! ## Reading -/

/-- The character with a code in hexadecimal digits. -/
def charOfHex? (digits : List Char) : Option Char := do
  let code ← hexValue? digits
  if code.isValidChar then some (Char.ofNat code) else none

/-- The character of an escape behind its backslash, and what follows. -/
def escape? : List Char → Option (Char × List Char)
  | 'b' :: rest => some (Char.ofNat 8, rest)
  | 't' :: rest => some ('\t', rest)
  | 'n' :: rest => some ('\n', rest)
  | 'f' :: rest => some (Char.ofNat 12, rest)
  | 'r' :: rest => some ('\r', rest)
  | '"' :: rest => some ('"', rest)
  | '\\' :: rest => some ('\\', rest)
  | 'u' :: a :: b :: c :: d :: rest => (charOfHex? [a, b, c, d]).map (·, rest)
  | 'U' :: a :: b :: c :: d :: e :: f :: g :: h :: rest =>
    (charOfHex? [a, b, c, d, e, f, g, h]).map (·, rest)
  | _ => none

theorem length_of_escape? {text rest : List Char} {c : Char}
    (found : escape? text = some (c, rest)) :
    rest.length < text.length := by
  unfold escape? at found
  split at found <;> simp at found <;> simp <;> grind

/-- A text behind its opening quote, and what follows the closing quote. -/
def readBasic (text : List Char) : Option (List Char × List Char) :=
  match text with
  | [] => none
  | '"' :: rest => some ([], rest)
  | '\\' :: rest =>
    match found : escape? rest with
    | none => none
    | some (c, after) =>
      have := length_of_escape? found
      (readBasic after).map fun (text, rest) => (c :: text, rest)
  | c :: rest =>
    if isPrintable c then
      (readBasic rest).map fun (text, rest) => (c :: text, rest)
    else none
termination_by text.length
decreasing_by all_goals simp <;> omega

/-- A text behind its opening apostrophe, and what follows the closing
apostrophe. -/
def readLiteral : List Char → Option (List Char × List Char)
  | [] => none
  | c :: rest =>
    if c = '\x27' then some ([], rest)
    else if isPrintable c then
      (readLiteral rest).map fun (text, rest) => (c :: text, rest)
    else none

/-- The marks among five that belong to the text and what follows, where three
marks close it and have been read already. -/
def extraMarks (mark : Char) : List Char → List Char × List Char
  | [] => ([], [])
  | [c] => if c = mark then ([c], []) else ([], [c])
  | c :: d :: rest =>
    if c = mark then
      if d = mark then ([c, d], rest) else ([c], d :: rest)
    else ([], c :: d :: rest)

/-- What is left behind spaces and line ends. -/
def skipSpacesAndLines : List Char → List Char
  | [] => []
  | '\r' :: '\n' :: rest => skipSpacesAndLines rest
  | c :: rest =>
    if isSpace c || c == '\n' then skipSpacesAndLines rest else c :: rest

theorem length_skipSpacesAndLines (text : List Char) :
    (skipSpacesAndLines text).length ≤ text.length := by
  fun_induction skipSpacesAndLines text <;> grind

/-- What follows a backslash that ends its line: spaces and line ends are
skipped up to the next text. -/
def continuation? (text : List Char) : Option (List Char) :=
  (lineEnd? (skipSpaces text)).map skipSpacesAndLines

theorem length_of_lineEnd? {text rest : List Char}
    (found : lineEnd? text = some rest) :
    rest.length < text.length := by
  unfold lineEnd? at found
  split at found <;> grind

theorem length_skipSpaces (text : List Char) :
    (skipSpaces text).length ≤ text.length := by
  unfold skipSpaces
  exact (List.dropWhile_suffix isSpace).length_le

theorem length_of_continuation? {text rest : List Char}
    (found : continuation? text = some rest) :
    rest.length ≤ text.length := by
  obtain ⟨after, ended, rfl⟩ := Option.map_eq_some_iff.1 found
  have := length_of_lineEnd? ended
  have := length_skipSpaces text
  have := length_skipSpacesAndLines after
  omega

/-- A text over several lines behind its opening quotes, and what follows the
closing quotes. -/
def readLongBasic (text : List Char) : Option (List Char × List Char) :=
  match text with
  | [] => none
  | '"' :: '"' :: '"' :: rest => some (extraMarks '"' rest)
  | '\\' :: rest =>
    match continued : continuation? rest with
    | some after =>
      have := length_of_continuation? continued
      readLongBasic after
    | none =>
      match found : escape? rest with
      | none => none
      | some (c, after) =>
        have := length_of_escape? found
        (readLongBasic after).map fun (text, rest) => (c :: text, rest)
  | '\r' :: '\n' :: rest =>
    (readLongBasic rest).map fun (text, rest) => ('\n' :: text, rest)
  | c :: rest =>
    if isPrintable c || c == '\n' then
      (readLongBasic rest).map fun (text, rest) => (c :: text, rest)
    else none
termination_by text.length
decreasing_by all_goals simp <;> omega

/-- A text over several lines behind its opening apostrophes, and what follows
the closing apostrophes. -/
def readLongLiteral : List Char → Option (List Char × List Char)
  | [] => none
  | '\x27' :: '\x27' :: '\x27' :: rest => some (extraMarks '\x27' rest)
  | '\r' :: '\n' :: rest =>
    (readLongLiteral rest).map fun (text, rest) => ('\n' :: text, rest)
  | c :: rest =>
    if isPrintable c || c == '\n' then
      (readLongLiteral rest).map fun (text, rest) => (c :: text, rest)
    else none

/-- A line end directly behind the opening marks does not belong to the text. -/
def dropFirstLineEnd (text : List Char) : List Char :=
  (lineEnd? text).getD text

/-- A text in any of the four forms. -/
def readText? (text : List Char) : Option (List Char × List Char) :=
  match text with
  | '"' :: '"' :: '"' :: rest => readLongBasic (dropFirstLineEnd rest)
  | '"' :: rest => readBasic rest
  | '\x27' :: '\x27' :: '\x27' :: rest =>
    readLongLiteral (dropFirstLineEnd rest)
  | '\x27' :: rest => readLiteral rest
  | _ => none

/-! ## Writing -/

/-- Whether a character can be written only by an escape. -/
def needsEscape (c : Char) : Bool :=
  !isPrintable c && c != '\n'

/-- A character between quotes on one line. -/
def escaped (c : Char) : List Char :=
  if c = '"' then ['\\', '"']
  else if c = '\\' then ['\\', '\\']
  else if c = '\t' then ['\\', 't']
  else if c = '\n' then ['\\', 'n']
  else if c = '\r' then ['\\', 'r']
  else if c.toNat = 8 then ['\\', 'b']
  else if c.toNat = 12 then ['\\', 'f']
  else if needsEscape c then
    '\\' :: 'u' :: (paddedHex 4 c.toNat).map Char.toUpper
  else [c]

/-- Characters between three quotes.  Line ends are kept, and of quotes in a row
every third one is escaped; `quotes` counts those before. -/
def escapedLong (quotes : Nat) : List Char → List Char
  | [] => []
  | c :: rest =>
    if c = '"' then
      if quotes = 2 then escaped c ++ escapedLong 0 rest
      else c :: escapedLong (quotes + 1) rest
    else if c = '\n' then c :: escapedLong 0 rest
    else escaped c ++ escapedLong 0 rest

/-- Whether a mark stands three times in a row. -/
def hasThree (mark : Char) : List Char → Bool
  | [] => false
  | c :: rest => [mark, mark, mark].isPrefixOf (c :: rest) || hasThree mark rest

/-- The four forms of a text. -/
inductive TextForm where
  | basic
  | literal
  | longBasic
  | longLiteral
  deriving DecidableEq, Repr

/-- The form that a text is written in: the first one that needs no escapes, or
else one between quotes. -/
def formOf (text : List Char) : TextForm :=
  let plain := !text.any needsEscape
  let oneLine := !text.contains '\n'
  if plain && oneLine && !text.contains '\\' && !text.contains '"' then .basic
  else if plain && oneLine && !text.contains '\x27' then .literal
  else if plain && !text.contains '\\' && !hasThree '"' text then .longBasic
  else if plain && !hasThree '\x27' text then .longLiteral
  else if oneLine then .basic
  else .longBasic

/-- Three marks, and a line end if the text has lines. -/
def openLong (mark : Char) (text : List Char) : List Char :=
  mark :: mark :: mark :: (if text.contains '\n' then ['\n'] else [])

/-- A text in the form chosen for it. -/
def quoted (text : List Char) : List Char :=
  match formOf text with
  | .basic => '"' :: (text.flatMap escaped ++ ['"'])
  | .literal => '\x27' :: (text ++ ['\x27'])
  | .longBasic => openLong '"' text ++ (escapedLong 0 text ++ ['"', '"', '"'])
  | .longLiteral => openLong '\x27' text ++ (text ++ ['\x27', '\x27', '\x27'])

end Toml

end GridScript
