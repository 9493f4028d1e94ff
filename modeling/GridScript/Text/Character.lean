import GridScript.Text.Ranges

/-!
# Character classes

The classes of characters that the script grammar tells apart.  ASCII characters
are classified directly; every other character is looked up by its code point.
-/

namespace GridScript

/-- White space: the characters with the Unicode property White_Space. -/
def isBlank (c : Char) : Bool :=
  let code := c.toNat
  (9 ≤ code && code ≤ 13) || code == 0x20 || code == 0x85 || code == 0xA0 ||
    code == 0x1680 || (0x2000 ≤ code && code ≤ 0x200A) || code == 0x2028 ||
    code == 0x2029 || code == 0x202F || code == 0x205F || code == 0x3000

/-- A space, a tab, a carriage return or a newline. -/
def isPlainBlank (c : Char) : Bool :=
  c == ' ' || c == '\t' || c == '\r' || c == '\n'

/-- A decimal digit of ASCII. -/
def isDecimalDigit (c : Char) : Bool :=
  '0' ≤ c && c ≤ '9'

/-- A letter of ASCII. -/
def isAsciiLetter (c : Char) : Bool :=
  ('a' ≤ c && c ≤ 'z') || ('A' ≤ c && c ≤ 'Z')

/-- A letter of any alphabet. -/
def isLetter (c : Char) : Bool :=
  if c.toNat < 128 then isAsciiLetter c else letterRanges.holds c.toNat

/-- A decimal digit or any other numeral, such as a superscript or a
fraction. -/
def isNumeral (c : Char) : Bool :=
  if c.toNat < 128 then isDecimalDigit c else numeralRanges.holds c.toNat

/-- A letter or a numeral. -/
def isAlphanumeric (c : Char) : Bool :=
  isLetter c || isNumeral c

/-- A character that may start an identifier. -/
def isWordStart (c : Char) : Bool :=
  isLetter c || c == '_'

/-- A character that may continue an identifier. -/
def isWord (c : Char) : Bool :=
  isAlphanumeric c || c == '_'

/-- A character that ends a token written without quotes. -/
def isTokenEnd (c : Char) : Bool :=
  c == ',' || c == ')' || c == ']' || c == ';' || c == '\n' || c == '\r'

theorem isWord_of_isWordStart {c : Char} (starts : isWordStart c = true) :
    isWord c = true := by
  simp only [isWordStart, isWord, isAlphanumeric, Bool.or_eq_true] at starts ⊢
  rcases starts with letter | underscore
  · exact .inl (.inl letter)
  · exact .inr underscore

end GridScript
