import GridScript.Text.Character

/-!
# Cutting and joining text

Trimming, splitting into lines and comparing without regard to the case of ASCII
letters.  The functions on `List Char` carry the rules; those on `String` only
wrap them.
-/

namespace GridScript

/-- Removes the blanks at the front. -/
def trimFrontChars (text : List Char) : List Char :=
  text.dropWhile isBlank

/-- Removes the blanks at the back. -/
def trimBackChars (text : List Char) : List Char :=
  (text.reverse.dropWhile isBlank).reverse

/-- Removes the blanks at both ends. -/
def trimChars (text : List Char) : List Char :=
  trimBackChars (trimFrontChars text)

/-- Removes the blanks at both ends. -/
def trim (text : String) : String :=
  String.ofList (trimChars text.toList)

/-- The part before the first character that satisfies `test` and the part after
it, if there is such a character. -/
def splitAtFirst? (test : Char → Bool) (text : List Char) :
    Option (List Char × List Char) :=
  match text.dropWhile (!test ·) with
  | [] => none
  | _ :: after => some (text.takeWhile (!test ·), after)

/-- A carriage return at the very end is dropped. -/
def dropReturn (line : List Char) : List Char :=
  match line.reverse with
  | '\r' :: front => front.reverse
  | _ => line

/-- Lines as they end: `pending` holds the reversed characters of the line under
way.  A final line that is empty does not count. -/
def linesFrom (pending : List Char) : List Char → List (List Char)
  | [] => if pending.isEmpty then [] else [pending.reverse]
  | '\n' :: rest => dropReturn pending.reverse :: linesFrom [] rest
  | c :: rest => linesFrom (c :: pending) rest

/-- The lines of a text without their ends, a newline or a carriage return
before a newline. -/
def lines (text : String) : List String :=
  (linesFrom [] text.toList).map String.ofList

/-- The lower case form of an ASCII capital; every other character is kept. -/
def foldCase (c : Char) : Char :=
  if 'A' ≤ c && c ≤ 'Z' then Char.ofNat (c.toNat + 32) else c

/-- Whether two texts agree up to the case of ASCII letters. -/
def sameUpToCase (left right : List Char) : Bool :=
  left.map foldCase == right.map foldCase

/-- Fills up with spaces on the right to the given number of characters. -/
def padRight (width : Nat) (text : String) : String :=
  text ++ String.ofList (List.replicate (width - text.length) ' ')

/-- The texts one after another with `separator` between them. -/
def joinWith (separator : String) : List String → String
  | [] => ""
  | [text] => text
  | text :: more => text ++ separator ++ joinWith separator more

/-- The value of a decimal digit. -/
def digitValue (c : Char) : Nat :=
  c.toNat - '0'.toNat

/-- The number that decimal digits denote, most significant first. -/
def digitsValue (digits : List Char) : Nat :=
  digits.foldl (fun value c => 10 * value + digitValue c) 0

/-- Decimal digits of a number, most significant first. -/
def decimalDigits (n : Nat) : List Char :=
  Nat.toDigits 10 n

/-- Decimal text of a natural number. -/
def natText (n : Nat) : String :=
  String.ofList (decimalDigits n)

/-- Decimal text of an integer, with a minus sign in front of a negative one. -/
def intText (i : Int) : String :=
  match i with
  | .ofNat n => natText n
  | .negSucc n => "-" ++ natText (n + 1)

/-- Reads a whole text as a decimal integer with an optional sign. -/
def parseInteger? (text : List Char) : Option Int :=
  match text with
  | '-' :: digits =>
    if digits.isEmpty || !digits.all isDecimalDigit then none
    else some (-(digitsValue digits : Int))
  | '+' :: digits =>
    if digits.isEmpty || !digits.all isDecimalDigit then none
    else some (digitsValue digits)
  | digits =>
    if digits.isEmpty || !digits.all isDecimalDigit then none
    else some (digitsValue digits)

/-- The integers of 64 bits with a sign. -/
def InInt64 (i : Int) : Prop :=
  -0x8000000000000000 ≤ i ∧ i < 0x8000000000000000

instance (i : Int) : Decidable (InInt64 i) :=
  inferInstanceAs (Decidable (_ ∧ _))

/-- Reads a whole text as an integer of 64 bits with a sign. -/
def parseInt64? (text : List Char) : Option Int :=
  (parseInteger? text).filter fun i => decide (InInt64 i)

/-- Reads a whole text as a natural number of 64 bits.  A plus sign is allowed,
a minus sign is not, not even in front of zero. -/
def parseNat64? (text : List Char) : Option Nat :=
  match text with
  | '-' :: _ => none
  | _ =>
    ((parseInteger? text).map Int.toNat).filter fun n =>
      decide (n < 0x10000000000000000)

end GridScript
