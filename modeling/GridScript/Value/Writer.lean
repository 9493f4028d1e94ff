import GridScript.Value.Basic

/-!
# Values as script text

`encode` writes a value the way scripts spell it.  Null references inside an
array are left out, and a null reference of its own is the empty text.
-/

namespace GridScript

/-- Puts a backslash in front of every quote and backslash. -/
def escapeChars : List Char → List Char
  | [] => []
  | c :: rest =>
    if c = '"' ∨ c = '\\' then '\\' :: c :: escapeChars rest
    else c :: escapeChars rest

/-- A string between quotes. -/
def quoteChars (text : List Char) : List Char :=
  '"' :: (escapeChars text ++ ['"'])

/-- The texts with a comma and a space between them. -/
def commaSeparated : List (List Char) → List Char
  | [] => []
  | [text] => text
  | text :: more => text ++ ',' :: ' ' :: commaSeparated more

namespace Value

mutual

/-- The characters of a value in script syntax. -/
def encodeChars : Value → List Char
  | string text => quoteChars text.toList
  | bool true => "true".toList
  | bool false => "false".toList
  | int value => (intText value).toList
  | double value => value.scientific.toList
  | variant name => name.toList
  | array items => '[' :: (commaSeparated (encodeItems items) ++ [']'])
  | reference (some object) => object.text.toList
  | reference none => []

/-- The texts of the items that are no null references. -/
def encodeItems : List Value → List (List Char)
  | [] => []
  | item :: more =>
    if item.isNullReference then encodeItems more
    else item.encodeChars :: encodeItems more

end

/-- A value in script syntax. -/
def encode (value : Value) : String :=
  String.ofList value.encodeChars

end Value

end GridScript
