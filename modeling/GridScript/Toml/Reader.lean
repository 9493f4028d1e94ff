import GridScript.Toml.Number
import GridScript.Toml.Quoted

/-!
# Reading TOML

Keys, values and statements.  Values nest up to a fixed depth.
-/

namespace GridScript

namespace Toml

/-- Keys have fewer parts than this, and values nest less deep. -/
def depthLimit : Nat := 80

/-! ## Line ends -/

/-- What follows a comment, if there is one, without the end of its line. -/
def skipComment : List Char → List Char
  | '#' :: rest => rest.dropWhile isPrintable
  | text => text

/-- What follows a line on which only spaces and a comment are left. -/
def restOfLine? (text : List Char) : Option (List Char) :=
  match skipComment (skipSpaces text) with
  | [] => some []
  | rest => lineEnd? rest

/-- What follows spaces, comments and line ends, as they may stand between the
items of an array. -/
def skipLines? (text : List Char) : Option (List Char) :=
  match text with
  | [] => some []
  | '#' :: rest =>
    match ended : lineEnd? (rest.dropWhile isPrintable) with
    | none => none
    | some after =>
      have := length_of_lineEnd? ended
      have := (List.dropWhile_suffix isPrintable (l := rest)).length_le
      skipLines? after
  | '\r' :: '\n' :: rest => skipLines? rest
  | '\r' :: _ => none
  | c :: rest =>
    if isSpace c || c == '\n' then skipLines? rest else some (c :: rest)
termination_by text.length
decreasing_by all_goals simp <;> omega

/-! ## Keys -/

/-- A character of a name without quotes. -/
def isBare (c : Char) : Bool :=
  isDecimalDigit c || ('a' ≤ c && c ≤ 'z') || ('A' ≤ c && c ≤ 'Z') ||
    c == '_' || c == '-'

/-- One name of a key. -/
def readName? (text : List Char) : Option (List Char × List Char) :=
  match text with
  | '"' :: rest => readBasic rest
  | '\x27' :: rest => readLiteral rest
  | text =>
    let name := text.takeWhile isBare
    if name.isEmpty then none else some (name, text.dropWhile isBare)

/-- The names of a key, divided by points, and what follows the spaces behind
it. -/
def readNames? (text : List Char) : Option (List String × List Char) :=
  match readName? (skipSpaces text) with
  | none => none
  | some (name, rest) =>
    match skipSpaces rest with
    | '.' :: more =>
      if more.length < text.length then
        (readNames? more).map fun (names, rest) =>
          (String.ofList name :: names, rest)
      else none
    | rest => some ([String.ofList name], rest)
termination_by text.length

/-- A key: the path to a table, a name in it, and what follows. -/
def readKey? (text : List Char) :
    Option (List String × String × List Char) := do
  let (names, rest) ← readNames? text
  if depthLimit ≤ names.length then none
  else return (names.dropLast, ← names.getLast?, rest)

/-! ## Values -/

/-- The items of an array behind its opening bracket.  A comma may follow the
last one. -/
def readItems? (item : List Char → Option (Toml × List Char))
    (text : List Char) : Option (List Toml × List Char) :=
  match skipLines? text with
  | none => none
  | some (']' :: rest) => some ([], rest)
  | some rest =>
    match item rest with
    | none => none
    | some (value, rest) =>
      match skipLines? rest with
      | some (',' :: more) =>
        if more.length < text.length then
          (readItems? item more).map fun (items, rest) => (value :: items, rest)
        else none
      | some (']' :: rest) => some ([value], rest)
      | _ => none
termination_by text.length

/-- A key, an equals sign and a value. -/
def readAssignment? (value : List Char → Option (Toml × List Char))
    (text : List Char) :
    Option ((List String × String × Toml) × List Char) := do
  let (path, name, rest) ← readKey? text
  let rest ← afterChar? '=' rest
  let (found, rest) ← value (skipSpaces rest)
  return ((path, name, found), rest)

/-- The assignments of a table between braces, at least one, up to the closing
brace. -/
def readAssignments? (value : List Char → Option (Toml × List Char))
    (text : List Char) :
    Option (List (List String × String × Toml) × List Char) :=
  match readAssignment? value text with
  | none => none
  | some (assignment, rest) =>
    match skipSpaces rest with
    | ',' :: more =>
      if more.length < text.length then
        (readAssignments? value more).map fun (assignments, rest) =>
          (assignment :: assignments, rest)
      else none
    | '\x7d' :: rest => some ([assignment], rest)
    | _ => none
termination_by text.length

/-- A table between braces, behind the opening one. -/
def readInline? (value : List Char → Option (Toml × List Char))
    (text : List Char) : Option (Toml × List Char) :=
  match skipSpaces text with
  | '\x7d' :: rest => some (.table .inline [], rest)
  | rest => do
    let (assignments, rest) ← readAssignments? value rest
    return (← ofAssignments? assignments, rest)

/-- A value that holds no other values. -/
def readScalar? (text : List Char) : Option (Toml × List Char) :=
  match text with
  | 't' :: 'r' :: 'u' :: 'e' :: rest => some (.boolean true, rest)
  | 'f' :: 'a' :: 'l' :: 's' :: 'e' :: rest => some (.boolean false, rest)
  | text =>
    match readText? text with
    | some (value, rest) => some (.string (String.ofList value), rest)
    | none => readDateOrNumber? text

/-- A value that nests at most `depth` levels. -/
def readValue? : Nat → List Char → Option (Toml × List Char)
  | 0, text => readScalar? text
  | depth + 1, text =>
    match text with
    | '[' :: rest =>
      (readItems? (readValue? depth) rest).map fun (items, rest) =>
        (.array items, rest)
    | '\x7b' :: rest => readInline? (readValue? depth) rest
    | text => readScalar? text

/-! ## Documents -/

/-- A header or an assignment, and the rest of its line. -/
def readStatement? (text : List Char) : Option (TomlStatement × List Char) :=
  match text with
  | '[' :: '[' :: rest => do
    let (path, name, rest) ← readKey? rest
    let rest ← afterChar? ']' (← afterChar? ']' rest)
    return (.item path name, ← restOfLine? rest)
  | '[' :: rest => do
    let (path, name, rest) ← readKey? rest
    let rest ← afterChar? ']' rest
    return (.header path name, ← restOfLine? rest)
  | text => do
    let ((path, name, value), rest) ←
      readAssignment? (readValue? (depthLimit - 1)) text
    return (.assignment path name value, ← restOfLine? rest)

/-- The statements of a document.  Lines may be empty. -/
def readStatements? (text : List Char) : Option (List TomlStatement) :=
  if text.isEmpty then some []
  else
    match restOfLine? text with
    | some rest =>
      if rest.length < text.length then readStatements? rest else none
    | none =>
      match readStatement? (skipSpaces text) with
      | none => none
      | some (statement, rest) =>
        if rest.length < text.length then
          (readStatements? rest).map (statement :: ·)
        else none
termination_by text.length

/-- A mark of the byte order at the front does not belong to the document. -/
def dropByteOrderMark : List Char → List Char
  | '\ufeff' :: rest => rest
  | text => text

/-- The table that a document denotes. -/
def parse? (text : String) : Option TomlEntries :=
  (readStatements? (dropByteOrderMark text.toList)).bind ofStatements?

end Toml

end GridScript
