import GridScript.Text.Hex

/-!
# JSON text

The parts of JSON that the program writes: strings between quotes, and objects
either on one line or spread over lines with two spaces of indentation per
level.
-/

namespace GridScript

/-- A character inside a JSON string.  Quotes, backslashes and control
characters are escaped. -/
def jsonChar (c : Char) : List Char :=
  if c = '"' then ['\\', '"']
  else if c = '\\' then ['\\', '\\']
  else if c = '\n' then ['\\', 'n']
  else if c = '\r' then ['\\', 'r']
  else if c = '\t' then ['\\', 't']
  else if c.toNat = 8 then ['\\', 'b']
  else if c.toNat = 12 then ['\\', 'f']
  else if c.toNat < 32 then '\\' :: 'u' :: paddedHex 4 c.toNat
  else [c]

/-- A JSON string. -/
def jsonString (text : String) : String :=
  String.ofList ('"' :: (text.toList.flatMap jsonChar ++ ['"']))

/-- A JSON object on one line, from names and values that are JSON already. -/
def jsonObject (members : List (String × String)) : String :=
  "\x7b" ++
    joinWith "," (members.map fun (name, value) =>
      jsonString name ++ ":" ++ value) ++
    "\x7d"

/-- A JSON object with a line for each member. -/
def jsonObjectLines (members : List (String × String)) : String :=
  let member := fun ((name, value) : String × String) =>
    "  " ++ jsonString name ++ ": " ++ value
  "\x7b\n" ++ joinWith ",\n" (members.map member) ++ "\n\x7d"

/-- A JSON array inside an object, with a line for each item. -/
def jsonArrayLines (items : List String) : String :=
  if items.isEmpty then "[]"
  else "[\n" ++ joinWith ",\n" (items.map ("    " ++ ·)) ++ "\n  ]"

end GridScript
