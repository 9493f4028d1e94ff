/-!
# Dialects

The details of script syntax that settings decide.
-/

namespace GridScript

/-- What stands between the name of an argument and its value. -/
inductive Separator where
  | equals
  | whitespace
  | either
  deriving DecidableEq, Repr, Inhabited

/-- The details of script syntax that differ between hosts. -/
structure Dialect where
  separator : Separator := .either
  /-- Whether values without a name are bound to the fields in order. -/
  positional : Bool := true
  /-- The character that starts a comment line. -/
  comment : Char := '#'
  deriving DecidableEq, Repr, Inhabited

end GridScript
