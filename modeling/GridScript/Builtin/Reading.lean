import GridScript.Command.Basic
import GridScript.Host.Export

/-!
# What built-in commands ask of their arguments

Checks on arguments that several commands share, and the list files that name
grids.
-/

namespace GridScript

namespace Builtin

/-- A number of an object; a negative one means that none is given. -/
def optionalId (id : Int) : Option Nat :=
  if id < 0 then none else some id.toNat

/-- A text that must not be empty. -/
def requiredText (arguments : Arguments) (name : String) : Action String :=
  match arguments.text? name with
  | some text =>
    if text.isEmpty then throw (.missingArgument name) else return text
  | none => throw (.missingArgument name)

/-- An integer that must not be negative; zero if it is missing. -/
def nonNegative (arguments : Arguments) (name : String) : Action Nat :=
  let value := arguments.intOr name 0
  if value < 0 then
    throw (.invalidArgument name (intText value ++ " is negative"))
  else return value.toNat

/-- An argument that names a case or a group by number. -/
def idArgument (arguments : Arguments) (name : String) : Option Nat :=
  optionalId (arguments.intOr name (-1))

/-- A path argument that must not be empty, as the session sees it. -/
def requiredPath (arguments : Arguments) (name : String) : Action Path := do
  Action.resolve (← requiredText arguments name)

/-- Fails if no project is open; the message names the command. -/
def requireProject (keyword : String) : Action Path := do
  match (← get).session.lastProject with
  | some project => return project
  | none => throw (.projectNotOpen keyword)

/-- The grids that the lines of a list file name, as seen from `base`.  Blank
lines and lines that start with a number sign name none. -/
def gridsOf (base : Path) (text : String) : List Path :=
  (((lines text).map trim).filter fun line =>
      !line.isEmpty && line.toList.head? != some '#').map base.child

/-- Reads a list file.  It has to name at least one grid. -/
def readGridList (path : Path) : Action (List Path) := do
  let text ← Action.read path (.unreadableGridList path)
  let grids := gridsOf (path.parent?.getD ⟨""⟩) text
  if grids.isEmpty then throw (.emptyGridList path)
  return grids

/-- A text field that is empty by default. -/
def textField (name help : String) : Field :=
  { name, type := .string, default := .string "", help }

/-- An integer field. -/
def intField (name : String) (default : Int) (help : String) : Field :=
  { name, type := .int, default := .int default, help }

/-- A field that names a case by number; by default it names none. -/
def idField (name help : String) : Field :=
  intField name (-1) help

end Builtin

end GridScript
