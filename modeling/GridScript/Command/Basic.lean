import GridScript.Command.Field
import GridScript.Command.Response
import GridScript.Host.Workspace

/-!
# Commands and invocations

A command has a keyword, fields and an effect on the workspace.  An invocation
is one use of a command in a script, with its arguments.
-/

namespace GridScript

/-- A command that scripts can use. -/
structure Command where
  /-- The keyword in scripts. -/
  name : String
  /-- Other keywords for the same command. -/
  aliases : List String := []
  help : String := "No help available."
  fields : List Field := []
  run : Arguments → StateM Workspace Response

namespace Command

/-- The effect of a command from an action that may fail; a failure is an error
response. -/
def ofAction (action : Arguments → Action Response) (arguments : Arguments) :
    StateM Workspace Response := do
  match ← (action arguments).run with
  | .ok response => return response
  | .error cause => return Response.ofError cause

/-- A field as the usage line shows it: its name, its type and its default. -/
def usageOf (field : Field) : String :=
  let default := field.default.encode
  if default.isEmpty then field.name ++ ": " ++ field.type.label
  else field.name ++ ": " ++ field.type.label ++ " = " ++ default

/-- The usage line, the help text and a line for each field that has help of its
own. -/
def helpText (command : Command) : String :=
  let shown := command.fields.filter (·.scriptable)
  let details := (shown.filter (!·.help.isEmpty)).map fun field =>
    "\n    " ++ padRight 24 field.name ++ field.help
  command.name ++ "(" ++ joinWith ", " (shown.map usageOf) ++ ")\n\n" ++
    trim command.help ++ "\n" ++ String.join details

/-- The first line of the help text. -/
def summary (command : Command) : String :=
  (lines (trim command.help)).headD ""

end Command

/-- One use of a command. -/
structure Invocation where
  /-- The keyword as written. -/
  keyword : String
  /-- The line that the keyword stands on. -/
  line : Nat
  command : Command
  arguments : Arguments

namespace Invocation

/-- A use of the command with every field at its default. -/
def ofCommand (keyword : String) (command : Command) : Invocation :=
  { keyword, line := 0, command, arguments := .ofDefaults command.fields }

/-- The name of the command, whatever keyword was used for it. -/
def name (invocation : Invocation) : String := invocation.command.name

def fields (invocation : Invocation) : List Field := invocation.command.fields

/-- The field with exactly this name. -/
def field? (invocation : Invocation) (name : String) : Option Field :=
  invocation.fields.find? (·.name == name)

def set (invocation : Invocation) (name : String) (value : Value) :
    Invocation :=
  { invocation with arguments := invocation.arguments.set name value }

def run (invocation : Invocation) : StateM Workspace Response :=
  invocation.command.run invocation.arguments

/-- The arguments that script text shows: fields that scripts may set, without
null references. -/
def shownArguments (invocation : Invocation) : List (List Char) :=
  ((invocation.fields.zip invocation.arguments.slots).filter
      fun (field, slot) =>
        field.scriptable && !slot.value.isNullReference).map fun (_, slot) =>
    slot.name.toList ++ '=' :: slot.value.encodeChars

/-- The invocation as script text. -/
def toScript (invocation : Invocation) : String :=
  String.ofList
    (invocation.name.toList ++
      '(' :: (commaSeparated invocation.shownArguments ++ [')']))

end Invocation

end GridScript
