import GridScript.Command.Basic

/-!
# The registry

The commands that scripts can use, by keyword.  A keyword is the name of one
command or an alias of one command, never both.
-/

namespace GridScript

/-- The known commands and the aliases that lead to them. -/
structure Registry where
  commands : List Command := []
  /-- An alias and the name of its command. -/
  aliases : List (String × String) := []

namespace Registry

def empty : Registry := {}

def named? (registry : Registry) (name : String) : Option Command :=
  registry.commands.find? (·.name == name)

def aliased? (registry : Registry) (keyword : String) : Option String :=
  (registry.aliases.find? (·.1 == keyword)).map (·.2)

/-- Whether a keyword is taken, by a command or by an alias. -/
def contains (registry : Registry) (keyword : String) : Bool :=
  (registry.named? keyword).isSome || (registry.aliased? keyword).isSome

/-- The command for a keyword. -/
def get? (registry : Registry) (keyword : String) : Option Command :=
  registry.named? keyword <|> (registry.aliased? keyword).bind registry.named?

/-- The registry with one more alias. -/
def withAlias (registry : Registry) (keyword name : String) : Registry :=
  { registry with aliases := registry.aliases ++ [(keyword, name)] }

/-- The registry with one more command, and no aliases for it. -/
def withCommand (registry : Registry) (command : Command) : Registry :=
  { registry with commands := registry.commands ++ [command] }

end Registry

/-- What changes a registry and can fail.  A failure takes nothing back. -/
abbrev Registration := ExceptT CommandError (StateM Registry)

namespace Registration

/-- Fails if a keyword for a command is taken, or is its own name once more. -/
def require (keyword : String) (again : Bool) : Registration Unit := do
  if (← get).contains keyword || again then
    throw (.duplicateCommand keyword)

/-- Adds a command.  Its name and its aliases must not be taken, and no alias
may be its own name.  All of them are checked before the first one is added. -/
def add (command : Command) : Registration Unit := do
  require command.name false
  command.aliases.forM fun other => require other (other == command.name)
  command.aliases.forM fun other => modify (·.withAlias other command.name)
  modify (·.withCommand command)

end Registration

namespace Registry

/-- Tries to add a command.  Gives what comes of it and the registry as it is
then. -/
def attempt (registry : Registry) (command : Command) :
    Except CommandError Unit × Registry :=
  (Registration.add command).run.run registry

/-- The registry with a command added, or why there is none. -/
def register (registry : Registry) (command : Command) :
    Except CommandError Registry :=
  let done := registry.attempt command
  done.1.map fun () => done.2

/-- A use of the command for a keyword, with every field at its default. -/
def create? (registry : Registry) (keyword : String) : Option Invocation :=
  (registry.get? keyword).map (Invocation.ofCommand keyword)

/-- The names of all commands, in order. -/
def names (registry : Registry) : List String :=
  (registry.commands.map (·.name)).mergeSort
    fun left right => decide (left ≤ right)

def size (registry : Registry) : Nat := registry.commands.length

/-- The help text for a keyword. -/
def help? (registry : Registry) (keyword : String) : Option String :=
  (registry.get? keyword).map Command.helpText

/-- A line for each command with the first line of its help. -/
def listing (registry : Registry) : List String :=
  registry.names.map fun name =>
    "  " ++ padRight 28 name ++
      ((registry.get? name).map Command.summary).getD ""

end Registry

end GridScript
