import GridScript.Builtin.Case
import GridScript.Builtin.Export
import GridScript.Builtin.Project
import GridScript.Builtin.Snapshot
import GridScript.Command.Registry

/-!
# The built-in commands

All commands that every script can use.
-/

namespace GridScript

namespace Builtin

/-- The built-in commands. -/
def commands : List Command :=
  [openProject, closeProject, setStartDir, loadCase, replaceCase,
   replaceSourceCases, setTimeStep, exportSnapshots, exportMultiCaseSnapshots,
   setExportFolder, exportProperty, exportWellPaths, exportVisibleCells,
   exportLgrForCompletions]

end Builtin

namespace Registry

/-- The registry of the built-in commands.  Their keywords are distinct and none
has an alias, so there is nothing to refuse. -/
def builtin : Registry :=
  { commands := Builtin.commands }

end Registry

end GridScript
