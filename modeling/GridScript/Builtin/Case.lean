import GridScript.Builtin.Reading

/-!
# Commands on cases

Loading grids, exchanging the grids of cases and case groups, and choosing time
steps.
-/

namespace GridScript

namespace Builtin

/-- Loads a grid as a new case. -/
def runLoadCase (arguments : Arguments) : Action Response := do
  let path ← requiredPath arguments "path"
  let id ← Action.loadCase path
  Action.print
    (" Loaded case " ++ natText id ++ " from \"" ++ path.text ++ "\"")
  return Response.ok.withResult (.gridCase id)

@[inherit_doc runLoadCase]
def loadCase : Command where
  name := "loadCase"
  fields := [
    { textField "path" "Grid file to load" with otherName := some "gridFile" }]
  help := "
Load a grid file as a new case. The response carries the new case id.

EXAMPLES

    loadCase(\"grids/BASE.EGRID\")
"
  run := Command.ofAction runLoadCase

/-- Gives a case of the open project another grid. -/
def runReplaceCase (arguments : Arguments) : Action Response := do
  let _ ← requireProject "replaceCase"
  let grid ← requiredPath arguments "newGridFile"
  Action.replaceCase (idArgument arguments "caseId") grid
  return .ok

@[inherit_doc runReplaceCase]
def replaceCase : Command where
  name := "replaceCase"
  fields := [
    { textField "newGridFile" "Grid file the case should read from now on" with
      otherName := some "file" },
    idField "caseId" "Case to replace; -1 for the first case"]
  help := "
Point a case of the open project at another grid file.

Requires a project opened earlier in the same session.

EXAMPLES

    openProject(\"template.rsp\")
    replaceCase(newGridFile=\"R1.EGRID\", caseId=0)
"
  run := Command.ofAction runReplaceCase

/-- Gives a case group of the open project the grids that a file lists. -/
def runReplaceSourceCases (arguments : Arguments) : Action Response := do
  let _ ← requireProject "replaceSourceCases"
  let grids ← readGridList (← requiredPath arguments "gridListFile")
  Action.replaceSourceCases (idArgument arguments "caseGroupId") grids
  Action.print
    (" Replaced source cases with " ++ natText grids.length ++ " grids")
  return .ok

@[inherit_doc runReplaceSourceCases]
def replaceSourceCases : Command where
  name := "replaceSourceCases"
  fields := [
    textField "gridListFile" "Text file with one grid file per line",
    idField "caseGroupId" "Case group to update; -1 for the first group"]
  help :=
    "Replace the source cases of a case group with the grids listed in a file."
  run := Command.ofAction runReplaceSourceCases

/-- Chooses the time step that the views of a case show. -/
def runSetTimeStep (arguments : Arguments) : Action Response := do
  let timeStep ← nonNegative arguments "timeStep"
  Action.setTimeStep (idArgument arguments "caseId") timeStep
  return .ok

@[inherit_doc runSetTimeStep]
def setTimeStep : Command where
  name := "setTimeStep"
  fields := [
    idField "caseId" "Case to change; -1 for the first case",
    intField "timeStep" 0 "Zero-based time step index"]
  help := "Show the given time step in every view of a case."
  run := Command.ofAction runSetTimeStep

end Builtin

end GridScript
