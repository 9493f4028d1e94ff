import GridScript.Builtin.Reading

/-!
# Commands that write other files

Exports of properties, wells, visible cells and local refinements.
-/

namespace GridScript

namespace Builtin

/-- The file that a property goes to if none is named. -/
def propertyFile (folder : Path) (caseId : Option Nat) (timeStep : Nat)
    (property : String) : Path :=
  let label := (caseId.map natText).getD "case"
  folder.child (label ++ "-T" ++ natText timeStep ++ "-" ++ property)

/-- Writes one result property of a case. -/
def runExportProperty (arguments : Arguments) : Action Response := do
  let property ← requiredText arguments "property"
  let caseId := idArgument arguments "caseId"
  let timeStep ← nonNegative arguments "timeStep"
  let workspace ← get
  let named := arguments.textOr "exportFile" ""
  let file :=
    if named.isEmpty then
      propertyFile (workspace.exportFolder .properties) caseId timeStep property
    else workspace.session.resolvePath ⟨named⟩
  let written ← Action.exportProperty {
    caseId, timeStep, property, file
    keyword := arguments.textOr "eclipseKeyword" ""
    undefinedValue := arguments.doubleOr "undefinedValue" .zero }
  Action.print (" Exported " ++ property ++ " to \"" ++ written.text ++ "\"")
  return Response.ok.withResult (.files [written])

@[inherit_doc runExportProperty]
def exportProperty : Command where
  name := "exportProperty"
  fields := [
    idField "caseId" "",
    intField "timeStep" 0 "",
    textField "property" "Result property name",
    textField "eclipseKeyword"
      "Keyword written to the file; defaults to the property name",
    { name := "undefinedValue", type := .double, default := .double .zero },
    textField "exportFile"
      "Output file; defaults to a file in the properties folder"]
  help := "Export one result property of a case at a time step."
  run := Command.ofAction runExportProperty

/-- The distance between the points of an exported well that is used if none is
given. -/
def usualStepSize : Binary64 := .ofInt 5

/-- Writes well paths.  Names that no well has are told in a warning. -/
def runExportWellPaths (arguments : Arguments) : Action Response := do
  let stepSize := arguments.doubleOr "mdStepSize" usualStepSize
  if stepSize.isAtMostZero then
    throw (.invalidArgument "mdStepSize" "must be positive")
  let report ← Action.exportWellPaths {
    stepSize
    names := arguments.texts "wellPathNames"
    folder := (← get).exportFolder .wellPaths }
  if report.missing.isEmpty then
    return Response.ok.withResult (.files report.files)
  let message := "well paths not found: " ++ joinWith ", " report.missing
  Action.note .warn message
  return (Response.warning message).withResult (.files report.files)

@[inherit_doc runExportWellPaths]
def exportWellPaths : Command where
  name := "exportWellPaths"
  fields := [
    { name := "wellPathNames", type := .array .string, default := .array []
      help := "Well paths to export; empty for all" },
    { name := "mdStepSize", type := .double, default := .double usualStepSize
      help := "Measured depth between exported points" }]
  help := "
Export well path geometry to the well path folder.

Names that match no well path are reported as a warning; the others are
still exported.

EXAMPLES

    exportWellPaths(wellPathNames=[\"A-1\", \"B-2\"], mdStepSize=10.0)
"
  run := Command.ofAction runExportWellPaths

/-- The keywords that visible cells can be written under. -/
def cellKeywords : Enumeration :=
  ⟨"ExportKeyword", ["FLUXNUM", "MULTNUM"]⟩

/-- Writes the visible cells of a view. -/
def runExportVisibleCells (arguments : Arguments) : Action Response := do
  let some view := arguments.object? "view" | throw (.missingArgument "view")
  let written ← Action.exportVisibleCells {
    viewId := view.id
    keyword := (arguments.variant? "exportKeyword").getD "FLUXNUM"
    visibleValue := arguments.intOr "visibleActiveCellsValue" 1
    hiddenValue := arguments.intOr "hiddenActiveCellsValue" 0
    inactiveValue := arguments.intOr "inactiveCellsValue" 0
    folder := (← get).exportFolder .cells }
  return Response.ok.withResult (.files [written])

@[inherit_doc runExportVisibleCells]
def exportVisibleCells : Command where
  name := "exportVisibleCells"
  fields := [
    { name := "view", type := .reference "View", default := .reference none
      help := "View to export" },
    { name := "exportKeyword", type := .enumeration cellKeywords
      default := .variant "FLUXNUM" },
    intField "visibleActiveCellsValue" 1 "",
    intField "hiddenActiveCellsValue" 0 "",
    intField "inactiveCellsValue" 0 ""]
  help := "
Export the visible cells of a view as an integer keyword.

EXAMPLES

    exportVisibleCells(view=View:0, exportKeyword=MULTNUM, hiddenActiveCellsValue=2)
"
  run := Command.ofAction runExportVisibleCells

/-- A refinement factor, which is at least one and fits 32 bits. -/
def refinement (arguments : Arguments) (name : String) : Action Nat :=
  let value := arguments.intOr name 1
  if 1 ≤ value ∧ value < 0x100000000 then return value.toNat
  else
    throw (.invalidArgument name
      ("refinement must be at least 1, got " ++ intText value))

/-- Writes local refinements around wells. -/
def runExportLgrForCompletions (arguments : Arguments) : Action Response := do
  let timeStep ← nonNegative arguments "timeStep"
  let i ← refinement arguments "refinementI"
  let j ← refinement arguments "refinementJ"
  let k ← refinement arguments "refinementK"
  let files ← Action.exportLgrs {
    timeStep
    caseId := idArgument arguments "caseId"
    wellPathNames := arguments.texts "wellPathNames"
    refinement := (i, j, k)
    folder := (← get).exportFolder .lgrs }
  let response :=
    if files.isEmpty then Response.warning "no LGRs were exported" else .ok
  return response.withResult (.files files)

@[inherit_doc runExportLgrForCompletions]
def exportLgrForCompletions : Command where
  name := "exportLgrForCompletions"
  fields := [
    idField "caseId" "",
    intField "timeStep" 0 "",
    { name := "wellPathNames", type := .array .string, default := .array [] },
    intField "refinementI" 1 "",
    intField "refinementJ" 1 "",
    intField "refinementK" 1 ""]
  help := "Export local grid refinements around the completions of well paths."
  run := Command.ofAction runExportLgrForCompletions

end Builtin

end GridScript
