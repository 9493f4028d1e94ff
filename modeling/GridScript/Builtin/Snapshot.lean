import GridScript.Builtin.Reading

/-!
# Commands that write snapshots

Snapshots of the views of the open project, and of the same views for a whole
list of grids.
-/

namespace GridScript

namespace Builtin

/-- Writes snapshots of views. -/
def runExportSnapshots (arguments : Arguments) : Action Response := do
  let kindName := (arguments.variant? "type").getD "ALL"
  let some kind := SnapshotKind.ofName? kindName
    | throw (.invalidArgument "type" ("unknown snapshot type " ++ kindName))
  let folder := (← get).exportFolder .snapshots
  let files ← Action.exportSnapshots {
    kind, folder
    stem := arguments.textOr "prefix" ""
    caseId := idArgument arguments "caseId"
    viewIds := (arguments.objects "views").map (·.id) }
  if files.isEmpty then
    return (Response.warning "no snapshots were exported").withResult
      (.files files)
  Action.print (" Exported " ++ natText files.length ++
    " snapshots to \"" ++ folder.text ++ "\"")
  return Response.ok.withResult (.files files)

@[inherit_doc runExportSnapshots]
def exportSnapshots : Command where
  name := "exportSnapshots"
  fields := [
    { name := "type", type := .enumeration SnapshotKind.names
      default := .variant "ALL"
      help := "VIEWS, PLOTS or ALL" },
    textField "prefix" "Prepended to every file name",
    idField "caseId" "Only views of this case; -1 for all",
    { name := "views", type := .references "View", default := .array []
      help := "Only these views; empty for all" }]
  help := "
Export snapshots of views and/or plots to the snapshot folder.

The folder is the one set with setExportFolder(type=SNAPSHOTS, ...), or a
\"snapshots\" folder next to the open project.

EXAMPLES

    exportSnapshots()
    exportSnapshots(type=VIEWS, prefix=\"base_\", views=[View:0, View:2])
"
  run := Command.ofAction runExportSnapshots

/-- Opens the project anew, gives its first case the grid, and writes snapshots
of all views whose names begin with the name of the grid. -/
def snapshotGrid (project grid : Path) : Action (List Path) := do
  Action.openProject project
  Action.replaceCase none grid
  Action.exportSnapshots {
    kind := .all
    stem := grid.fileStem?.getD "" ++ "_"
    caseId := none
    viewIds := []
    folder := (← get).exportFolder .snapshots }

/-- Writes snapshots for each grid in turn.  A grid that fails adds its reason
to the response, and the others follow. -/
def snapshotGrids (project : Path) (response : Response) :
    List Path → StateM Workspace (Response × List Path)
  | [] => return (response, [])
  | grid :: more => do
    match ← (snapshotGrid project grid).run with
    | .ok files =>
      let (response, others) ← snapshotGrids project response more
      return (response, files ++ others)
    | .error cause =>
      snapshotGrids project
        (response.update .error (grid.text ++ ": " ++ cause.message)) more

/-- Writes snapshots of the open project for each grid of a list. -/
def runExportMultiCaseSnapshots (arguments : Arguments) : Action Response := do
  let project ← requireProject "exportMultiCaseSnapshots"
  let grids ← readGridList (← requiredPath arguments "gridListFile")
  let (response, files) ← snapshotGrids project .ok grids
  Action.print (" Exported " ++ natText files.length ++ " snapshots for " ++
    natText grids.length ++ " grids")
  return response.withResult (.files files)

@[inherit_doc runExportMultiCaseSnapshots]
def exportMultiCaseSnapshots : Command where
  name := "exportMultiCaseSnapshots"
  fields := [textField "gridListFile" "Text file with one grid file per line"]
  help := "
For every grid in the list: reopen the current project, replace its first
case with the grid and export snapshots prefixed with the grid name.

Requires a project opened earlier in the same session.
"
  run := Command.ofAction runExportMultiCaseSnapshots

end Builtin

end GridScript
