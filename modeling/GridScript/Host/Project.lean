import GridScript.Host.Workspace

/-!
# Opening projects and loading grids

The operations of the application on projects, cases and case groups.
-/

namespace GridScript

namespace Action

/-- The manifest of a project.  A file that is no manifest, or is missing where
files need not exist, stands for an empty project. -/
def loadManifest (path : Path) : Action Manifest := do
  let workspace ← get
  match workspace.application.preset? path with
  | some manifest => return manifest
  | none =>
    if !workspace.disk.exists? path then
      if workspace.application.checksFiles then
        throw (.objectNotFound ("project file " ++ path.text))
      note .warn
        ("project file " ++ path.text ++
          " does not exist, opening an empty project")
      return {}
    let text ← read path .disk
    match Manifest.parse? text with
    | some manifest => return manifest
    | none =>
      note .warn (path.text ++ ": " ++ CommandError.invalidManifest.message ++
        "; opening an empty project")
      return {}

/-- Opens a project in place of the one that is open. -/
def openProject (path : Path) : Action Unit := do
  let manifest ← loadManifest path
  changeApplication (·.withProject path manifest)
  let app := (← get).application
  note .info ("opened project " ++ path.text ++
    " (" ++ natText app.cases.length ++ " cases, " ++
    natText app.wellPaths.length ++ " well paths)")

def closeProject : Action Unit :=
  changeApplication Application.clear

/-- Starts the session anew for a project that was opened. -/
def startSession (project : Path) : Action Unit := do
  note .debug ("scripting session reset for project " ++ project.text)
  changeSession (·.resetForProject project)

/-- Fails if a grid file has to exist and does not. -/
def checkGridFile (path : Path) : Action Unit := do
  let workspace ← get
  if workspace.application.checksFiles && !workspace.disk.exists? path then
    throw (.objectNotFound ("grid file " ++ path.text))

/-- Loads a grid as a new case. -/
def loadCase (gridFile : Path) : Action Nat := do
  checkGridFile gridFile
  add (·.addCase gridFile)

/-- How a missing case is described. -/
def describeCase : Option Nat → String
  | some id => "case " ++ natText id
  | none => "no case is loaded"

/-- The case with the given number, or the first case. -/
def findCase (id : Option Nat) : Action GridCase := do
  match (← get).application.case? id with
  | some found => return found
  | none => throw (.objectNotFound (describeCase id))

/-- Gives a case another grid and goes back to its first time step. -/
def replaceCase (id : Option Nat) (gridFile : Path) : Action Unit := do
  checkGridFile gridFile
  let found ← findCase id
  note .debug ("case " ++ natText found.id ++ ": " ++
    found.gridFile.text ++ " -> " ++ gridFile.text)
  changeApplication
    (·.changeCase id fun c => { c with gridFile, timeStep := 0 })

/-- Gives a case group other source grids. -/
def replaceSourceCases (id : Option Nat) (gridFiles : List Path) :
    Action Unit := do
  gridFiles.forM checkGridFile
  match (← get).application.caseGroup? id, id with
  | some _, _ =>
    changeApplication
      (·.changeCaseGroup id fun g => { g with sources := gridFiles })
  | none, some id => throw (.objectNotFound ("case group " ++ natText id))
  | none, none => throw (.objectNotFound "no case group in project")

def setTimeStep (id : Option Nat) (timeStep : Nat) : Action Unit := do
  let _ ← findCase id
  changeApplication (·.changeCase id fun c => { c with timeStep })

end Action

end GridScript
