import GridScript.Host.Project

/-!
# Exports

The operations of the application that write files.  Each writes plain text that
describes what was exported.
-/

namespace GridScript

/-- Which windows are captured. -/
inductive SnapshotKind where
  | views
  | plots
  | all
  deriving DecidableEq, Repr

namespace SnapshotKind

/-- The names in scripts. -/
def names : Enumeration :=
  ⟨"SnapshotType", ["VIEWS", "PLOTS", "ALL"]⟩

def ofName? (name : String) : Option SnapshotKind :=
  match name with
  | "VIEWS" => some views
  | "PLOTS" => some plots
  | "ALL" => some all
  | _ => none

end SnapshotKind

structure SnapshotRequest where
  kind : SnapshotKind
  /-- The front of every file name. -/
  stem : String
  /-- Only views of this case. -/
  caseId : Option Nat
  /-- Only these views; all of them if there are none. -/
  viewIds : List Nat
  folder : Path

structure PropertyRequest where
  caseId : Option Nat
  timeStep : Nat
  property : String
  /-- The keyword in the file; the property itself if it is empty. -/
  keyword : String
  undefinedValue : Binary64
  file : Path

structure WellPathRequest where
  /-- The wells to export; all of them if there are none. -/
  names : List String
  stepSize : Binary64
  folder : Path

/-- What an export of wells wrote, and the names that it found no well for. -/
structure WellPathReport where
  files : List Path
  missing : List String
  deriving DecidableEq, Repr

structure CellRequest where
  viewId : Nat
  keyword : String
  visibleValue : Int
  hiddenValue : Int
  inactiveValue : Int
  folder : Path

structure LgrRequest where
  caseId : Option Nat
  timeStep : Nat
  /-- The wells to refine around; all of them if there are none. -/
  wellPathNames : List String
  refinement : Nat × Nat × Nat
  folder : Path

/-- A name with a low line for every character that does not belong in a file
name. -/
def fileSafe (name : String) : String :=
  String.ofList (name.toList.map fun c =>
    if isAlphanumeric c || c == '-' || c == '_' then c else '_')

namespace Application

/-- The views that a request for snapshots selects. -/
def selectedViews (app : Application) (request : SnapshotRequest) : List View :=
  if request.kind == .plots then []
  else
    app.views.filter fun view =>
      request.caseId.all (· == view.caseId) &&
        (request.viewIds.isEmpty || request.viewIds.contains view.id)

def hasWellPath (app : Application) (name : String) : Bool :=
  app.wellPaths.any (·.name == name)

/-- The wells that are asked for and known, in the order they are asked for; all
wells if none is asked for. -/
def selectedWells (app : Application) (names : List String) : List String :=
  if names.isEmpty then app.wellPaths.map (·.name)
  else names.filter app.hasWellPath

/-- The names that are asked for and not known. -/
def missingWells (app : Application) (names : List String) : List String :=
  names.filter (!app.hasWellPath ·)

end Application

/-- What a snapshot of a view says. -/
def snapshotText (view : View) (shown : GridCase) : String :=
  "view " ++ natText view.id ++ " '" ++ view.name ++
    "'\ncase " ++ natText shown.id ++ " " ++ shown.gridFile.text ++
    "\ntime step " ++ natText shown.timeStep ++ "\n"

def propertyText (request : PropertyRequest) (exported : GridCase) : String :=
  "-- " ++ request.property ++ " exported from case " ++ natText exported.id ++
    " at time step " ++ natText request.timeStep ++
    "\n-- undefined value " ++ request.undefinedValue.shortest ++ "\n" ++
    (if request.keyword.isEmpty then request.property else request.keyword) ++
    "\n/\n"

def wellPathText (request : WellPathRequest) (name : String) : String :=
  "WELLNAME: " ++ name ++ "\n# MD step size " ++ request.stepSize.shortest ++
    "\n"

def cellText (request : CellRequest) (view : View) : String :=
  "-- visible cells of view '" ++ view.name ++
    "' (case " ++ natText view.caseId ++
    ")\n-- visible active " ++ intText request.visibleValue ++
    ", hidden active " ++ intText request.hiddenValue ++
    ", inactive " ++ intText request.inactiveValue ++ "\n" ++
    request.keyword ++ "\n/\n"

def lgrText (request : LgrRequest) (caseId : Nat) (well : String) : String :=
  let (i, j, k) := request.refinement
  "CARFIN\n-- LGR for " ++ well ++ " in case " ++ natText caseId ++
    " at time step " ++ natText request.timeStep ++
    "\n-- refinement " ++ natText i ++ " " ++ natText j ++ " " ++
    natText k ++ "\n/\n"

namespace Action

def findView (id : Nat) : Action View := do
  match (← get).application.views.find? (·.id == id) with
  | some view => return view
  | none => throw (.objectNotFound ("view " ++ natText id))

def exportSnapshot (request : SnapshotRequest) (view : View) : Action Path := do
  let shown ← findCase (some view.caseId)
  writeExport request.folder (request.stem ++ fileSafe view.name ++ ".png.txt")
    (snapshotText view shown)

/-- Writes a snapshot of each selected view.  The case and the views that are
named have to exist. -/
def exportSnapshots (request : SnapshotRequest) : Action (List Path) := do
  match request.caseId with
  | some id => let _ ← findCase (some id)
  | none => pure ()
  request.viewIds.forM fun id => do let _ ← findView id
  ((← get).application.selectedViews request).mapM (exportSnapshot request)

/-- Writes one result property of a case. -/
def exportProperty (request : PropertyRequest) : Action Path := do
  let exported ← findCase request.caseId
  writeFile request.file (propertyText request exported)
  return request.file

/-- Writes a file for each selected well. -/
def exportWellPaths (request : WellPathRequest) : Action WellPathReport := do
  let app := (← get).application
  let files ← (app.selectedWells request.names).mapM fun name =>
    writeExport request.folder (fileSafe name ++ ".dev")
      (wellPathText request name)
  return ⟨files, app.missingWells request.names⟩

/-- Writes the visible cells of a view. -/
def exportVisibleCells (request : CellRequest) : Action Path := do
  let view ← findView request.viewId
  writeExport request.folder
    (fileSafe view.name ++ "_" ++ request.keyword ++ ".grdecl")
    (cellText request view)

/-- Writes a local refinement for each selected well.  Names that no well has
are passed over. -/
def exportLgrs (request : LgrRequest) : Action (List Path) := do
  let refined ← findCase request.caseId
  let app := (← get).application
  (app.selectedWells request.wellPathNames).mapM fun well =>
    writeExport request.folder ("lgr_" ++ fileSafe well ++ ".dat")
      (lgrText request refined.id well)

end Action

end GridScript
