import GridScript.Command.Error
import GridScript.Host.Application
import GridScript.Host.Session

/-!
# The workspace

All that commands can reach: the application, the session and the disk, and a
journal of what they have to say.  An `Action` may fail; what it did before it
failed stays done.
-/

namespace GridScript

/-- How important a notice is. -/
inductive Level where
  | error
  | warn
  | info
  | debug
  deriving DecidableEq, Repr

namespace Level

def label : Level → String
  | error => "error"
  | warn => "warn"
  | info => "info"
  | debug => "debug"

/-- More important levels have smaller numbers. -/
def rank : Level → Nat
  | error => 1
  | warn => 2
  | info => 3
  | debug => 4

end Level

/-- One entry of the journal. -/
structure Notice where
  level : Level
  text : String
  deriving DecidableEq, Repr

/-- All that commands can reach. -/
structure Workspace where
  application : Application := {}
  session : Session := {}
  disk : Disk := {}
  /-- What has been said, in order. -/
  journal : List Notice := []
  /-- Whether commands keep back their informational notices. -/
  quiet : Bool := false
  deriving Inhabited

namespace Workspace

/-- Adds a notice to the journal. -/
def note (workspace : Workspace) (level : Level) (text : String) : Workspace :=
  { workspace with journal := workspace.journal ++ [⟨level, text⟩] }

/-- The folder that exports of a kind go to. -/
def exportFolder (workspace : Workspace) (kind : ExportKind) : Path :=
  workspace.session.exportFolder workspace.application.project kind

end Workspace

/-- What a command does.  A failure ends it and leaves the workspace as it is by
then. -/
abbrev Action := ExceptT CommandError (StateM Workspace)

namespace Action

def note (level : Level) (text : String) : Action Unit :=
  modify (·.note level text)

/-- Tells something that matters only to a person watching. -/
def print (text : String) : Action Unit := do
  if !(← get).quiet then note .info text

def changeApplication (change : Application → Application) : Action Unit :=
  modify fun workspace =>
    { workspace with application := change workspace.application }

def changeSession (change : Session → Session) : Action Unit :=
  modify fun workspace => { workspace with session := change workspace.session }

/-- Adds an object to the application and gives its number. -/
def add (change : Application → Nat × Application) : Action Nat := do
  let (id, application) := change (← get).application
  modify fun workspace => { workspace with application }
  return id

/-- Makes a folder and those that hold it. -/
def createFolders (path : Path) (cause : DiskError → CommandError) :
    Action Unit := do
  let (outcome, disk) := (← get).disk.createFolders path
  modify fun workspace => { workspace with disk }
  match outcome with
  | .ok () => return ()
  | .error reason => throw (cause reason)

/-- Reads a text file. -/
def read (path : Path) (cause : DiskError → CommandError) : Action String := do
  match (← get).disk.read path with
  | .ok text => return text
  | .error reason => throw (cause reason)

/-- Writes a file and the folders that hold it, and remembers it as written. -/
def writeFile (path : Path) (text : String) : Action Unit := do
  match path.folder? with
  | some folder => createFolders folder .disk
  | none => pure ()
  match (← get).disk.write path text with
  | .ok disk => modify fun workspace => { workspace with disk }
  | .error reason => throw (.disk reason)
  note .debug ("wrote " ++ path.text)
  changeApplication fun app => { app with written := app.written ++ [path] }

/-- Writes a file with the given name into a folder, which is made if need
be. -/
def writeExport (folder : Path) (name text : String) : Action Path := do
  createFolders folder .disk
  let path := folder.child name
  writeFile path text
  return path

/-- The path as the session sees it. -/
def resolve (text : String) : Action Path :=
  return (← get).session.resolvePath ⟨text⟩

end Action

end GridScript
