import GridScript.Disk.Path
import GridScript.Host.ExportKind

/-!
# Sessions

What the commands of one session share: the open project, the start folder and
the export folders set so far.
-/

namespace GridScript

/-- The state that the commands of a session share. -/
structure Session where
  /-- The folders set for exports since the project was opened. -/
  exportPaths : ByKind Path := .empty
  /-- The project opened last and not closed since. -/
  lastProject : Option Path := none
  /-- The folder that relative paths start from. -/
  startFolder : Option Path := none
  /-- Folder names used in place of the usual ones. -/
  folderNames : ByKind String := .empty
  deriving DecidableEq, Repr, Inhabited

namespace Session

/-- A session with folder names from the settings. -/
def withFolderNames (folderNames : ByKind String) : Session :=
  { folderNames }

def setExportPath (session : Session) (kind : ExportKind) (path : Path) :
    Session :=
  { session with exportPaths := session.exportPaths.insert kind path }

/-- A project was opened: the export folders of the one before are forgotten. -/
def resetForProject (session : Session) (project : Path) : Session :=
  { session with exportPaths := .empty, lastProject := some project }

def projectClosed (session : Session) : Session :=
  { session with lastProject := none }

def setStartFolder (session : Session) (folder : Path) : Session :=
  { session with startFolder := some folder }

/-- A relative path is taken from the start folder, if there is one. -/
def resolvePath (session : Session) (path : Path) : Path :=
  match session.startFolder with
  | some folder => if path.isAbsolute then path else folder.join path
  | none => path

/-- The name of the folder for a kind where no export folder is set. -/
def folderName (session : Session) (kind : ExportKind) : String :=
  (session.folderNames.get? kind).getD kind.folderName

/-- The folder that holds the folders of all kinds: the one of the open project,
or else the start folder. -/
def exportBase (session : Session) (project : Option Path) : Option Path :=
  ((project <|> session.lastProject).bind Path.folder?) <|> session.startFolder

/-- The folder that exports of a kind go to, given the project that the
application has open. -/
def exportFolder (session : Session) (project : Option Path)
    (kind : ExportKind) : Path :=
  match session.exportPaths.get? kind with
  | some path => path
  | none =>
    match session.exportBase project with
    | some base => base.child (session.folderName kind)
    | none => ⟨session.folderName kind⟩

end Session

end GridScript
