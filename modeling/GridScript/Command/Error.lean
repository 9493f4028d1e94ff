import GridScript.Disk.Basic

/-!
# Why a command fails

The causes of failure and their wording.
-/

namespace GridScript

/-- Why a command, or the set-up of the engine, fails. -/
inductive CommandError where
  | unknownCommand (keyword : String)
  /-- A keyword is taken already. -/
  | duplicateCommand (keyword : String)
  | invalidArgument (name reason : String)
  | missingArgument (name : String)
  /-- A case, view, case group or file is not there. -/
  | objectNotFound (what : String)
  /-- The command needs an open project. -/
  | projectNotOpen (keyword : String)
  | disk (cause : DiskError)
  | unreadableSettings (path : Path) (cause : DiskError)
  /-- A file of settings is not understood. -/
  | malformedSettings
  | unreadableScript (path : Path) (cause : DiskError)
  | unreadableGridList (path : Path) (cause : DiskError)
  | emptyGridList (path : Path)
  | folderNotCreated (path : Path) (cause : DiskError)
  | invalidManifest
  deriving DecidableEq, Repr

namespace CommandError

/-- The wording of a failure. -/
def message : CommandError → String
  | unknownCommand keyword => "unknown command: " ++ keyword
  | duplicateCommand keyword => "command keyword registered twice: " ++ keyword
  | invalidArgument name reason =>
    "invalid argument '" ++ name ++ "': " ++ reason
  | missingArgument name => "missing required argument: " ++ name
  | objectNotFound what => "object not found: " ++ what
  | projectNotOpen keyword =>
    "no project is open: '" ++ keyword ++
      "' requires a preceding openProject command"
  | disk cause => "I/O error: " ++ cause.message
  | unreadableSettings path cause =>
    "configuration error: cannot read " ++ path.text ++ ": " ++ cause.message
  | malformedSettings => "configuration error"
  | unreadableScript path cause =>
    "cannot read command file " ++ path.text ++ ": " ++ cause.message
  | unreadableGridList path cause =>
    "cannot read grid list " ++ path.text ++ ": " ++ cause.message
  | emptyGridList path => "grid list " ++ path.text ++ " is empty"
  | folderNotCreated path cause =>
    "could not create folder " ++ path.text ++ ": " ++ cause.message
  | invalidManifest => "invalid project manifest"

end CommandError

end GridScript
