import GridScript.Builtin.Reading

/-!
# Commands on projects and folders

Opening and closing a project, and setting the folders that paths start from and
exports go to.
-/

namespace GridScript

namespace Builtin

/-- Opens a project and starts a new session for it. -/
def runOpenProject (arguments : Arguments) : Action Response := do
  let path ← requiredPath arguments "path"
  Action.openProject path
  Action.startSession path
  Action.print (" Opened project \"" ++ path.text ++ "\"")
  return .ok

@[inherit_doc runOpenProject]
def openProject : Command where
  name := "openProject"
  fields := [textField "path" "Project file to open"]
  help := "
Open a project file, closing the current one.

Export folders set with setExportFolder are forgotten: they belong to the
project that was open when they were set.

EXAMPLES

    openProject(\"/data/field.rsp\")
"
  run := Command.ofAction runOpenProject

/-- Closes the project that is open. -/
def runCloseProject : Action Response := do
  if (← get).application.project.isNone then
    return .warning "no project is open"
  Action.closeProject
  Action.changeSession Session.projectClosed
  return .ok

@[inherit_doc runCloseProject]
def closeProject : Command where
  name := "closeProject"
  help := "Close the current project."
  run := Command.ofAction fun _ => runCloseProject

/-- Sets the folder that relative paths start from, whether it exists or not. -/
def runSetStartDir (arguments : Arguments) : Action Response := do
  let folder ← requiredPath arguments "path"
  let isThere := (← get).disk.isFolder folder
  Action.changeSession (·.setStartFolder folder)
  if isThere then return .ok
  return .warning ("start folder " ++ folder.text ++ " does not exist")

@[inherit_doc runSetStartDir]
def setStartDir : Command where
  name := "setStartDir"
  fields := [textField "path" "Folder relative paths are resolved against"]
  help :=
    "Set the folder that relative file paths in later commands start from."
  run := Command.ofAction runSetStartDir

/-- Sets the folder that exports of one kind go to. -/
def runSetExportFolder (arguments : Arguments) : Action Response := do
  let kindName := (arguments.variant? "type").getD ""
  let some kind := ExportKind.ofScriptName? kindName
    | throw (.invalidArgument "type"
        ("unknown export type '" ++ kindName ++ "'"))
  let folder ← requiredPath arguments "path"
  let isThere := (← get).disk.isFolder folder
  let create := arguments.boolOr "createFolder" false
  if !isThere && create then
    Action.createFolders folder (.folderNotCreated folder)
  Action.print
    (" " ++ kind.scriptName ++ " exports go to \"" ++ folder.text ++ "\"")
  Action.changeSession (·.setExportPath kind folder)
  if isThere || create then return .ok
  return .warning ("export folder " ++ folder.text ++ " does not exist")

@[inherit_doc runSetExportFolder]
def setExportFolder : Command where
  name := "setExportFolder"
  fields := [
    { name := "type", type := .enumeration ExportKind.names
      default := .variant "COMPLETIONS"
      help := "Kind of export the folder is used for" },
    textField "path" "Output folder",
    { name := "createFolder", type := .bool, default := .bool false
      help := "Create the folder if it does not exist" }]
  help := "
Set the output folder for one kind of export until the next openProject.

Types: COMPLETIONS, SNAPSHOTS, PROPERTIES, STATISTICS, WELLPATHS, CELLS, LGRS

COMPLETIONS and STATISTICS folders are read by the host application;
no built-in command writes them.

EXAMPLES

    setExportFolder(type=SNAPSHOTS, path=\"out/images\", createFolder=true)
"
  run := Command.ofAction runSetExportFolder

end Builtin

end GridScript
