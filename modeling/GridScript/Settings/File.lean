import GridScript.Host.Workspace
import GridScript.Settings.Reader
import GridScript.Settings.Writer

/-!
# Files of settings
-/

namespace GridScript

namespace Action

/-- Reads settings from a file. -/
def loadSettings (path : Path) : Action Settings := do
  let text ← read path (.unreadableSettings path)
  match Settings.parse? text with
  | none => throw .malformedSettings
  | some settings =>
    note .debug ("loaded configuration from " ++ path.text)
    return settings

/-- Writes settings to a file and makes the folders that hold it. -/
def saveSettings (path : Path) (settings : Settings) : Action Unit := do
  match path.parent? with
  | some folder => createFolders folder .disk
  | none => pure ()
  match (← get).disk.write path settings.toToml with
  | .ok disk => modify fun workspace => { workspace with disk }
  | .error reason => throw (.disk reason)

end Action

end GridScript
