import GridScript.Program.Basic

/-!
# The executable

Carries the program out on the real disk: the working folder and the folders of
the files that the command line names are read first, and what has changed is
written afterwards.
-/

namespace GridScript

namespace Executable

/-- Adds all that stands below a folder. -/
partial def addEntries (disk : Disk) (location : Location)
    (entries : List IO.FS.DirEntry) : IO Disk :=
  entries.foldlM (fun disk entry => do
    let here := location ++ [entry.fileName]
    match (← entry.path.metadata).type with
    | .dir =>
      addEntries (disk.put here .folder) here (← entry.path.readDir).toList
    | .file => return disk.put here (.file (← IO.FS.readBinFile entry.path))
    | _ => return disk) disk

/-- Adds a folder and all that stands below it. -/
def addFolder (disk : Disk) (folder : String) : IO Disk := do
  let path ← IO.FS.realPath folder
  let location := Disk.stepsOf ⟨path.toString⟩
  if disk.isFolderAt location || !(← path.isDir) then return disk
  addEntries ((disk.putFoldersAbove location).put location .folder) location
    (← path.readDir).toList

/-- The files that a request names. -/
def namedFiles (request : Request) : List Path :=
  request.config.toList ++
    match request.task with
    | .run script _ _ log _ => script :: log.toList
    | .shell log => log.toList
    | .commands _ => []

/-- The folders that matter to a request. -/
def foldersOf (request : Request) : List String :=
  (namedFiles request).filterMap fun path => path.folder?.map (·.text)

/-- The part of the real disk that matters to a request.  Describing commands
needs none. -/
def readDisk (request : Request) : IO Disk := do
  if request.task matches .commands _ then return {}
  let folder := (← IO.currentDir).toString
  let disk ← addFolder { workingFolder := Disk.stepsOf ⟨folder⟩ } folder
  (foldersOf request).foldlM
    (fun disk folder => addFolder disk folder <|> pure disk) disk

/-- Writes what has changed, folders first. -/
def writeChanges (before after : Disk) : IO Unit := do
  let changed := after.entries.filter fun (location, entry) =>
    !decide (before.find? location = some entry)
  let pathOf := fun (location : Location) => "/" ++ "/".intercalate location
  for (location, entry) in changed do
    if entry matches .folder then IO.FS.createDirAll (pathOf location)
  for (location, entry) in changed do
    if let .file content := entry then
      IO.FS.writeBinFile (pathOf location) content

/-- The least important notices that are shown. -/
def shownLevel (request : Request) : Level :=
  if request.verbose then .debug else if request.quiet then .warn else .info

/-- Shows the notices of an engine, writes what it has changed and forgets the
notices. -/
def publish (request : Request) (before : Disk) (engine : Engine) :
    IO Engine := do
  for notice in engine.workspace.journal do
    if notice.level.rank ≤ (shownLevel request).rank then
      IO.eprintln ("[" ++ notice.level.label ++ "] " ++ notice.text)
  writeChanges before engine.workspace.disk
  return { engine with workspace := { engine.workspace with journal := [] } }

/-- Shows an output and publishes what led to it. -/
def tell (request : Request) (before : Disk) (output : String)
    (engine : Engine) : IO Engine := do
  IO.print output
  (← IO.getStdout).flush
  publish request before engine

/-- Obeys the lines that are typed, and gives the exit code. -/
partial def converse (request : Request) (engine : Engine) :
    IO (Nat × Engine) := do
  let input ← IO.getStdin
  if ← input.isTty then
    IO.print Shell.prompt
    (← IO.getStdout).flush
  let text ← input.getLine
  if text.isEmpty then return (0, engine)
  let done := Shell.step engine ((lines text).headD "")
  let engine ← tell request engine.workspace.disk done.output done.engine
  match done.exitCode with
  | some code => return (code, engine)
  | none => converse request engine

/-- Carries out a request and gives the exit code. -/
def serve (request : Request) : IO UInt32 := do
  let disk ← readDisk request
  match Program.start request disk with
  | .ended ending =>
    let _ ← tell request disk ending.output ending.engine.stopRecording
    return ending.code.toUInt32
  | .typing output engine =>
    let (code, engine) ← converse request (← tell request disk output engine)
    let _ ← publish request engine.workspace.disk engine.stopRecording
    return code.toUInt32

/-- Carries out a command line and gives the exit code. -/
def run (words : List String) : IO UInt32 := do
  match Request.ofWords words with
  | .error .help =>
    IO.print Program.helpText
    return 0
  | .error .version =>
    IO.print Program.versionText
    return 0
  | .error (.refused reason) =>
    IO.eprintln ("error: " ++ reason.message)
    return 2
  | .ok request => serve request

end Executable

end GridScript

/-- Runs the program on the words of the command line. -/
def main (words : List String) : IO UInt32 :=
  GridScript.Executable.run words
