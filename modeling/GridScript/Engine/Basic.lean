import GridScript.Builtin.Registry
import GridScript.Engine.Outcome
import GridScript.Engine.Recorder
import GridScript.Script.Parser
import GridScript.Settings.Basic

/-!
# The engine

An engine reads scripts and runs them.  A script is read as a whole before its
first command runs; the commands then run in order on one workspace.
-/

namespace GridScript

/-- The commands that are known, the settings, the workspace that commands act
on, and the record that is being written. -/
structure Engine where
  registry : Registry := .builtin
  settings : Settings := {}
  recorder : Option Recorder := none
  workspace : Workspace := {}

namespace Engine

/-- The engine with other settings and a new session for them. -/
def withSettings (engine : Engine) (settings : Settings) : Engine :=
  { engine with
    settings
    workspace :=
      { engine.workspace with session := .withFolderNames settings.folders } }

/-- Adds a notice to the journal. -/
def note (engine : Engine) (level : Level) (text : String) : Engine :=
  { engine with workspace := engine.workspace.note level text }

/-- Adds a notice where it applies. -/
def noteIf (engine : Engine) (applies : Bool) (level : Level) (text : String) :
    Engine :=
  if applies then engine.note level text else engine

/-- Runs an action on the workspace. -/
def perform {α : Type} (engine : Engine) (action : Action α) :
    Except CommandError α × Engine :=
  let done := action.run.run engine.workspace
  (done.1, { engine with workspace := done.2 })

/-- Adds a command. -/
def register (engine : Engine) (command : Command) :
    Except CommandError Engine := do
  let registry ← engine.registry.register command
  return { engine with registry }.note .debug
    ("registered command '" ++ command.name ++ "'")

/-! ## Reading -/

/-- Reads a script.  References are to the objects of the application as it is
now. -/
def read (engine : Engine) (text : String) : ParsedScript :=
  parseScript engine.registry engine.settings.dialect
    engine.workspace.application.objectTable text

/-- The engine after the diagnostics of a script were noted. -/
def noteDiagnostics (engine : Engine) (diagnostics : List Diagnostic) :
    Engine :=
  diagnostics.foldl
    (fun engine diagnostic => engine.note .debug diagnostic.summary) engine

/-! ## Running -/

/-- The notice about a response. -/
def noteResponse (engine : Engine) (invocation : Invocation)
    (response : Response) : Engine :=
  let place := "line " ++ natText invocation.line ++ ": " ++ invocation.keyword
  match response.status with
  | .ok => engine.note .debug (place ++ " OK")
  | .warning => engine.note .warn (place ++ ": " ++ response.message)
  | .error => engine.note .error (place ++ ": " ++ response.message)

/-- Records a command, if a record is open. -/
def record (engine : Engine) (invocation : Invocation) (response : Response) :
    Engine :=
  match engine.recorder with
  | none => engine
  | some recorder =>
    let recorded := recorder.record engine.workspace.disk invocation response
    { engine with
      recorder := some recorded.1
      workspace := { engine.workspace with disk := recorded.2 } }

/-- Runs one command. -/
def runInvocation (engine : Engine) (invocation : Invocation) :
    Response × Engine :=
  let told := engine.noteIf engine.settings.policy.echo .info
    ("> " ++ invocation.toScript)
  let done := invocation.run.run told.workspace
  let noted := { told with workspace := done.2 }.noteResponse invocation done.1
  (done.1, noted.record invocation done.1)

/-- What a run of commands gives: those that were run, and whether it stopped
before the last. -/
structure Run where
  executed : List Executed := []
  stopped : Bool := false
  deriving DecidableEq, Repr

/-- Runs commands in order.  If the settings ask for it, the first one that
fails ends the run. -/
def runInvocations (engine : Engine) : List Invocation → Run × Engine
  | [] => ({}, engine)
  | invocation :: more =>
    let done := engine.runInvocation invocation
    let executed : Executed := ⟨invocation.keyword, invocation.line, done.1⟩
    if done.1.isError && engine.settings.policy.stopOnError then
      let stopped := !more.isEmpty
      (⟨[executed], stopped⟩,
        done.2.noteIf stopped .warn
          ("stopping after error on line " ++ natText invocation.line))
    else
      let rest := done.2.runInvocations more
      (⟨executed :: rest.1.executed, rest.1.stopped⟩, rest.2)

/-- Reads and runs a script. -/
def runScript (engine : Engine) (text : String) : Outcome × Engine :=
  let parsed := engine.read text
  let errors := parsed.errorCount
  let count := parsed.invocations.length
  let noted := (engine.noteDiagnostics parsed.diagnostics).noteIf
    (errors != 0) .warn ("script has " ++ natText errors ++ " parse errors")
  if errors != 0 && engine.settings.policy.skipOnParseErrors then
    ({ diagnostics := parsed.diagnostics, parsed := count
       stoppedEarly := count != 0 },
      noted.note .warn "execution skipped because of parse errors")
  else
    let run := noted.runInvocations parsed.invocations
    ({ diagnostics := parsed.diagnostics, executed := run.1.executed
       parsed := count, stoppedEarly := run.1.stopped }, run.2)

/-- Relative paths start from the folder of a script, unless a start folder is
set already. -/
def startAt (engine : Engine) (path : Path) : Engine :=
  match engine.workspace.session.startFolder, path.folder? with
  | none, some folder =>
    let session := engine.workspace.session.setStartFolder folder
    { engine with workspace := { engine.workspace with session } }
  | _, _ => engine

/-- Reads and runs a script file. -/
def runFile (engine : Engine) (path : Path) :
    Except CommandError Outcome × Engine :=
  match engine.workspace.disk.read path with
  | .error reason => (.error (.unreadableScript path reason), engine)
  | .ok text =>
    let done :=
      ((engine.startAt path).note .info
        ("executing command file " ++ path.text)).runScript text
    (.ok done.1, done.2)

/-! ## Recording -/

def isRecording (engine : Engine) : Bool := engine.recorder.isSome

/-- Ends the record, if one is open. -/
def stopRecording (engine : Engine) : Engine :=
  match engine.recorder with
  | none => engine
  | some recorder =>
    let disk := (recorder.flush engine.workspace.disk).2
    { engine with
      recorder := none
      workspace := { engine.workspace with disk } }

/-- Starts a record, after the end of an earlier one. -/
def startRecording (engine : Engine) (path : Path) :
    Except CommandError Unit × Engine :=
  let closed := engine.stopRecording
  match Recorder.start closed.workspace.disk path with
  | .error reason => (.error (.disk reason), closed)
  | .ok (recorder, disk) =>
    (.ok (),
      { closed with
        recorder := some recorder
        workspace := { closed.workspace with disk } }.note .info
          ("logging commands to " ++ path.text ++ " (" ++
            recorder.format.label ++ ")"))

end Engine

end GridScript
