import GridScript.Program.Request
import GridScript.Program.Shell
import GridScript.Settings.File

/-!
# The program

What the program does with a command line, the lines typed into it and the disk.
-/

namespace GridScript

namespace Program

/-- What the version option prints. -/
def versionText : String := "resinsight-cmd 0.1.0\n"

/-- What the help option prints. -/
def helpText : String := "Run ResInsight command files

Usage: resinsight-cmd [OPTIONS] <COMMAND>

Commands:
  run       Execute a command file
  shell     Read commands interactively
  commands  List the available commands, or show help for one
  help      Print this message

Options:
  -v, --verbose          Log every command and session change
  -q, --quiet            Only log warnings and errors
  -c, --config <CONFIG>  Engine configuration (TOML)
  -h, --help             Print help
  -V, --version          Print version

Options of run:
  --stop-on-error   Stop after the first command that fails
  --lint            Only parse the file and report its diagnostics
  --log <LOG>       Record executed commands (.jsonl for JSON lines)
  --no-file-checks  Do not check that project and grid files exist

Options of shell:
  --log <LOG>       Record executed commands (.jsonl for JSON lines)
"

/-- How the program ends. -/
structure Ending where
  /-- Zero if all went well. -/
  code : Nat
  output : String
  engine : Engine

/-- Ends after a failure, which is noted. -/
def fail (cause : CommandError) (engine : Engine) : Ending :=
  { code := 1, output := "", engine := engine.note .error cause.message }

/-- Ends after a task; a failure of the task is code one. -/
def finish (succeeded : Bool) (output : String) (engine : Engine) : Ending :=
  { code := if succeeded then 0 else 1, output, engine }

/-- The settings of a file, or the defaults without a file. -/
def loadSettings (engine : Engine) :
    Option Path → Except CommandError Settings × Engine
  | none => (.ok {}, engine)
  | some path => engine.perform (Action.loadSettings path)

/-- Starts a record, if one is asked for. -/
def startLog (engine : Engine) : Option Path → Except CommandError Unit × Engine
  | none => (.ok (), engine)
  | some path => engine.startRecording path

/-- The engine with the settings of a file and a record, if these are asked
for. -/
def prepare (engine : Engine) (config log : Option Path)
    (change : Settings → Settings) : Except CommandError Unit × Engine :=
  match loadSettings engine config with
  | (.error cause, engine) => (.error cause, engine)
  | (.ok settings, engine) =>
    startLog (engine.withSettings (change settings)) log

/-- What is reported of a script that was only read. -/
def lintText (parsed : ParsedScript) : String :=
  String.join (parsed.diagnostics.map fun diagnostic =>
      Shell.line diagnostic.display) ++
    Shell.line (natText parsed.invocations.length ++ " commands, " ++
      natText parsed.errorCount ++ " errors, " ++
      natText parsed.warningCount ++ " warnings")

/-- Reads a script without running it. -/
def lint (engine : Engine) (script : Path) : Ending :=
  match engine.workspace.disk.read script with
  | .error reason => fail (.disk reason) engine
  | .ok text =>
    let parsed := engine.read text
    finish (!parsed.hasErrors) (lintText parsed)
      (engine.noteDiagnostics parsed.diagnostics)

/-- Runs a script and prints a summary. -/
def runScriptFile (engine : Engine) (script : Path) : Ending :=
  match engine.runFile script with
  | (.error cause, engine) => fail cause engine
  | (.ok outcome, engine) =>
    finish (!outcome.hasErrors) (Shell.line outcome.summary)
      engine.stopRecording

/-- Runs a script file, or only reads it.  Then nothing is recorded. -/
def run (engine : Engine) (config : Option Path) (script : Path)
    (stopOnError lintOnly : Bool) (log : Option Path) : Ending :=
  let stopping := fun (settings : Settings) =>
    let stop := settings.policy.stopOnError || stopOnError
    { settings with policy := { settings.policy with stopOnError := stop } }
  match prepare engine config (if lintOnly then none else log) stopping with
  | (.error cause, engine) => fail cause engine
  | (.ok (), engine) =>
    if lintOnly then lint engine script else runScriptFile engine script

/-- Lists the commands or describes one. -/
def commands (engine : Engine) (name : Option String) : Ending :=
  match Shell.describe name with
  | .ok output => finish true output engine
  | .error cause => fail cause engine

/-- What there is to do after the start. -/
inductive Start where
  | ended (ending : Ending)
  /-- Lines are to be typed; some output comes first. -/
  | typing (output : String) (engine : Engine)

/-- The engine that the program begins with. -/
def newEngine (disk : Disk) (checksFiles : Bool) : Engine :=
  { workspace := { disk, application := { checksFiles } } }

/-- Starts what was asked for. -/
def start (request : Request) (disk : Disk) : Start :=
  match request.task with
  | .run script stopOnError lintOnly log checksFiles =>
    .ended (run (newEngine disk checksFiles) request.config script stopOnError
      lintOnly log)
  | .shell log =>
    match prepare (newEngine disk false) request.config log id with
    | (.error cause, engine) => .ended (fail cause engine)
    | (.ok (), engine) => .typing Shell.greeting engine
  | .commands name => .ended (commands (newEngine disk false) name)

/-- The whole program on a command line, typed lines and a disk.  An open record
is completed at the end.  A command line that is refused gives code two and no
output. -/
def execute (words lines : List String) (disk : Disk) : Ending :=
  let ended :=
    match Request.ofWords words with
    | .error .help => finish true helpText (newEngine disk false)
    | .error .version => finish true versionText (newEngine disk false)
    | .error (.refused reason) =>
      { code := 2, output := ""
        engine := (newEngine disk false).note .error reason.message }
    | .ok request =>
      match start request disk with
      | .ended ending => ending
      | .typing output engine =>
        let typed := Shell.runLines engine lines
        { code := typed.exitCode.getD 0, output := output ++ typed.output
          engine := typed.engine }
  { ended with engine := ended.engine.stopRecording }

end Program

end GridScript
