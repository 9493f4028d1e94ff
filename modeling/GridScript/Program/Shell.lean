import GridScript.Engine.Basic
import GridScript.Program.Editing

/-!
# The shell

Commands typed line by line.  Each line is a script of its own; some words are
for the shell itself.
-/

namespace GridScript

namespace Shell

/-- What the shell says first. -/
def greeting : String :=
  "Type commands, 'help' to list them, 'help <command>' for details, " ++
    "'quit' to exit.\n"

/-- What the shell shows before each line if a person is typing. -/
def prompt : String := "ResInsight> "

def line (text : String) : String := text ++ "\n"

/-- The list of the built-in commands, or the help for one. -/
def describe (name : Option String) : Except CommandError String :=
  match name with
  | none => .ok (String.join (Registry.builtin.listing.map line))
  | some name =>
    match Registry.builtin.help? name with
    | some help => .ok (line help)
    | none => .error (.unknownCommand name)

/-- What is shown of one command that was run: its response unless all went
well, and its result. -/
def reportExecuted (executed : Executed) : String :=
  (if executed.response.isOk then "" else line executed.display) ++
    (match executed.response.result with
      | none => ""
      | some result => line result.jsonLines)

/-- What is shown of a line that was run. -/
def report (outcome : Outcome) : String :=
  String.join (outcome.diagnostics.map fun diagnostic =>
      line diagnostic.display) ++
    String.join (outcome.executed.map reportExecuted)

/-- What a line asks for. -/
inductive Input where
  | blank
  | leave
  /-- Help, possibly on one command. -/
  | help (name : Option String)
  | script (text : String)
  deriving DecidableEq, Repr

/-- Reads a line.  Only its first word can be for the shell. -/
def Input.ofLine (text : String) : Input :=
  let chars := trimChars text.toList
  if chars.isEmpty then blank
  else
    let (first, rest) := (splitAtFirst? isBlank chars).getD (chars, [])
    match String.ofList first with
    | "quit" => leave
    | "exit" => leave
    | "help" =>
      let name := trimChars rest
      help (if name.isEmpty then none else some (String.ofList name))
    | _ => script (String.ofList chars)

/-- What comes of typing. -/
structure Step where
  output : String := ""
  engine : Engine
  /-- The exit code, if the shell is left. -/
  exitCode : Option Nat := none

/-- The exit code after a line that cannot be edited. -/
def crashCode : Nat := 101

/-- Obeys a line that has been edited. -/
def obey (engine : Engine) (text : String) : Step :=
  match Input.ofLine text with
  | .blank => { engine }
  | .leave => { engine, exitCode := some 0 }
  | .help name =>
    match describe name with
    | .ok output => { output, engine }
    | .error cause => { output := line cause.message, engine }
  | .script text =>
    let done := engine.runScript text
    { output := report done.1, engine := done.2 }

/-- Edits a line as typed and obeys it. -/
def step (engine : Engine) (typed : String) : Step :=
  match edited? typed.toList with
  | none => { engine, exitCode := some crashCode }
  | some text => obey engine (String.ofList text)

/-- Obeys lines in order, up to one that leaves the shell. -/
def runLines (engine : Engine) : List String → Step
  | [] => { engine, exitCode := some 0 }
  | typed :: more =>
    let done := step engine typed
    if done.exitCode.isSome then done
    else
      let rest := runLines done.engine more
      { rest with output := done.output ++ rest.output }

end Shell

end GridScript
