import GridScript.Disk.Path

/-!
# The command line

What the words of the command line ask for.  Options may stand before and after
the name of the task; the words behind a double dash are operands, whatever they
look like.
-/

namespace GridScript

/-- An option of the program. -/
inductive Switch where
  | verbose
  | quiet
  | config
  | stopOnError
  | lint
  | log
  | noFileChecks
  | help
  | version
  deriving DecidableEq, Repr

namespace Switch

/-- The name behind two dashes. -/
def name : Switch → String
  | verbose => "verbose"
  | quiet => "quiet"
  | config => "config"
  | stopOnError => "stop-on-error"
  | lint => "lint"
  | log => "log"
  | noFileChecks => "no-file-checks"
  | help => "help"
  | version => "version"

/-- The letter behind one dash. -/
def letter? : Switch → Option Char
  | verbose => some 'v'
  | quiet => some 'q'
  | config => some 'c'
  | help => some 'h'
  | version => some 'V'
  | _ => none

/-- Whether a path belongs to the option. -/
def takesPath : Switch → Bool
  | config => true
  | log => true
  | _ => false

end Switch

/-- Where options stand: in front of the task or behind the name of one. -/
inductive Scope where
  | front
  | run
  | shell
  | commands
  deriving DecidableEq, Repr

namespace Scope

/-- The options that may be given. -/
def switches : Scope → List Switch
  | front => [.verbose, .quiet, .config, .help, .version]
  | run =>
    [.verbose, .quiet, .config, .stopOnError, .lint, .log, .noFileChecks, .help]
  | shell => [.verbose, .quiet, .config, .log, .help]
  | commands => [.verbose, .quiet, .config, .help]

/-- How many operands there may be. -/
def operandLimit : Scope → Nat
  | front => 0
  | run => 1
  | shell => 0
  | commands => 1

def named? (scope : Scope) (name : String) : Option Switch :=
  scope.switches.find? (·.name == name)

def lettered? (scope : Scope) (letter : Char) : Option Switch :=
  scope.switches.find? (·.letter? == some letter)

/-- The task with a name. -/
def ofTaskName? (name : String) : Option Scope :=
  match name with
  | "run" => some run
  | "shell" => some shell
  | "commands" => some commands
  | _ => none

end Scope

/-- Why a command line is refused. -/
inductive UsageError where
  | unknownOption (word : String)
  | missingValue (switch : Switch)
  | unexpectedValue (switch : Switch)
  | repeatedOption (switch : Switch)
  | unexpectedOperand (word : String)
  | unknownTask (name : String)
  | missingTask
  | missingScript
  /-- The script is named by an empty text. -/
  | emptyScript
  | verboseAndQuiet
  deriving DecidableEq, Repr

namespace UsageError

def message : UsageError → String
  | unknownOption word => "unexpected argument '" ++ word ++ "' found"
  | missingValue switch =>
    "a value is required for '--" ++ switch.name ++ "' but none was supplied"
  | unexpectedValue switch =>
    "unexpected value for '--" ++ switch.name ++ "' found"
  | repeatedOption switch =>
    "the argument '--" ++ switch.name ++ "' cannot be used multiple times"
  | unexpectedOperand word => "unexpected argument '" ++ word ++ "' found"
  | unknownTask name => "unrecognized subcommand '" ++ name ++ "'"
  | missingTask => "a subcommand is required"
  | missingScript => "the script was not provided"
  | emptyScript => "a value is required for the script but none was supplied"
  | verboseAndQuiet => "the argument '--quiet' cannot be used with '--verbose'"

end UsageError

/-- Why reading the command line ends before a task is known. -/
inductive Halt where
  | refused (reason : UsageError)
  /-- Help was asked for. -/
  | help
  /-- The version was asked for. -/
  | version
  deriving DecidableEq, Repr

/-- What has been given in one scope. -/
structure Given where
  /-- The options and their values, which are empty for those that take none. -/
  switches : List (Switch × String) := []
  operands : List String := []
  deriving DecidableEq, Repr

namespace Given

def has (given : Given) (switch : Switch) : Bool :=
  given.switches.any (·.1 == switch)

def path? (given : Given) (switch : Switch) : Option Path :=
  (given.switches.find? (·.1 == switch)).map (⟨·.2⟩)

/-- Adds an option.  None may be given twice, and a path must not be empty. -/
def add (given : Given) (switch : Switch) (value : String) :
    Except Halt Given :=
  if switch = .help then .error .help
  else if switch = .version then .error .version
  else if given.has switch then .error (.refused (.repeatedOption switch))
  else if switch.takesPath && value.isEmpty then
    .error (.refused (.missingValue switch))
  else .ok { given with switches := given.switches ++ [(switch, value)] }

/-- Adds an operand, if there may be one more.  The path of a script must not be
empty. -/
def addOperand (given : Given) (scope : Scope) (word : String) :
    Except Halt Given :=
  if scope.operandLimit ≤ given.operands.length then
    .error (.refused (.unexpectedOperand word))
  else if scope = .run && word.isEmpty then .error (.refused .emptyScript)
  else .ok { given with operands := given.operands ++ [word] }

end Given

namespace Scope

/-- Reads the letters behind one dash.  A letter that takes a path takes the
letters after it, or the next word if there are none; then it is handed back. -/
def readLetters (scope : Scope) (word : String) (given : Given) :
    List Char → Except Halt (Given × Option Switch)
  | [] => .ok (given, none)
  | letter :: more =>
    match scope.lettered? letter with
    | none => .error (.refused (.unknownOption word))
    | some switch =>
      if switch.takesPath then
        match more with
        | [] => .ok (given, some switch)
        | '=' :: value => do
          return (← given.add switch (String.ofList value), none)
        | value => do return (← given.add switch (String.ofList value), none)
      else do scope.readLetters word (← given.add switch "") more

/-- Reads a word behind two dashes.  A value may follow an equals sign. -/
def readLong (scope : Scope) (word : String) (given : Given)
    (text : List Char) : Except Halt (Given × Option Switch) :=
  let name := String.ofList (text.takeWhile (· != '='))
  match scope.named? name, text.dropWhile (· != '=') with
  | none, _ => .error (.refused (.unknownOption word))
  | some switch, [] =>
    if switch.takesPath then .ok (given, some switch)
    else do return (← given.add switch "", none)
  | some switch, _ :: value =>
    if switch.takesPath then do
      return (← given.add switch (String.ofList value), none)
    else .error (.refused (.unexpectedValue switch))

/-- Whether a word looks like an option.  A single dash does not. -/
def isOptionWord (word : String) : Bool :=
  match word.toList with
  | '-' :: _ :: _ => true
  | _ => false

/-- Reads a word that looks like an option. -/
def readOption (scope : Scope) (given : Given) (word : String) :
    Except Halt (Given × Option Switch) :=
  match word.toList with
  | '-' :: '-' :: text => scope.readLong word given text
  | '-' :: letters => scope.readLetters word given letters
  | _ => .ok (given, none)

/-- Reads the words of a scope.  In front of the task the first operand names
the task and is handed back with what follows it. -/
def readWords (scope : Scope) (given : Given) :
    List String → Except Halt (Given × List String)
  | [] => .ok (given, [])
  | word :: more =>
    if word == "--" then do
      return (← more.foldlM (·.addOperand scope ·) given, [])
    else if isOptionWord word then
      match scope.readOption given word with
      | .error halt => .error halt
      | .ok (given, none) => scope.readWords given more
      | .ok (given, some switch) =>
        match more with
        | [] => .error (.refused (.missingValue switch))
        | value :: rest =>
          if isOptionWord value then .error (.refused (.missingValue switch))
          else do scope.readWords (← given.add switch value) rest
    else if scope = .front then .ok (given, word :: more)
    else do scope.readWords (← given.addOperand scope word) more

end Scope

/-- What the program is to do. -/
inductive Task where
  /-- Run a script file. -/
  | run (script : Path) (stopOnError lint : Bool) (log : Option Path)
    (checksFiles : Bool)
  /-- Run what is typed. -/
  | shell (log : Option Path)
  /-- List the commands, or describe one. -/
  | commands (name : Option String)
  deriving DecidableEq, Repr

/-- What the command line asks for. -/
structure Request where
  verbose : Bool
  quiet : Bool
  config : Option Path
  task : Task
  deriving DecidableEq, Repr

namespace Request

/-- The task that is given in its scope. -/
def taskOf (scope : Scope) (given : Given) : Except Halt Task :=
  match scope with
  | .front => .error (.refused .missingTask)
  | .run =>
    match given.operands with
    | [] => .error (.refused .missingScript)
    | script :: _ =>
      .ok (.run ⟨script⟩ (given.has .stopOnError) (given.has .lint)
        (given.path? .log) (!given.has .noFileChecks))
  | .shell => .ok (.shell (given.path? .log))
  | .commands => .ok (.commands given.operands.head?)

/-- Refuses options of one scope that exclude each other. -/
def checkConflict (given : Given) : Except Halt Unit :=
  if given.has .verbose && given.has .quiet then
    .error (.refused .verboseAndQuiet)
  else .ok ()

/-- Whether help is there for these names. -/
def helpFor (names : List String) : Except Halt Request :=
  match names with
  | [] => .error .help
  | name :: more =>
    if (name == "help" || (Scope.ofTaskName? name).isSome) && more.isEmpty then
      .error .help
    else .error (.refused (.unknownTask (more.headD name)))

/-- Reads the words of the command line.  Of an option that is given both before
and after the name of the task the latter counts. -/
def ofWords (words : List String) : Except Halt Request := do
  let (front, rest) ← Scope.front.readWords {} words
  match rest with
  | [] => throw (.refused .missingTask)
  | name :: more =>
    if name == "help" then helpFor more
    else
      match Scope.ofTaskName? name with
      | none => throw (.refused (.unknownTask name))
      | some scope =>
        let (given, _) ← scope.readWords {} more
        let task ← taskOf scope given
        checkConflict given
        checkConflict front
        return {
          task
          verbose := front.has .verbose || given.has .verbose
          quiet := front.has .quiet || given.has .quiet
          config := given.path? .config <|> front.path? .config }

end Request

end GridScript
