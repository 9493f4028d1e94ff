import GridScript.Command.Response
import GridScript.Script.Diagnostic

/-!
# Outcomes

What running a script produced: the diagnostics of reading it and the responses
of its commands.
-/

namespace GridScript

/-- The response of one command that was run. -/
structure Executed where
  /-- The keyword as written. -/
  keyword : String
  line : Nat
  response : Response
  deriving DecidableEq, Repr

namespace Executed

/-- The command and its response as one line of text. -/
def display (executed : Executed) : String :=
  executed.keyword ++ ": " ++ executed.response.display

end Executed

/-- What running a script produced. -/
structure Outcome where
  /-- Warnings and errors of reading the script. -/
  diagnostics : List Diagnostic := []
  /-- The commands that were run, in order. -/
  executed : List Executed := []
  /-- How many commands the script has. -/
  parsed : Nat := 0
  /-- Whether some of its commands were not run. -/
  stoppedEarly : Bool := false
  deriving DecidableEq, Repr, Inhabited

namespace Outcome

def parseErrors (outcome : Outcome) : Nat := countErrors outcome.diagnostics

/-- The commands that failed. -/
def failed (outcome : Outcome) : List Executed :=
  outcome.executed.filter (·.response.isError)

/-- Whether reading the script or a command of it failed. -/
def hasErrors (outcome : Outcome) : Bool :=
  outcome.diagnostics.any Diagnostic.isError ||
    outcome.executed.any (·.response.isError)

/-- The worst status of the commands that were run. -/
def status (outcome : Outcome) : Status :=
  outcome.executed.foldl
    (fun worst executed => worst.worse executed.response.status) .ok

/-- The number of commands run, failed and not understood. -/
def totals (outcome : Outcome) : String :=
  natText outcome.executed.length ++ " of " ++ natText outcome.parsed ++
    " commands executed, " ++
    natText outcome.failed.length ++ " failed, " ++
    natText outcome.parseErrors ++ " parse errors"

/-- A report of several lines: the diagnostics, the commands that did not go
well and the totals. -/
def summary (outcome : Outcome) : String :=
  let remarks := outcome.diagnostics.map Diagnostic.display
  let troubles :=
    (outcome.executed.filter (!·.response.isOk)).map fun executed =>
      "line " ++ natText executed.line ++ ": " ++ executed.display
  let last :=
    if outcome.stoppedEarly then
      outcome.totals ++ " (stopped at first error)"
    else outcome.totals
  joinWith "\n" (remarks ++ troubles ++ [last])

end Outcome

end GridScript
