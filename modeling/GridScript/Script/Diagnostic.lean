import GridScript.Text.Basic

/-!
# Diagnostics

What a reader of script text reports.  Reporting never stops the reading.
-/

namespace GridScript

inductive Severity where
  | warning
  | error
  deriving DecidableEq, Repr

namespace Severity

def label : Severity → String
  | warning => "warning"
  | error => "error"

end Severity

/-- What can be wrong with the text of a script. -/
inductive Problem where
  | unexpectedEnd
  | missingOpeningQuote
  | missingClosingQuote
  | missingArrayStart
  | missingArrayEnd
  | invalidNumber (token : String)
  | invalidBool (token : String)
  | unknownVariant (enumeration token : String)
  | malformedReference (token : String)
  | wrongClass (expected token : String)
  | unknownObject (object : String)
  | missingKeyword (found : Char)
  | unknownCommand (keyword : String)
  | missingArgumentList (keyword : String)
  | unclosedArgumentList
  | repeatedArgument (name : String)
  | internalArgument (name : String)
  | unknownArgument (name : String)
  | tooManyArguments
  | missingArgumentName
  | expectedEquals
  | unexpectedEquals
  | unexpectedAfterValue (found : Char)
  /-- Any other remark. -/
  | remark (text : String)
  deriving DecidableEq, Repr

namespace Problem

/-- The wording of a problem. -/
def message : Problem → String
  | unexpectedEnd => "unexpected end of input"
  | missingOpeningQuote => "string is missing opening '\"'"
  | missingClosingQuote => "string is missing closing '\"'"
  | missingArrayStart => "array is missing start '['"
  | missingArrayEnd => "array is missing end ']'"
  | invalidNumber token => "invalid number: '" ++ token ++ "'"
  | invalidBool token =>
    "invalid boolean: '" ++ token ++ "', expected true or false"
  | unknownVariant enumeration token =>
    "unknown value '" ++ token ++ "' for " ++ enumeration
  | malformedReference token =>
    "malformed object reference: '" ++ token ++ "', expected Class:id"
  | wrongClass expected token =>
    "object reference '" ++ token ++ "' does not refer to a " ++ expected
  | unknownObject object => object ++ " does not refer to a known object"
  | missingKeyword found =>
    "expected a command keyword, found '" ++ found.toString ++ "'"
  | unknownCommand keyword => "unknown command '" ++ keyword ++ "'"
  | missingArgumentList keyword => "expected '(' after '" ++ keyword ++ "'"
  | unclosedArgumentList => "argument list is missing closing ')'"
  | repeatedArgument name =>
    "argument '" ++ name ++ "' given more than once; the last value is used"
  | internalArgument name =>
    "argument '" ++ name ++ "' cannot be set from a script"
  | unknownArgument name => "unknown argument '" ++ name ++ "' ignored"
  | tooManyArguments => "too many arguments"
  | missingArgumentName => "expected an argument name"
  | expectedEquals => "expected '=' between argument name and value"
  | unexpectedEquals =>
    "expected whitespace between argument name and value, found '='"
  | unexpectedAfterValue found =>
    "unexpected '" ++ found.toString ++ "' after argument value"
  | remark text => text

end Problem

/-- A warning or an error, with the line it concerns and the command and
argument that were being read. -/
structure Diagnostic where
  severity : Severity
  /-- Lines count from one. -/
  line : Nat
  problem : Problem
  command : Option String
  argument : Option String
  deriving DecidableEq, Repr

namespace Diagnostic

def text (d : Diagnostic) : String := d.problem.message

def isError (d : Diagnostic) : Bool := d.severity == .error

/-- The line, the severity and the text. -/
def summary (d : Diagnostic) : String :=
  "line " ++ natText d.line ++ ": " ++ d.severity.label ++ ": " ++ d.text

/-- Where in the script the problem is, in brackets. -/
def place (d : Diagnostic) : String :=
  match d.argument, d.command with
  | some argument, some command =>
    " (argument \"" ++ argument ++ "\" of command \"" ++ command ++ "\")"
  | none, some command => " (command \"" ++ command ++ "\")"
  | _, none => ""

/-- The whole diagnostic as one line of text. -/
def display (d : Diagnostic) : String :=
  d.summary ++ d.place

end Diagnostic

/-- The number of errors among diagnostics. -/
def countErrors (diagnostics : List Diagnostic) : Nat :=
  diagnostics.countP Diagnostic.isError

end GridScript
