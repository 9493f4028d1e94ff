import GridScript.Command.Error
import GridScript.Json.Writer

/-!
# Responses

What one command answers: how it went, a message, and possibly a result.
-/

namespace GridScript

/-- How a command went, from good to bad. -/
inductive Status where
  | ok
  /-- Done, with a caveat. -/
  | warning
  | error
  deriving DecidableEq, Repr, Inhabited

namespace Status

def severity : Status → Nat
  | ok => 0
  | warning => 1
  | error => 2

/-- The worse of two. -/
def worse (left right : Status) : Status :=
  if left.severity < right.severity then right else left

/-- The name in reports. -/
def label : Status → String
  | ok => "OK"
  | warning => "WARNING"
  | error => "ERROR"

/-- The name in recorded commands. -/
def recordName : Status → String
  | ok => "Ok"
  | warning => "Warning"
  | error => "Error"

end Status

/-- What a command produced. -/
inductive ResultObject where
  /-- A new case. -/
  | gridCase (id : Nat)
  /-- Written files, in order. -/
  | files (paths : List Path)
  deriving DecidableEq, Repr

namespace ResultObject

/-- The result as JSON, a line for each member. -/
def jsonLines : ResultObject → String
  | gridCase id =>
    jsonObjectLines [("type", jsonString "case"), ("case_id", natText id)]
  | files paths =>
    jsonObjectLines [("type", jsonString "files"),
      ("paths", jsonArrayLines (paths.map fun path => jsonString path.text))]

end ResultObject

/-- What a command answers. -/
structure Response where
  status : Status := .ok
  message : String := ""
  result : Option ResultObject := none
  deriving DecidableEq, Repr, Inhabited

namespace Response

/-- All went well. -/
def ok : Response := {}

/-- Raises the status if the new one is worse, and appends the message unless it
is empty. -/
def update (response : Response) (status : Status) (message : String) :
    Response :=
  { response with
    status := response.status.worse status
    message :=
      if message.isEmpty then response.message
      else if response.message.isEmpty then message
      else response.message ++ "; " ++ message }

def warning (message : String) : Response := ok.update .warning message

def error (message : String) : Response := ok.update .error message

def ofError (cause : CommandError) : Response := error cause.message

def withResult (response : Response) (result : ResultObject) : Response :=
  { response with result := some result }

/-- The response once its result has been handed over. -/
def withoutResult (response : Response) : Response :=
  { response with result := none }

def isOk (response : Response) : Bool := response.status == .ok

def isError (response : Response) : Bool := response.status == .error

/-- The status, and the message if there is one. -/
def display (response : Response) : String :=
  if response.message.isEmpty then response.status.label
  else response.status.label ++ ": " ++ response.message

end Response

end GridScript
