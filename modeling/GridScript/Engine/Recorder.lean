import GridScript.Command.Basic

/-!
# Records of commands

A recorder writes the commands that are run to a file, either as script text
that can be run again or as JSON with the status of each.  What is recorded
waits in a buffer; it reaches the disk when the buffer is full and when the
recorder is closed.
-/

namespace GridScript

/-- The format of a record. -/
inductive RecordFormat where
  /-- Script text. -/
  | script
  /-- A JSON object on each line. -/
  | jsonLines
  deriving DecidableEq, Repr

namespace RecordFormat

/-- The format that the name of a file asks for. -/
def ofPath (path : Path) : RecordFormat :=
  if path.extension? == some "jsonl" || path.extension? == some "json" then
    jsonLines
  else script

def label : RecordFormat → String
  | script => "CommandFile"
  | jsonLines => "JsonLines"

/-- What a record begins with. -/
def opening : RecordFormat → String
  | script => "# command log\n"
  | jsonLines => ""

/-- The record of one command, without the end of its line. -/
def entry (format : RecordFormat) (invocation : Invocation)
    (response : Response) : String :=
  match format with
  | script => invocation.toScript
  | jsonLines =>
    jsonObject ([("line", natText invocation.line),
      ("command", jsonString invocation.toScript),
      ("status", jsonString response.status.recordName)] ++
      (if response.message.isEmpty then []
        else [("message", jsonString response.message)]))

end RecordFormat

/-- An open record. -/
structure Recorder where
  location : Location
  format : RecordFormat
  /-- How many bytes of the file have been written. -/
  offset : Nat := 0
  /-- What waits to be written. -/
  pending : String := ""
  deriving DecidableEq, Repr

namespace Recorder

/-- How many bytes may wait. -/
def capacity : Nat := 8192

/-- Writes a text to the file, behind what was written before. -/
def emit (recorder : Recorder) (disk : Disk) (text : String) :
    Recorder × Disk :=
  if text.isEmpty then (recorder, disk)
  else
    ({ recorder with offset := recorder.offset + text.utf8ByteSize },
      disk.writeAt recorder.location recorder.offset text.toUTF8)

/-- Writes what waits. -/
def flush (recorder : Recorder) (disk : Disk) : Recorder × Disk :=
  { recorder with pending := "" }.emit disk recorder.pending

/-- Adds a text.  It waits unless it is too long for that; what does not fit
beside it is written first. -/
def add (recorder : Recorder) (disk : Disk) (text : String) : Recorder × Disk :=
  let flushed :=
    if recorder.pending.utf8ByteSize + text.utf8ByteSize ≤ capacity then
      (recorder, disk)
    else recorder.flush disk
  if text.utf8ByteSize < capacity then
    ({ flushed.1 with pending := flushed.1.pending ++ text }, flushed.2)
  else flushed.1.emit flushed.2 text

/-- Starts a record in a new or emptied file. -/
def start (disk : Disk) (path : Path) : Except DiskError (Recorder × Disk) := do
  let created ← disk.create path
  let format := RecordFormat.ofPath path
  return ({ location := created.1, format, pending := format.opening },
    created.2)

/-- Records a command that was run.  The end of the line is added on its own. -/
def record (recorder : Recorder) (disk : Disk) (invocation : Invocation)
    (response : Response) : Recorder × Disk :=
  let added := recorder.add disk (recorder.format.entry invocation response)
  added.1.add added.2 "\n"

end Recorder

end GridScript
