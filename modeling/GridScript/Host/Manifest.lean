import GridScript.Disk.Path
import GridScript.Json.Reader

/-!
# Project manifests

A project file lists the grids of its cases, the source grids of its case groups
and its well paths.  It is a JSON object, or an array with the three lists in
that order; what is missing is empty.
-/

namespace GridScript

/-- What a project holds. -/
structure Manifest where
  /-- The grid of each case. -/
  cases : List Path := []
  /-- The source grids of each case group. -/
  caseGroups : List (List Path) := []
  wellPaths : List String := []
  deriving DecidableEq, Repr, Inhabited

namespace Manifest

def path? (json : JsonValue) : Option Path :=
  json.text?.map Path.mk

def paths? (json : JsonValue) : Option (List Path) :=
  json.listOf? path?

/-- The value of the only member with this name.  Twice the same name is refused
by the outer `none`. -/
def member? (name : String) (members : List (Option String × JsonValue)) :
    Option (Option JsonValue) :=
  match members.filter (·.1 == some name) with
  | [] => some none
  | [(_, value)] => some (some value)
  | _ => none

/-- Reads a list that may be missing. -/
def orEmpty {α : Type} (read : JsonValue → Option (List α)) :
    Option JsonValue → Option (List α)
  | none => some []
  | some json => read json

/-- Reads the three lists. -/
def ofParts (cases caseGroups wellPaths : Option JsonValue) :
    Option Manifest := do
  return {
    cases := ← orEmpty paths? cases
    caseGroups := ← orEmpty (JsonValue.listOf? paths?) caseGroups
    wellPaths := ← orEmpty (JsonValue.listOf? JsonValue.text?) wellPaths
  }

/-- Reads a manifest from its JSON value.  Members with other names are passed
over, but every name has to be a text. -/
def ofJson? : JsonValue → Option Manifest
  | .object members =>
    if members.any (·.1.isNone) then none
    else do
      ofParts (← member? "cases" members) (← member? "caseGroups" members)
        (← member? "wellPaths" members)
  | .array items =>
    if 3 < items.length then none else ofParts items[0]? items[1]? items[2]?
  | _ => none

/-- Reads a manifest from its text. -/
def parse? (text : String) : Option Manifest :=
  (JsonValue.parse? text).bind ofJson?

end Manifest

end GridScript
