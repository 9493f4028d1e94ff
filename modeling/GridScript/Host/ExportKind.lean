import GridScript.Value.Basic

/-!
# Kinds of exports

Every exported file belongs to a kind, and each kind has a folder of its own.
`ByKind` holds at most one entry per kind.
-/

namespace GridScript

/-- A kind of exported files. -/
inductive ExportKind where
  | completions
  | snapshots
  | properties
  | statistics
  | wellPaths
  | cells
  | lgrs
  deriving DecidableEq, Repr, Inhabited

namespace ExportKind

/-- All kinds, in order. -/
def all : List ExportKind :=
  [completions, snapshots, properties, statistics, wellPaths, cells, lgrs]

/-- The name in scripts. -/
def scriptName : ExportKind → String
  | completions => "COMPLETIONS"
  | snapshots => "SNAPSHOTS"
  | properties => "PROPERTIES"
  | statistics => "STATISTICS"
  | wellPaths => "WELLPATHS"
  | cells => "CELLS"
  | lgrs => "LGRS"

/-- The folder used where none is set, which is also the name in settings. -/
def folderName : ExportKind → String
  | completions => "completions"
  | snapshots => "snapshots"
  | properties => "properties"
  | statistics => "statistics"
  | wellPaths => "wellpaths"
  | cells => "cells"
  | lgrs => "lgrs"

def ofScriptName? (name : String) : Option ExportKind :=
  all.find? (·.scriptName == name)

def ofFolderName? (name : String) : Option ExportKind :=
  all.find? (·.folderName == name)

/-- The names of the kinds as an argument type. -/
def names : Enumeration :=
  ⟨"ExportType", all.map scriptName⟩

theorem mem_all (kind : ExportKind) : kind ∈ all := by
  cases kind <;> decide

theorem ofScriptName?_scriptName (kind : ExportKind) :
    ofScriptName? kind.scriptName = some kind := by
  cases kind <;> decide

theorem ofFolderName?_folderName (kind : ExportKind) :
    ofFolderName? kind.folderName = some kind := by
  cases kind <;> decide

end ExportKind

/-- At most one entry for each kind of export. -/
structure ByKind (α : Type) where
  completions : Option α := none
  snapshots : Option α := none
  properties : Option α := none
  statistics : Option α := none
  wellPaths : Option α := none
  cells : Option α := none
  lgrs : Option α := none
  deriving DecidableEq, Repr, Inhabited

namespace ByKind

/-- No entry for any kind. -/
def empty {α : Type} : ByKind α := {}

def get? {α : Type} (entries : ByKind α) : ExportKind → Option α
  | .completions => entries.completions
  | .snapshots => entries.snapshots
  | .properties => entries.properties
  | .statistics => entries.statistics
  | .wellPaths => entries.wellPaths
  | .cells => entries.cells
  | .lgrs => entries.lgrs

/-- Sets the entry of a kind, in place of an earlier one. -/
def insert {α : Type} (entries : ByKind α) (kind : ExportKind) (entry : α) :
    ByKind α :=
  match kind with
  | .completions => { entries with completions := some entry }
  | .snapshots => { entries with snapshots := some entry }
  | .properties => { entries with properties := some entry }
  | .statistics => { entries with statistics := some entry }
  | .wellPaths => { entries with wellPaths := some entry }
  | .cells => { entries with cells := some entry }
  | .lgrs => { entries with lgrs := some entry }

/-- The entries in the order of the kinds. -/
def toList {α : Type} (entries : ByKind α) : List (ExportKind × α) :=
  ExportKind.all.filterMap fun kind => (entries.get? kind).map (kind, ·)

@[simp] theorem get?_insert_self {α : Type} (entries : ByKind α)
    (kind : ExportKind) (entry : α) :
    (entries.insert kind entry).get? kind = some entry := by
  cases kind <;> rfl

theorem get?_insert_of_ne {α : Type} (entries : ByKind α)
    {kind other : ExportKind} (entry : α) (different : other ≠ kind) :
    (entries.insert kind entry).get? other = entries.get? other := by
  cases kind <;> cases other <;> first | rfl | exact absurd rfl different

end ByKind

end GridScript
