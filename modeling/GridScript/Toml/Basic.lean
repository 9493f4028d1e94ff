import GridScript.Number.Binary64

/-!
# TOML documents

A document is a list of statements: assignments, and headers that open a table.
`Toml.ofStatements?` gives the table they denote, or nothing if they contradict
each other.
-/

namespace GridScript

/-- How a table came to be, which decides who may add to it. -/
inductive TableKind where
  /-- Between braces; it is complete. -/
  | inline
  /-- By a header of its own. -/
  | header
  /-- On the way to the table of a header. -/
  | path
  /-- By a dotted key. -/
  | dotted
  deriving DecidableEq, Repr

/-- A value of a document. -/
inductive Toml where
  | string (value : String)
  | integer (value : Int)
  | float (value : Binary64)
  | boolean (value : Bool)
  /-- A date, a time or both. -/
  | dateTime
  | array (items : List Toml)
  | table (kind : TableKind) (entries : List (String × Toml))
  /-- Tables with a header each, in order. -/
  | tables (items : List (List (String × Toml)))

/-- The names and values of a table. -/
abbrev TomlEntries := List (String × Toml)

namespace TomlEntries

def get? (entries : TomlEntries) (name : String) : Option Toml :=
  (entries.find? (·.1 == name)).map (·.2)

/-- Changes the value of a name, or adds the name at the end. -/
def put (entries : TomlEntries) (name : String) (value : Toml) : TomlEntries :=
  match entries with
  | [] => [(name, value)]
  | entry :: more =>
    if entry.1 == name then (name, value) :: more
    else entry :: put more name value

end TomlEntries

/-- One statement of a document. -/
inductive TomlStatement where
  /-- A value for a dotted key. -/
  | assignment (path : List String) (name : String) (value : Toml)
  /-- A table. -/
  | header (path : List String) (name : String)
  /-- A table at the end of an array of tables. -/
  | item (path : List String) (name : String)

namespace Toml

/-- Whether a key may lead through a table.  Dotted keys lead only through
tables that have no header, and nothing leads through a table between braces. -/
def isPassable (dotted : Bool) (kind : TableKind) : Bool :=
  match kind with
  | .inline => false
  | .header => !dotted
  | .path => true
  | .dotted => true

/-- Changes the table that a path leads to.  Missing tables are added on the
way; of an array of tables the last one is meant. -/
def updateAt (dotted : Bool)
    (change : TableKind → TomlEntries → Option TomlEntries) :
    List String → TableKind → TomlEntries → Option TomlEntries
  | [], kind, entries => change kind entries
  | name :: more, _, entries =>
    match entries.get? name with
    | none => do
      let kind := if dotted then TableKind.dotted else .path
      let inner ← updateAt dotted change more kind []
      return entries.put name (.table kind inner)
    | some (.table kind inner) =>
      if isPassable dotted kind then do
        let inner ← updateAt dotted change more kind inner
        return entries.put name (.table kind inner)
      else none
    | some (.tables items) =>
      match items.getLast? with
      | none => none
      | some last => do
        let changed ← updateAt dotted change more .header last
        return entries.put name (.tables (items.dropLast ++ [changed]))
    | some _ => none

/-- Adds a value to a table under a dotted key.  The name must be new, and a
dotted key may add only to a table that dotted keys made. -/
def assign (path : List String) (name : String) (value : Toml)
    (kind : TableKind) (entries : TomlEntries) : Option TomlEntries :=
  updateAt true (fun kind entries =>
    if (kind == .dotted) == path.isEmpty then none
    else if (entries.get? name).isSome then none
    else some (entries.put name value)) path kind entries

/-- Opens the table of a header.  It must be new, or have been met only on the
way to other tables. -/
def openTable (name : String) (entries : TomlEntries) : Option TomlEntries :=
  match entries.get? name with
  | none => some (entries.put name (.table .header []))
  | some (.table .path inner) => some (entries.put name (.table .header inner))
  | some _ => none

/-- Adds a table to an array of tables. -/
def openItem (name : String) (entries : TomlEntries) : Option TomlEntries :=
  match entries.get? name with
  | none => some (entries.put name (.tables [[]]))
  | some (.tables items) => some (entries.put name (.tables (items ++ [[]])))
  | some _ => none

/-- The table so far, and the path of the header that assignments stand
under. -/
structure Draft where
  entries : TomlEntries := []
  current : List String := []

/-- The effect of one statement. -/
def Draft.add (draft : Draft) : TomlStatement → Option Draft
  | .assignment path name value => do
    return { draft with
      entries := ←
        updateAt false (assign path name value) draft.current .header
          draft.entries }
  | .header path name => do
    return {
      entries := ←
        updateAt false (fun _ => openTable name) path .header draft.entries
      current := path ++ [name] }
  | .item path name => do
    return {
      entries := ←
        updateAt false (fun _ => openItem name) path .header draft.entries
      current := path ++ [name] }

/-- The table that statements denote. -/
def ofStatements? (statements : List TomlStatement) : Option TomlEntries :=
  (statements.foldlM Draft.add {}).map (·.entries)

/-- The table between braces that assignments denote. -/
def ofAssignments? (assignments : List (List String × String × Toml)) :
    Option Toml :=
  (assignments.foldlM (fun entries (path, name, value) =>
    assign path name value .header entries) []).map (.table .inline)

end Toml

end GridScript
