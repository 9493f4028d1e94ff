import GridScript.Host.Manifest
import GridScript.Value.Basic

/-!
# The application

What the application holds in memory: the open project and its cases, views,
case groups and well paths.  Each class of objects has its own numbers, handed
out in order from zero.
-/

namespace GridScript

/-- A grid that is loaded. -/
structure GridCase where
  id : Nat
  gridFile : Path
  timeStep : Nat
  deriving DecidableEq, Repr

/-- A view of a case. -/
structure View where
  id : Nat
  caseId : Nat
  name : String
  deriving DecidableEq, Repr

/-- Cases that are evaluated together. -/
structure CaseGroup where
  id : Nat
  sources : List Path
  deriving DecidableEq, Repr

structure WellPath where
  id : Nat
  name : String
  deriving DecidableEq, Repr

/-- The next number for each class of objects. -/
structure Numbering where
  cases : Nat := 0
  views : Nat := 0
  caseGroups : Nat := 0
  wellPaths : Nat := 0
  deriving DecidableEq, Repr, Inhabited

/-- The state of the application. -/
structure Application where
  project : Option Path := none
  cases : List GridCase := []
  views : List View := []
  caseGroups : List CaseGroup := []
  wellPaths : List WellPath := []
  numbering : Numbering := {}
  /-- Projects that are known without a file, by the components of their
  paths. -/
  presets : List (List String × Manifest) := []
  /-- Whether grid and project files have to exist. -/
  checksFiles : Bool := false
  /-- The files written so far, in order. -/
  written : List Path := []
  deriving DecidableEq, Repr, Inhabited

namespace Application

/-- Makes a project known without a file, in place of an earlier one at the same
path. -/
def withPreset (app : Application) (path : Path) (manifest : Manifest) :
    Application :=
  { app with
    presets := app.presets.filter (·.1 != path.components) ++
      [(path.components, manifest)] }

def preset? (app : Application) (path : Path) : Option Manifest :=
  (app.presets.find? (·.1 == path.components)).map (·.2)

/-- Adds a view of a case. -/
def addView (app : Application) (caseId : Nat) (name : String) :
    Nat × Application :=
  let id := app.numbering.views
  (id, { app with
    views := app.views ++ [⟨id, caseId, name⟩]
    numbering := { app.numbering with views := id + 1 } })

/-- Adds a case and a view of it, which is named by how many views there are
then. -/
def addCase (app : Application) (gridFile : Path) : Nat × Application :=
  let id := app.numbering.cases
  let added : Application := { app with
    cases := app.cases ++ [⟨id, gridFile, 0⟩]
    numbering := { app.numbering with cases := id + 1 } }
  (id, (added.addView id ("View " ++ natText (added.views.length + 1))).2)

def addCaseGroup (app : Application) (sources : List Path) :
    Nat × Application :=
  let id := app.numbering.caseGroups
  (id, { app with
    caseGroups := app.caseGroups ++ [⟨id, sources⟩]
    numbering := { app.numbering with caseGroups := id + 1 } })

def addWellPath (app : Application) (name : String) : Nat × Application :=
  let id := app.numbering.wellPaths
  (id, { app with
    wellPaths := app.wellPaths ++ [⟨id, name⟩]
    numbering := { app.numbering with wellPaths := id + 1 } })

/-- Forgets the project and all objects; numbers start again from zero. -/
def clear (app : Application) : Application :=
  { app with
    project := none, cases := [], views := [], caseGroups := []
    wellPaths := []
    numbering := {} }

/-- Whether there is an object with this class and number. -/
def contains (app : Application) (className : String) (id : Nat) : Bool :=
  match className with
  | "Case" => app.cases.any (·.id == id)
  | "View" => app.views.any (·.id == id)
  | "CaseGroup" => app.caseGroups.any (·.id == id)
  | "WellPath" => app.wellPaths.any (·.id == id)
  | _ => false

/-- The objects that scripts may refer to. -/
def objectTable (app : Application) : ObjectTable :=
  ⟨app.contains⟩

/-- The case with the given number, or the first case where no number is
given. -/
def case? (app : Application) (id : Option Nat) : Option GridCase :=
  match id with
  | some id => app.cases.find? (·.id == id)
  | none => app.cases.head?

/-- Changes the first item that satisfies `test`. -/
def changeFirst {α : Type} (test : α → Bool) (change : α → α) : List α → List α
  | [] => []
  | item :: more =>
    if test item then change item :: more
    else item :: changeFirst test change more

/-- Changes the case with the given number, or the first case. -/
def changeCase (app : Application) (id : Option Nat)
    (change : GridCase → GridCase) : Application :=
  { app with
    cases := changeFirst (fun c => id.all (· == c.id)) change app.cases }

/-- The case group with the given number, or the first one. -/
def caseGroup? (app : Application) (id : Option Nat) : Option CaseGroup :=
  match id with
  | some id => app.caseGroups.find? (·.id == id)
  | none => app.caseGroups.head?

def changeCaseGroup (app : Application) (id : Option Nat)
    (change : CaseGroup → CaseGroup) : Application :=
  { app with
    caseGroups :=
      changeFirst (fun g => id.all (· == g.id)) change app.caseGroups }

/-- The application after a project with this manifest was opened.  Relative
entries are taken from the folder of the project. -/
def withProject (app : Application) (path : Path) (manifest : Manifest) :
    Application :=
  let base := path.parent?.getD ⟨""⟩
  let cases := manifest.cases.foldl
    (fun app grid => (app.addCase (base.join grid)).2) app.clear
  let groups := manifest.caseGroups.foldl
    (fun app sources => (app.addCaseGroup (sources.map base.join)).2) cases
  let wells :=
    manifest.wellPaths.foldl (fun app name => (app.addWellPath name).2) groups
  { wells with project := some path }

end Application

end GridScript
