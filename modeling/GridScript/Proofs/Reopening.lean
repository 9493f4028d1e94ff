import GridScript.Proofs.GridSnapshots
import GridScript.Proofs.SameDisk
import Mathlib.Data.List.Induction

/-!
# Opening a project forgets the past

Whether a project can be opened, and what it holds then, depends on the presets,
on whether files are checked and on the files.  Nothing else of the application
matters: an opened project holds the objects of its manifest in order, numbered
from zero, and numbers that are handed out later continue from there.
-/

namespace GridScript

/-! ### Adding objects one after another -/

/-- An object that is added to an application. -/
inductive Addition where
  | case (gridFile : Path)
  | view (caseId : Nat) (name : String)
  | caseGroup (sources : List Path)
  | wellPath (name : String)

namespace Application

/-- Adds an object and gives its number. -/
def addition (app : Application) : Addition → Nat × Application
  | .case gridFile => app.addCase gridFile
  | .view caseId name => app.addView caseId name
  | .caseGroup sources => app.addCaseGroup sources
  | .wellPath name => app.addWellPath name

/-- The numbers that objects get when they are added in order. -/
def numbersOf (app : Application) : List Addition → List Nat
  | [] => []
  | first :: others =>
      (app.addition first).1 :: (app.addition first).2.numbersOf others

/-- The same project and the same objects, and the same numbers are next. -/
structure SameHeld (left right : Application) : Prop where
  project : left.project = right.project
  cases : left.cases = right.cases
  views : left.views = right.views
  caseGroups : left.caseGroups = right.caseGroups
  wellPaths : left.wellPaths = right.wellPaths
  numbering : left.numbering = right.numbering

/-- One object gets the same number in both, and they hold the same again. -/
theorem SameHeld.addition {left right : Application}
    (same : left.SameHeld right) (added : Addition) :
    (left.addition added).1 = (right.addition added).1 ∧
      (left.addition added).2.SameHeld (right.addition added).2 := by
  obtain ⟨project, cases, views, caseGroups, wellPaths, numbering⟩ := same
  cases added with
  | case gridFile =>
      simp only [Application.addition, addCase, addView, numbering]
      exact ⟨trivial, project, by simp [cases], by simp [views], caseGroups,
        wellPaths, rfl⟩
  | view caseId name =>
      simp only [Application.addition, addView, numbering]
      exact ⟨trivial, project, cases, by simp [views], caseGroups, wellPaths,
        rfl⟩
  | caseGroup sources =>
      simp only [Application.addition, addCaseGroup, numbering]
      exact ⟨trivial, project, cases, views, by simp [caseGroups], wellPaths,
        rfl⟩
  | wellPath name =>
      simp only [Application.addition, addWellPath, numbering]
      exact ⟨trivial, project, cases, views, caseGroups, by simp [wellPaths],
        rfl⟩

theorem SameHeld.numbersOf {left right : Application}
    (same : left.SameHeld right) (additions : List Addition) :
    left.numbersOf additions = right.numbersOf additions := by
  induction additions generalizing left right with
  | nil => rfl
  | cons first others induction =>
      obtain ⟨number, after⟩ := same.addition first
      rw [Application.numbersOf, Application.numbersOf, number,
        induction after]

/-! ### What an opened project holds -/

/-- The application holds what the manifest of a project lists, in order, with
paths taken from the folder of the project. -/
structure HoldsProject (app : Application) (path : Path)
    (manifest : Manifest) : Prop where
  project : app.project = some path
  cases : app.cases = manifest.cases.mapIdx fun id grid =>
    ⟨id, (path.parent?.getD ⟨""⟩).join grid, 0⟩
  views : app.views = manifest.cases.mapIdx fun id _ => viewOf id
  caseGroups : app.caseGroups = manifest.caseGroups.mapIdx fun id sources =>
    ⟨id, sources.map (path.parent?.getD ⟨""⟩).join⟩
  wellPaths : app.wellPaths = manifest.wellPaths.mapIdx fun id name =>
    ⟨id, name⟩

theorem foldl_addCase (app : Application) (base : Path) (grids : List Path) :
    grids.foldl (fun app grid => (app.addCase (base.join grid)).2) app.clear =
      { app.clear with
        cases := grids.mapIdx fun id grid => ⟨id, base.join grid, 0⟩
        views := grids.mapIdx fun id _ => viewOf id
        numbering := { cases := grids.length, views := grids.length } } := by
  induction grids using List.reverseRecOn with
  | nil => rfl
  | append_singleton grids grid induction =>
      rw [List.foldl_append, induction]
      simp [addCase, addView, viewOf, List.mapIdx_append]

theorem foldl_addCaseGroup {app : Application} (empty : app.caseGroups = [])
    (next : app.numbering.caseGroups = 0) (base : Path)
    (groups : List (List Path)) :
    groups.foldl
        (fun app sources => (app.addCaseGroup (sources.map base.join)).2) app =
      { app with
        caseGroups := groups.mapIdx fun id sources =>
          ⟨id, sources.map base.join⟩
        numbering := { app.numbering with caseGroups := groups.length } } := by
  induction groups using List.reverseRecOn with
  | nil =>
      rw [List.foldl_nil, List.mapIdx_nil, List.length_nil, ← empty, ← next]
  | append_singleton groups sources induction =>
      rw [List.foldl_append, induction]
      simp [addCaseGroup, List.mapIdx_append]

theorem foldl_addWellPath {app : Application} (empty : app.wellPaths = [])
    (next : app.numbering.wellPaths = 0) (names : List String) :
    names.foldl (fun app name => (app.addWellPath name).2) app =
      { app with
        wellPaths := names.mapIdx fun id name => ⟨id, name⟩
        numbering := { app.numbering with wellPaths := names.length } } := by
  induction names using List.reverseRecOn with
  | nil =>
      rw [List.foldl_nil, List.mapIdx_nil, List.length_nil, ← empty, ← next]
  | append_singleton names name induction =>
      rw [List.foldl_append, induction]
      simp [addWellPath, List.mapIdx_append]

/-- The three lists of a manifest are added one after another to an application
that was cleared before. -/
theorem withProject_eq (app : Application) (path : Path)
    (manifest : Manifest) :
    let base := path.parent?.getD ⟨""⟩
    app.withProject path manifest = { app with
      project := some path
      cases := manifest.cases.mapIdx fun id grid => ⟨id, base.join grid, 0⟩
      views := manifest.cases.mapIdx fun id _ => viewOf id
      caseGroups := manifest.caseGroups.mapIdx fun id sources =>
        ⟨id, sources.map base.join⟩
      wellPaths := manifest.wellPaths.mapIdx fun id name => ⟨id, name⟩
      numbering := ⟨manifest.cases.length, manifest.cases.length,
        manifest.caseGroups.length, manifest.wellPaths.length⟩ } := by
  rw [withProject]
  dsimp only
  rw [foldl_addCase, foldl_addCaseGroup rfl rfl, foldl_addWellPath rfl rfl]
  rfl

theorem holdsProject_withProject (app : Application) (path : Path)
    (manifest : Manifest) :
    (app.withProject path manifest).HoldsProject path manifest := by
  rw [withProject_eq]
  exact ⟨rfl, rfl, rfl, rfl, rfl⟩

theorem sameHeld_withProject (left right : Application) (path : Path)
    (manifest : Manifest) :
    (left.withProject path manifest).SameHeld
      (right.withProject path manifest) := by
  rw [withProject_eq, withProject_eq]
  exact ⟨rfl, rfl, rfl, rfl, rfl, rfl⟩

end Application

/-! ### Two workspaces -/

namespace Action

/-- A manifest is found by the presets, by whether files are checked and by the
files, and by nothing else. -/
theorem fst_loadManifest_congr {left right : Workspace}
    (presets : ∀ path, left.application.preset? path =
      right.application.preset? path)
    (checks : left.application.checksFiles = right.application.checksFiles)
    (disk : left.disk.Same right.disk) (path : Path) :
    ((loadManifest path).run.run left).1 =
      ((loadManifest path).run.run right).1 := by
  rw [loadManifest, run_get_bind, run_get_bind, presets, checks, disk.exists?]
  cases right.application.preset? path with
  | some manifest => rfl
  | none =>
      dsimp only
      split
      · split <;> rfl
      · cases held : right.disk.read path with
        | ok text =>
            rw [run_bind_ok (run_read_ok held),
              run_bind_ok (run_read_ok ((disk.read path).trans held))]
            cases Manifest.parse? text <;> rfl
        | error reason =>
            rw [run_bind_error (run_read_error held),
              run_bind_error (run_read_error ((disk.read path).trans held))]

/-- With the same presets, file checks and files, a project is opened from any
two pasts alike: both fail with the same cause and change no application, or
both hold what the manifest lists and hand out the same numbers from then on. -/
theorem openProject_forgets {left right : Workspace} (path : Path)
    (presets : ∀ path, left.application.preset? path =
      right.application.preset? path)
    (checks : left.application.checksFiles = right.application.checksFiles)
    (disk : left.disk.Same right.disk) :
    let first := (openProject path).run.run left
    let second := (openProject path).run.run right
    (∃ cause, first.1 = .error cause ∧ second.1 = .error cause ∧
      first.2.application = left.application ∧
      second.2.application = right.application) ∨
    ∃ manifest, ((loadManifest path).run.run left).1 = .ok manifest ∧
      first.1 = .ok () ∧ second.1 = .ok () ∧
      first.2.application.HoldsProject path manifest ∧
      second.2.application.HoldsProject path manifest ∧
      ∀ additions, first.2.application.numbersOf additions =
        second.2.application.numbersOf additions := by
  dsimp only
  have answer := fst_loadManifest_congr presets checks disk path
  cases loaded : (loadManifest path).run.run left with
  | mk found middle =>
      cases other : (loadManifest path).run.run right with
      | mk otherFound otherMiddle =>
          rw [loaded, other] at answer
          change found = otherFound at answer
          subst answer
          cases found with
          | error cause =>
              obtain ⟨journal, first⟩ := run_openProject_error loaded
              obtain ⟨otherJournal, second⟩ := run_openProject_error other
              rw [first, second]
              exact .inl ⟨cause, rfl, rfl, rfl, rfl⟩
          | ok manifest =>
              obtain ⟨journal, first⟩ := run_openProject_ok loaded
              obtain ⟨otherJournal, second⟩ := run_openProject_ok other
              rw [first, second]
              refine .inr ⟨manifest, rfl, rfl, rfl,
                Application.holdsProject_withProject _ path manifest,
                Application.holdsProject_withProject _ path manifest, ?_⟩
              exact (Application.sameHeld_withProject _ _ path
                manifest).numbersOf

/-- An application that has not been used yet, with one project preset. -/
def unused : Workspace where
  application := { presets := [(["field", "p.rsp"],
    { cases := [⟨"a.egrid"⟩, ⟨"/b.egrid"⟩], wellPaths := ["W"] })] }

/-- The same application with a past of its own. -/
def used : Workspace where
  application := ((((unused.application.addCase ⟨"old.egrid"⟩).2.addView 0
    "other").2.addCaseGroup []).2.addWellPath "old").2

theorem openProject_forgets_used :
    let first := ((openProject ⟨"field/p.rsp"⟩).run.run unused).2.application
    let second := ((openProject ⟨"field/p.rsp"⟩).run.run used).2.application
    second.cases = [⟨0, ⟨"field/a.egrid"⟩, 0⟩, ⟨1, ⟨"/b.egrid"⟩, 0⟩] ∧
      second.numbersOf [.case ⟨"c"⟩, .view 0 "v", .wellPath "X"] = [2, 3, 1] ∧
      ∀ additions, first.numbersOf additions = second.numbersOf additions := by
  refine ⟨by decide +kernel, by decide +kernel, ?_⟩
  have opened : ((openProject ⟨"field/p.rsp"⟩).run.run unused).1 = .ok () := rfl
  obtain ⟨cause, failed, _⟩ | ⟨_, _, _, _, _, _, numbers⟩ :=
    @openProject_forgets unused used ⟨"field/p.rsp"⟩ (fun _ => rfl) rfl
      (.refl _)
  · rw [opened] at failed
    cases failed
  · exact numbers

end Action

end GridScript
