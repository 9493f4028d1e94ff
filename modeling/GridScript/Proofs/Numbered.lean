import GridScript.Proofs.Keeping

/-!
# Objects are numbered by their places

Numbers are handed out from counters of their own, one for each class.  They
stay in step with the lists of objects through every operation, so that each
object has its place as its number.  Where only commands have changed the
application, each case has one view, which has the same number.
-/

namespace GridScript

/-- Each item has its place in the list as its number. -/
def InOrder {α : Type} (number : α → Nat) (items : List α) : Prop :=
  items.map number = List.range items.length

namespace InOrder

variable {α : Type} {number : α → Nat} {items : List α}

theorem concat (inOrder : InOrder number items) {last : α}
    (next : number last = items.length) : InOrder number (items ++ [last]) := by
  rw [InOrder, List.map_append, inOrder, List.length_append, List.map_singleton,
    next, List.length_singleton, List.range_succ]

theorem any_iff (inOrder : InOrder number items) (id : Nat) :
    items.any (number · == id) = true ↔ id < items.length := by
  rw [← List.mem_range, ← inOrder, List.any_eq_true, List.mem_map]
  simp only [beq_iff_eq]

end InOrder

namespace Application

theorem length_changeFirst {α : Type} (test : α → Bool) (change : α → α)
    (items : List α) :
    (changeFirst test change items).length = items.length := by
  induction items with
  | nil => rfl
  | cons item items induction =>
      rw [changeFirst]
      split
      · rfl
      · exact congrArg Nat.succ induction

theorem map_changeFirst {α β : Type} {view : α → β} {change : α → α}
    (same : ∀ item, view (change item) = view item) (test : α → Bool)
    (items : List α) :
    (changeFirst test change items).map view = items.map view := by
  induction items with
  | nil => rfl
  | cons item items induction =>
      rw [changeFirst]
      split
      · rw [List.map_cons, List.map_cons, same]
      · rw [List.map_cons, List.map_cons, induction]

theorem inOrder_changeFirst {α : Type} {number : α → Nat} {change : α → α}
    (same : ∀ item, number (change item) = number item) (test : α → Bool)
    {items : List α} (inOrder : InOrder number items) :
    InOrder number (changeFirst test change items) := by
  rw [InOrder, map_changeFirst same, length_changeFirst]
  exact inOrder

/-! ### The counters -/

/-- The objects of each class are in order, and the next number of each class is
how many there are. -/
structure Numbered (app : Application) : Prop where
  cases : InOrder GridCase.id app.cases
  views : InOrder View.id app.views
  caseGroups : InOrder CaseGroup.id app.caseGroups
  wellPaths : InOrder WellPath.id app.wellPaths
  next : app.numbering = ⟨app.cases.length, app.views.length,
    app.caseGroups.length, app.wellPaths.length⟩

/-- An application that has not been used yet. -/
def Fresh (app : Application) : Prop :=
  app = { presets := app.presets, checksFiles := app.checksFiles }

theorem numbered_clear (app : Application) : app.clear.Numbered :=
  ⟨rfl, rfl, rfl, rfl, rfl⟩

theorem Fresh.clear_eq {app : Application} (fresh : app.Fresh) :
    app.clear = app := by
  rw [fresh]
  rfl

theorem Numbered.addView {app : Application} (numbered : app.Numbered)
    (caseId : Nat) (name : String) : (app.addView caseId name).2.Numbered := by
  obtain ⟨cases, views, caseGroups, wellPaths, next⟩ := numbered
  have id : app.numbering.views = app.views.length := by rw [next]
  refine ⟨cases, views.concat id, caseGroups, wellPaths, ?_⟩
  simp [Application.addView, next]

theorem kept_numbered : Kept Numbered where
  written _ numbered := ⟨numbered.cases, numbered.views, numbered.caseGroups,
    numbered.wellPaths, numbered.next⟩
  project _ numbered := ⟨numbered.cases, numbered.views, numbered.caseGroups,
    numbered.wellPaths, numbered.next⟩
  clear {app} _ := app.numbered_clear
  addCase {app} gridFile numbered := by
    obtain ⟨cases, views, caseGroups, wellPaths, next⟩ := numbered
    have id : app.numbering.cases = app.cases.length := by rw [next]
    apply Numbered.addView
    refine ⟨cases.concat id, views, caseGroups, wellPaths, ?_⟩
    simp [next]
  addCaseGroup {app} sources numbered := by
    obtain ⟨cases, views, caseGroups, wellPaths, next⟩ := numbered
    have id : app.numbering.caseGroups = app.caseGroups.length := by rw [next]
    refine ⟨cases, views, caseGroups.concat id, wellPaths, ?_⟩
    simp [addCaseGroup, next]
  addWellPath {app} name numbered := by
    obtain ⟨cases, views, caseGroups, wellPaths, next⟩ := numbered
    have id : app.numbering.wellPaths = app.wellPaths.length := by rw [next]
    refine ⟨cases, views, caseGroups, wellPaths.concat id, ?_⟩
    simp [addWellPath, next]
  changeCase {app} id change same numbered := by
    obtain ⟨cases, views, caseGroups, wellPaths, next⟩ := numbered
    refine ⟨inOrder_changeFirst same _ cases, views, caseGroups, wellPaths, ?_⟩
    simp [changeCase, length_changeFirst, next]
  changeCaseGroup {app} id change same numbered := by
    obtain ⟨cases, views, caseGroups, wellPaths, next⟩ := numbered
    refine ⟨cases, views, inOrder_changeFirst same _ caseGroups, wellPaths, ?_⟩
    simp [changeCaseGroup, length_changeFirst, next]

/-- The classes of objects, and how many there are of each. -/
def sizes (app : Application) : List (String × Nat) :=
  [("Case", app.cases.length), ("View", app.views.length),
    ("CaseGroup", app.caseGroups.length), ("WellPath", app.wellPaths.length)]

theorem Numbered.contains_iff {app : Application} (numbered : app.Numbered)
    (className : String) (id : Nat) :
    app.contains className id = true ↔
      ∃ size, (className, size) ∈ app.sizes ∧ id < size := by
  obtain ⟨cases, views, caseGroups, wellPaths, _⟩ := numbered
  simp only [sizes, List.mem_cons, Prod.mk.injEq, List.not_mem_nil, or_false]
  unfold contains
  split
  · rw [cases.any_iff]
    simp
  · rw [views.any_iff]
    simp
  · rw [caseGroups.any_iff]
    simp
  · rw [wellPaths.any_iff]
    simp
  · simp_all

theorem Numbered.nextIds {app : Application} (numbered : app.Numbered) :
    (∀ gridFile, (app.addCase gridFile).1 = app.cases.length) ∧
      (∀ caseId name, (app.addView caseId name).1 = app.views.length) ∧
      (∀ sources, (app.addCaseGroup sources).1 = app.caseGroups.length) ∧
      ∀ name, (app.addWellPath name).1 = app.wellPaths.length := by
  have next := numbered.next
  simp [addCase, Application.addView, addCaseGroup, addWellPath, next]

/-! ### One view for each case -/

/-- The view that a case gets when it is added. -/
def viewOf (id : Nat) : View :=
  ⟨id, id, "View " ++ natText (id + 1)⟩

/-- Each case has one view. -/
def OneViewEach (app : Application) : Prop :=
  app.views = (List.range app.cases.length).map viewOf

theorem OneViewEach.length {app : Application} (each : app.OneViewEach) :
    app.views.length = app.cases.length := by
  rw [each, List.length_map, List.length_range]

/-- Only adding a view by itself would give a case another one, and that no
command does. -/
theorem kept_oneViewEach : Kept fun app => app.Numbered ∧ app.OneViewEach where
  written _ holds := ⟨kept_numbered.written _ holds.1, holds.2⟩
  project _ holds := ⟨kept_numbered.project _ holds.1, holds.2⟩
  clear holds := ⟨kept_numbered.clear holds.1, rfl⟩
  addCase {app} gridFile holds := by
    obtain ⟨numbered, each⟩ := holds
    refine ⟨kept_numbered.addCase gridFile numbered, ?_⟩
    have next := numbered.next
    have length := each.length
    unfold OneViewEach at each ⊢
    simp only [addCase, addView, next, length, List.length_append,
      List.length_singleton, List.range_succ, List.map_append,
      List.map_singleton, ← each]
    rfl
  addCaseGroup sources holds :=
    ⟨kept_numbered.addCaseGroup sources holds.1, holds.2⟩
  addWellPath name holds := ⟨kept_numbered.addWellPath name holds.1, holds.2⟩
  changeCase {app} id change same holds := by
    refine ⟨kept_numbered.changeCase id same holds.1, ?_⟩
    rw [OneViewEach, changeCase, length_changeFirst]
    exact holds.2
  changeCaseGroup id _ same holds :=
    ⟨kept_numbered.changeCaseGroup id same holds.1, holds.2⟩

end Application

/-! ### Operations and commands -/

/-- What a host may ask of the application. -/
inductive Operation where
  | preset (path : Path) (manifest : Manifest)
  | checkFiles (check : Bool)
  | addCase (gridFile : Path)
  | addView (caseId : Nat) (name : String)
  | addCaseGroup (sources : List Path)
  | addWellPath (name : String)
  | openProject (path : Path)
  | closeProject
  | loadCase (gridFile : Path)
  | replaceCase (id : Option Nat) (gridFile : Path)
  | replaceSourceCases (id : Option Nat) (gridFiles : List Path)
  | setTimeStep (id : Option Nat) (timeStep : Nat)
  | exportSnapshots (request : SnapshotRequest)
  | exportProperty (request : PropertyRequest)
  | exportWellPaths (request : WellPathRequest)
  | exportVisibleCells (request : CellRequest)
  | exportLgrs (request : LgrRequest)

namespace Operation

open GridScript.Action

/-- What the operation does, whatever it gives back. -/
def action : Operation → Action Unit
  | preset path manifest => changeApplication (·.withPreset path manifest)
  | checkFiles check => changeApplication ({ · with checksFiles := check })
  | addCase gridFile => do let _ ← add (·.addCase gridFile)
  | addView caseId name => do let _ ← add (·.addView caseId name)
  | addCaseGroup sources => do let _ ← add (·.addCaseGroup sources)
  | addWellPath name => do let _ ← add (·.addWellPath name)
  | openProject path => Action.openProject path
  | closeProject => Action.closeProject
  | loadCase gridFile => do let _ ← Action.loadCase gridFile
  | replaceCase id gridFile => Action.replaceCase id gridFile
  | replaceSourceCases id gridFiles => Action.replaceSourceCases id gridFiles
  | setTimeStep id timeStep => Action.setTimeStep id timeStep
  | exportSnapshots request => do let _ ← Action.exportSnapshots request
  | exportProperty request => do let _ ← Action.exportProperty request
  | exportWellPaths request => do let _ ← Action.exportWellPaths request
  | exportVisibleCells request => do let _ ← Action.exportVisibleCells request
  | exportLgrs request => do let _ ← Action.exportLgrs request

/-- The workspace after the operation, whether it failed or not. -/
def after (workspace : Workspace) (operation : Operation) : Workspace :=
  (operation.action.run.run workspace).2

/-- The workspace after operations in order. -/
def afterAll (workspace : Workspace) (operations : List Operation) :
    Workspace :=
  operations.foldl after workspace

theorem within_add {frame : Frame} {change : Application → Nat × Application}
    (allowed : ∀ before : Workspace, frame.Allows before { before with
      application := (change before.application).2 }) :
    Within frame (add change) :=
  fun before => ⟨allowed before, nofun⟩

theorem within_numbered (operation : Operation) :
    Within (.keeping Application.kept_numbered) operation.action := by
  have kept := Application.kept_numbered
  -- What an operation gives back does not matter here.
  have alone : ∀ {α : Type} {first : Action α},
      Within (.keeping Application.kept_numbered) first →
        Within (.keeping Application.kept_numbered)
          (do let _ ← first) :=
    fun within => within_bind within fun _ => within_pure _
  cases operation with
  | preset path manifest =>
      exact within_modify fun _ numbered => ⟨numbered.cases, numbered.views,
        numbered.caseGroups, numbered.wellPaths, numbered.next⟩
  | checkFiles check =>
      exact within_modify fun _ numbered => ⟨numbered.cases, numbered.views,
        numbered.caseGroups, numbered.wellPaths, numbered.next⟩
  | addCase gridFile => exact alone (within_add fun _ => kept.addCase gridFile)
  | addView caseId name =>
      exact alone (within_add fun _ numbered => numbered.addView caseId name)
  | addCaseGroup sources =>
      exact alone (within_add fun _ => kept.addCaseGroup sources)
  | addWellPath name =>
      exact alone (within_add fun _ => kept.addWellPath name)
  | openProject path =>
      exact within_openProject fun _ manifest => kept.withProject path manifest
  | closeProject => exact within_modify fun _ => kept.clear
  | loadCase gridFile =>
      exact alone (within_loadCase fun _ => kept.addCase gridFile)
  | replaceCase id gridFile =>
      exact within_replaceCase fun _ _ same => kept.changeCase id same
  | replaceSourceCases id gridFiles =>
      exact within_replaceSourceCases fun _ _ same =>
        kept.changeCaseGroup id same
  | setTimeStep id timeStep =>
      exact within_setTimeStep fun _ _ same => kept.changeCase id same
  | exportSnapshots request => exact alone (within_exportSnapshots request)
  | exportProperty request => exact alone (within_exportProperty request)
  | exportWellPaths request => exact alone (within_exportWellPaths request)
  | exportVisibleCells request =>
      exact alone (within_exportVisibleCells request)
  | exportLgrs request => exact alone (within_exportLgrs request)

/-- One operation keeps the counters in step with the lists. -/
theorem numbered_after {workspace : Workspace} (operation : Operation)
    (numbered : workspace.application.Numbered) :
    (after workspace operation).application.Numbered :=
  (within_numbered operation workspace).1 numbered

theorem numbered_afterAll {workspace : Workspace} (operations : List Operation)
    (numbered : workspace.application.Numbered) :
    (afterAll workspace operations).application.Numbered := by
  induction operations generalizing workspace with
  | nil => exact numbered
  | cons operation operations induction =>
      exact induction (numbered_after operation numbered)

end Operation

namespace Application

/-- Only built-in commands have changed the application since it was fresh.
Each may have met any session and any disk. -/
inductive Commanded : Application → Prop where
  | fresh {app : Application} : app.Fresh → Commanded app
  | command {before : Workspace} {command : Command} (arguments : Arguments) :
      Commanded before.application → command ∈ Builtin.commands →
        Commanded ((command.run arguments).run before).2.application

theorem Commanded.oneViewEach {app : Application} (commanded : app.Commanded) :
    app.Numbered ∧ app.OneViewEach := by
  induction commanded with
  | fresh fresh =>
      rw [← fresh.clear_eq]
      exact ⟨numbered_clear _, rfl⟩
  | command arguments _ builtin holds =>
      exact Builtin.keeps_run kept_oneViewEach builtin arguments holds

end Application

end GridScript
