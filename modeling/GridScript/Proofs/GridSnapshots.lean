import GridScript.Proofs.Projects
import GridScript.Proofs.Saving

/-!
# Snapshots of the grids of a list

For each grid of a list the project is opened anew, its first case gets the
grid, and a snapshot of the view of every case is saved.  What one grid leads to
is a relation, and going through the list is a list of steps, each of which
starts where the one before it ended.
-/

namespace GridScript

/-! ### Snapshots of all views -/

theorem InOrder.getElem {α : Type} {number : α → Nat} {items : List α}
    (inOrder : InOrder number items) {place : Nat}
    (inside : place < items.length) :
    number items[place] = place := by
  have same :
      (items.map number)[place]? = (List.range items.length)[place]? := by
    rw [inOrder]
  simpa [inside] using same

theorem InOrder.find?_eq {α : Type} {number : α → Nat} {items : List α}
    (inOrder : InOrder number items) {item : α} (member : item ∈ items) :
    items.find? (number · == number item) = some item := by
  obtain ⟨place, inside, rfl⟩ := List.mem_iff_getElem.mp member
  cases found : items.find? (number · == number items[place]) with
  | none =>
      have other := List.find?_eq_none.mp found _ member
      simp at other
  | some other =>
      obtain ⟨there, below, rfl⟩ :=
        List.mem_iff_getElem.mp (List.mem_of_find?_eq_some found)
      have same := List.find?_some found
      rw [beq_iff_eq, inOrder.getElem below, inOrder.getElem inside] at same
      subst same
      rfl

theorem View.isPlain_fileName (view : View) : IsPlain view.fileName := by
  refine ⟨view.fileName_flat, ?_⟩
  have length : ".png.txt".toList.length = 8 := rfl
  rw [fileName, String.toList_append, List.length_append]
  omega

/-- A request for snapshots of all views. -/
def SnapshotRequest.ofAll (folder : Path) (stem : String) :
    SnapshotRequest where
  kind := .all
  stem := stem
  caseId := none
  viewIds := []
  folder := folder

/-- The file of the snapshot of a case. -/
def snapshotFile (folder : Path) (stem : String) (id : Nat) : Path :=
  folder.child (stem ++ (Application.viewOf id).fileName)

namespace Application

/-- The snapshots of the views of all cases, as they are saved. -/
def snapshots (app : Application) (folder : Path) (stem : String) :
    List (Path × String) :=
  app.cases.map fun shown =>
    (snapshotFile folder stem shown.id, snapshotText (viewOf shown.id) shown)

theorem map_fst_snapshots (app : Application) (folder : Path) (stem : String) :
    (app.snapshots folder stem).map Prod.fst =
      app.cases.map fun shown => snapshotFile folder stem shown.id := by
  rw [snapshots, List.map_map]
  rfl

theorem plain_fileName {stem : String} (flat : '/' ∉ stem.toList)
    (view : View) :
    IsPlain (stem ++ view.fileName) :=
  view.isPlain_fileName.append flat

theorem plainFiles_snapshots (app : Application) (folder : Path) {stem : String}
    (flat : '/' ∉ stem.toList) :
    Disk.PlainFiles folder (app.snapshots folder stem) := by
  intro file member
  obtain ⟨shown, _, rfl⟩ := List.mem_map.mp member
  exact ⟨_, plain_fileName flat (viewOf shown.id), rfl⟩

theorem OneViewEach.views_eq {app : Application} (each : app.OneViewEach)
    (numbered : app.Numbered) :
    app.views = app.cases.map fun shown => viewOf shown.id := by
  rw [each, ← numbered.cases, List.map_map]
  rfl

theorem SameObjects.selectedViews_ofAll {left right : Application}
    (same : left.SameObjects right) (folder : Path) (stem : String) :
    left.selectedViews (.ofAll folder stem) = right.views := by
  obtain ⟨written, rfl⟩ := same
  simp [selectedViews, SnapshotRequest.ofAll]

/-- Whatever was loaded before, each case of a project has its view. -/
theorem oneViewEach_withProject (app : Application) (path : Path)
    (manifest : Manifest) :
    (app.withProject path manifest).Numbered ∧
      (app.withProject path manifest).OneViewEach := by
  change (app.clear.withProject path manifest).Numbered ∧
    (app.clear.withProject path manifest).OneViewEach
  exact kept_oneViewEach.withProject path manifest
    ⟨numbered_clear app, rfl⟩

end Application

namespace Action

theorem run_findCase {before : Workspace} {id : Option Nat} {found : GridCase}
    (known : before.application.case? id = some found) :
    (findCase id).run.run before = (.ok found, before) := by
  rw [findCase, run_get_bind, known]
  rfl

theorem saves_exportSnapshot {app : Application} (numbered : app.Numbered)
    (folder : Path) (stem : String) {shown : GridCase}
    (member : shown ∈ app.cases) :
    Saves app
      (·.save folder (snapshotFile folder stem shown.id)
        (snapshotText (Application.viewOf shown.id) shown))
      [snapshotFile folder stem shown.id] (snapshotFile folder stem shown.id)
      (exportSnapshot (.ofAll folder stem) (Application.viewOf shown.id)) := by
  apply saves_of_run_eq _ (saves_writeExport folder _ _)
  intro before same
  obtain ⟨written, same⟩ := same
  have known : before.application.case? (some shown.id) = some shown := by
    rw [same]
    exact numbered.cases.find?_eq member
  rw [exportSnapshot]
  apply (run_bind_ok (run_findCase known) _).trans
  rw [View.fileName, ← String.append_assoc]
  rfl

/-- An export of all views saves their snapshots. -/
theorem saves_exportSnapshots {app : Application} (numbered : app.Numbered)
    (each : app.OneViewEach) (folder : Path) (stem : String) :
    Saves app (·.saveAll folder (app.snapshots folder stem))
      (app.cases.map fun shown => snapshotFile folder stem shown.id)
      (app.cases.map fun shown => snapshotFile folder stem shown.id)
      (exportSnapshots (.ofAll folder stem)) := by
  have all : Saves app (·.saveAll folder (app.snapshots folder stem))
      (app.cases.map fun shown => snapshotFile folder stem shown.id)
      (app.cases.map fun shown => snapshotFile folder stem shown.id)
      (app.cases.mapM fun shown => exportSnapshot (.ofAll folder stem)
        (Application.viewOf shown.id)) :=
    saves_mapM fun _ => saves_exportSnapshot numbered folder stem
  apply saves_of_run_eq _ all
  intro before same
  have views : before.application.selectedViews (.ofAll folder stem) =
      app.cases.map fun shown => Application.viewOf shown.id := by
    rw [same.selectedViews_ofAll, each.views_eq numbered]
  have shape : (exportSnapshots (.ofAll folder stem)).run.run before =
      ((before.application.selectedViews (.ofAll folder stem)).mapM
        (exportSnapshot (.ofAll folder stem))).run.run before := rfl
  rw [shape, views, List.mapM_map]
  rfl

end Action

/-! ### One grid -/

namespace Application

/-- The application once its first case has got another grid. -/
def regrid (app : Application) (grid : Path) : Application :=
  app.changeCase none fun c => { c with gridFile := grid, timeStep := 0 }

theorem oneViewEach_regrid {app : Application} (grid : Path)
    (holds : app.Numbered ∧ app.OneViewEach) :
    (app.regrid grid).Numbered ∧ (app.regrid grid).OneViewEach :=
  kept_oneViewEach.changeCase none (fun _ => rfl) holds

/-- Why the first case cannot get a grid. -/
def gridFailure? (app : Application) (disk : Disk) (grid : Path) :
    Option CommandError :=
  if app.checksFiles && !disk.exists? grid then
    some (.objectNotFound ("grid file " ++ grid.text))
  else if app.cases.isEmpty then
    some (.objectNotFound (Action.describeCase none))
  else none

end Application

namespace Action

theorem run_read_ok {path : Path} {cause : DiskError → CommandError}
    {before : Workspace} {text : String}
    (held : before.disk.read path = .ok text) :
    (read path cause).run.run before = (.ok text, before) := by
  rw [read, run_get_bind, held]
  rfl

theorem run_read_error {path : Path} {cause : DiskError → CommandError}
    {before : Workspace} {reason : DiskError}
    (failed : before.disk.read path = .error reason) :
    (read path cause).run.run before = (.error (cause reason), before) := by
  rw [read, run_get_bind, failed]
  rfl

/-- Loading a manifest only looks and tells. -/
theorem exists_loadManifest (project : Path) (before : Workspace) :
    ∃ journal, ((loadManifest project).run.run before).2 =
      { before with journal } := by
  rw [loadManifest, run_get_bind]
  split
  · exact ⟨_, rfl⟩
  · dsimp only
    split
    · split
      · exact ⟨_, rfl⟩
      · exact ⟨_, rfl⟩
    · cases held : before.disk.read project with
      | ok text =>
          rw [run_bind_ok (run_read_ok held)]
          split
          · exact ⟨_, rfl⟩
          · exact ⟨_, rfl⟩
      | error reason =>
          rw [run_bind_error (run_read_error held)]
          exact ⟨_, rfl⟩

theorem run_loadManifest_preset {project : Path} {before : Workspace}
    {manifest : Manifest}
    (preset : before.application.preset? project = some manifest) :
    (loadManifest project).run.run before = (.ok manifest, before) := by
  rw [loadManifest, run_get_bind, preset]
  rfl

theorem run_openProject_ok {project : Path} {before middle : Workspace}
    {manifest : Manifest}
    (loaded : (loadManifest project).run.run before = (.ok manifest, middle)) :
    ∃ journal, (openProject project).run.run before = (.ok (), { before with
      journal, application :=
        before.application.withProject project manifest }) := by
  obtain ⟨journal, same⟩ := exists_loadManifest project before
  rw [loaded] at same
  change middle = _ at same
  rw [openProject, run_bind_ok loaded, same]
  exact ⟨_, rfl⟩

theorem run_openProject_error {project : Path} {before middle : Workspace}
    {cause : CommandError}
    (failed : (loadManifest project).run.run before = (.error cause, middle)) :
    ∃ journal, (openProject project).run.run before =
      (.error cause, { before with journal }) := by
  obtain ⟨journal, same⟩ := exists_loadManifest project before
  rw [failed] at same
  change middle = _ at same
  exact ⟨journal, by rw [openProject, run_bind_error failed, same]⟩

theorem run_checkGridFile (grid : Path) (before : Workspace) :
    (checkGridFile grid).run.run before =
      (if before.application.checksFiles && !before.disk.exists? grid then
        .error (.objectNotFound ("grid file " ++ grid.text))
      else .ok (), before) := by
  rw [checkGridFile, run_get_bind]
  split <;> rfl

theorem run_replaceCase_error {before : Workspace} {grid : Path}
    {cause : CommandError}
    (failure : before.application.gridFailure? before.disk grid = some cause) :
    (replaceCase none grid).run.run before = (.error cause, before) := by
  have checked := run_checkGridFile grid before
  unfold Application.gridFailure? at failure
  split at failure
  · rename_i missing
    cases failure
    rw [if_pos missing] at checked
    exact run_bind_error checked _
  · rename_i there
    rw [if_neg there] at checked
    rw [replaceCase, run_bind_ok checked]
    split at failure
    · rename_i empty
      cases failure
      have none : before.application.case? none = none := by
        rw [Application.case?, List.isEmpty_iff.mp empty]
        rfl
      apply run_bind_error
      rw [findCase, run_get_bind, none]
      rfl
    · cases failure

theorem run_replaceCase_ok {before : Workspace} {grid : Path}
    (fine : before.application.gridFailure? before.disk grid = none) :
    ∃ journal, (replaceCase none grid).run.run before = (.ok (), { before with
      journal, application := before.application.regrid grid }) := by
  have checked := run_checkGridFile grid before
  unfold Application.gridFailure? at fine
  split at fine
  · cases fine
  · rename_i there
    rw [if_neg there] at checked
    split at fine
    · cases fine
    · rename_i some
      cases cases : before.application.cases with
      | nil => simp [cases] at some
      | cons first others =>
          have known : before.application.case? none = .some first := by
            rw [Application.case?, cases]
            rfl
          rw [replaceCase, run_bind_ok checked,
            run_bind_ok (run_findCase known)]
          exact ⟨_, rfl⟩

end Action

namespace Builtin

open GridScript.Action

/-- What the file names of the snapshots of a grid begin with. -/
def gridStem (grid : Path) : String :=
  grid.fileStem?.getD "" ++ "_"

/-- The folder that snapshots go to once the project is open again. -/
def snapshotFolder (project : Path) (session : Session) : Path :=
  session.exportFolder (some project) .snapshots

/-- The snapshots of an application for a grid, as they are saved. -/
def gridSnapshots (project : Path) (session : Session) (app : Application)
    (grid : Path) : List (Path × String) :=
  (app.regrid grid).snapshots (snapshotFolder project session) (gridStem grid)

/-- What one grid leads to: the project cannot be opened, or its first case
cannot get the grid, or the snapshots are saved, or one of them is not. -/
inductive GridOutcome (project grid : Path) (before : Workspace) :
    Except CommandError (List Path) → Workspace → Prop where
  | unopened {cause : CommandError} {journal : List Notice} :
      ((loadManifest project).run.run before).1 = .error cause →
      GridOutcome project grid before (.error cause) { before with journal }
  | refused {manifest : Manifest} {cause : CommandError}
      {journal : List Notice} :
      ((loadManifest project).run.run before).1 = .ok manifest →
      (before.application.withProject project manifest).gridFailure?
        before.disk grid = some cause →
      GridOutcome project grid before (.error cause) { before with
        journal, application :=
          before.application.withProject project manifest }
  | saved {manifest : Manifest} {disk : Disk} {journal : List Notice}
      {opened : Application} {files : List Path} :
      ((loadManifest project).run.run before).1 = .ok manifest →
      opened = before.application.withProject project manifest →
      opened.gridFailure? before.disk grid = none →
      files = (gridSnapshots project before.session opened grid).map Prod.fst →
      before.disk.saveAll (snapshotFolder project before.session)
        (gridSnapshots project before.session opened grid) = .ok disk →
      GridOutcome project grid before (.ok files) { before with
        disk, journal, application := (opened.regrid grid).remembering files }
  | unsaved {manifest : Manifest} {opened : Application} {reason : DiskError}
      {after : Workspace} :
      ((loadManifest project).run.run before).1 = .ok manifest →
      opened = before.application.withProject project manifest →
      opened.gridFailure? before.disk grid = none →
      before.disk.saveAll (snapshotFolder project before.session)
        (gridSnapshots project before.session opened grid) = .error reason →
      GridOutcome project grid before (.error (.disk reason)) after

/-- Once the first case has its grid, all depends on saving the snapshots. -/
theorem gridOutcome_exportSnapshots {project grid : Path}
    {before : Workspace} {manifest : Manifest} {app : Application}
    {journal : List Notice}
    (loaded : ((loadManifest project).run.run before).1 = .ok manifest)
    (opened : app = before.application.withProject project manifest)
    (fine : app.gridFailure? before.disk grid = none) :
    let done := (Action.exportSnapshots
      (.ofAll (snapshotFolder project before.session) (gridStem grid))).run.run
        { before with journal, application := app.regrid grid }
    GridOutcome project grid before done.1 done.2 := by
  intro done
  have holds := Application.oneViewEach_regrid grid
    (before.application.oneViewEach_withProject project manifest)
  rw [← opened] at holds
  have saves := saves_exportSnapshots holds.1 holds.2
    (snapshotFolder project before.session) (gridStem grid)
  have objects : Application.SameObjects
      ({ before with journal, application := app.regrid grid } :
        Workspace).application (app.regrid grid) := .refl _
  cases changed : before.disk.saveAll (snapshotFolder project before.session)
      (gridSnapshots project before.session app grid) with
  | ok disk =>
      obtain ⟨journal, ran⟩ := saves.works objects changed
      rw [show done = _ from ran]
      exact .saved loaded opened fine
        (Application.map_fst_snapshots _ _ _).symm changed
  | error reason =>
      rw [show done.1 = _ from saves.fails objects changed]
      exact .unsaved loaded opened fine changed

theorem gridOutcome_snapshotGrid (project grid : Path) (before : Workspace) :
    GridOutcome project grid before
      ((snapshotGrid project grid).run.run before).1
      ((snapshotGrid project grid).run.run before).2 := by
  rcases loaded : (loadManifest project).run.run before with ⟨answer, middle⟩
  cases answer with
  | error cause =>
      obtain ⟨journal, opened⟩ := run_openProject_error loaded
      rw [snapshotGrid, run_bind_error opened]
      exact .unopened (by rw [loaded])
  | ok manifest =>
      obtain ⟨journal, opened⟩ := run_openProject_ok loaded
      rw [snapshotGrid, run_bind_ok opened]
      let app := before.application.withProject project manifest
      let reopened : Workspace := { before with journal, application := app }
      cases failure : app.gridFailure? before.disk grid with
      | some cause =>
          have refused : (Action.replaceCase none grid).run.run reopened =
              (.error cause, reopened) := run_replaceCase_error failure
          rw [run_bind_error refused]
          exact .refused (by rw [loaded]) failure
      | none =>
          have regridded : ∃ journal,
              (Action.replaceCase none grid).run.run reopened =
                (.ok (), { before with
                  journal, application := app.regrid grid }) :=
            run_replaceCase_ok failure
          obtain ⟨journal, regridded⟩ := regridded
          rw [run_bind_ok regridded, run_get_bind]
          exact gridOutcome_exportSnapshots (by rw [loaded]) rfl failure

/-! ### The grids of a list -/

/-- One grid of a list: what came of it, and the workspace after it. -/
structure GridStep where
  grid : Path
  answer : Except CommandError (List Path)
  after : Workspace

namespace GridStep

/-- The snapshots that the grid led to. -/
def files (step : GridStep) : List Path :=
  step.answer.toOption.getD []

/-- What the response says of a grid that failed. -/
def failure? (step : GridStep) : Option String :=
  match step.answer with
  | .ok _ => none
  | .error cause => some (step.grid.text ++ ": " ++ cause.message)

end GridStep

/-- What the grid leads to from this workspace. -/
def gridStep (project grid : Path) (before : Workspace) : GridStep :=
  let done := (snapshotGrid project grid).run.run before
  ⟨grid, done.1, done.2⟩

/-- The grids in order, each from where the one before it ended. -/
def gridSteps (project : Path) : List Path → Workspace → List GridStep
  | [], _ => []
  | grid :: more, before =>
    let step := gridStep project grid before
    step :: gridSteps project more step.after

/-- The workspace after the steps. -/
def afterSteps (before : Workspace) (steps : List GridStep) : Workspace :=
  (steps.getLast?.map (·.after)).getD before

theorem afterSteps_cons (before : Workspace) (step : GridStep)
    (steps : List GridStep) :
    afterSteps before (step :: steps) = afterSteps step.after steps := by
  cases steps with
  | nil => rfl
  | cons next steps => simp [afterSteps, List.getLast?_cons]

/-- Going through the grids goes through the steps. -/
theorem run_snapshotGrids (project : Path) (grids : List Path)
    (response : Response) (before : Workspace) :
    (snapshotGrids project response grids).run before =
      let steps := gridSteps project grids before
      (((steps.filterMap GridStep.failure?).foldl (·.update .error ·) response,
        steps.flatMap GridStep.files), afterSteps before steps) := by
  induction grids generalizing response before with
  | nil => rfl
  | cons grid grids induction =>
      simp only [gridSteps, afterSteps_cons]
      rcases ran : (snapshotGrid project grid).run.run before with
        ⟨answer, middle⟩
      rw [snapshotGrids, StateT.run_bind, ran]
      simp only [gridStep, ran]
      cases answer with
      | ok files =>
          change (do
            let rest ← snapshotGrids project response grids
            pure (rest.1, files ++ rest.2) :
              StateM Workspace _).run middle = _
          rw [StateT.run_bind, induction response middle]
          rfl
      | error cause =>
          exact induction _ middle

end Builtin

/-! ### The response -/

/-- Joining may begin with the first two texts. -/
theorem joinWith_append_cons (separator first second : String)
    (more : List String) :
    joinWith separator ((first ++ separator ++ second) :: more) =
      joinWith separator (first :: second :: more) := by
  cases more with
  | nil => rfl
  | cons third more =>
      simp only [joinWith, String.append_assoc]

namespace Response

theorem foldl_update_error_of_error {message : String}
    (written : message.isEmpty = false) (result : Option ResultObject)
    {failures : List String} (told : ∀ text ∈ failures, text.isEmpty = false) :
    failures.foldl (·.update .error ·) (⟨.error, message, result⟩ : Response) =
      ⟨.error, joinWith "; " (message :: failures), result⟩ := by
  induction failures generalizing message with
  | nil => rfl
  | cons text failures induction =>
      have step : (⟨.error, message, result⟩ : Response).update .error text =
          ⟨.error, message ++ "; " ++ text, result⟩ := by
        simp [update, written, told text List.mem_cons_self, Status.worse]
      have longer : (message ++ "; " ++ text).isEmpty = false := by
        rw [String.isEmpty_eq_false_iff] at written ⊢
        simp [written]
      rw [List.foldl_cons, step, induction longer fun other member =>
        told other (List.mem_cons_of_mem text member), joinWith_append_cons]

/-- Failures make an error that tells all of them. -/
theorem foldl_update_error {failures : List String}
    (told : ∀ text ∈ failures, text.isEmpty = false) :
    failures.foldl (·.update .error ·) ok =
      ⟨if failures = [] then .ok else .error,
        joinWith "; " failures, none⟩ := by
  cases failures with
  | nil => rfl
  | cons text failures =>
      have written := told text List.mem_cons_self
      have step : ok.update .error text = ⟨.error, text, none⟩ := by
        simp [update, ok, written, Status.worse, Status.severity]
      rw [List.foldl_cons, step, foldl_update_error_of_error written none
        fun other member => told other (List.mem_cons_of_mem text member)]
      simp

end Response

namespace Builtin

open GridScript.Action

theorem GridStep.failure?_told {step : GridStep} {text : String}
    (failed : step.failure? = some text) : text.isEmpty = false := by
  unfold failure? at failed
  split at failed
  · cases failed
  · cases failed
    rw [String.isEmpty_eq_false_iff]
    simp

/-- The argument names a file that lists these grids. -/
def ListsGrids (arguments : Arguments) (before : Workspace)
    (grids : List Path) : Prop :=
  ∃ name text, arguments.text? "gridListFile" = some name ∧
    name.isEmpty = false ∧
    before.disk.read (before.session.resolvePath ⟨name⟩) = .ok text ∧
    grids = gridsOf
      ((before.session.resolvePath ⟨name⟩).parent?.getD ⟨""⟩) text ∧
    grids ≠ []

theorem listsGrids_of_find? {before : Workspace} {name text : String}
    {location : Location} {grids : List Path} (written : name.isEmpty = false)
    (located : before.disk.locate (before.session.resolvePath ⟨name⟩) =
      .ok location)
    (stands : before.disk.find? location = some (.file text.toUTF8))
    (same : grids = gridsOf
      ((before.session.resolvePath ⟨name⟩).parent?.getD ⟨""⟩) text)
    (some : grids ≠ []) :
    ListsGrids ⟨[⟨"gridListFile", .string name, true⟩]⟩ before grids := by
  refine ⟨name, text, rfl, written, ?_, same, some⟩
  exact Disk.read_eq_ok_iff.mpr
    ⟨location, _, located, stands, fromUTF8?_toUTF8 text⟩

theorem ListsGrids.exists_path {arguments : Arguments} {before : Workspace}
    {grids : List Path} (listed : ListsGrids arguments before grids) :
    ∃ path, (requiredPath arguments "gridListFile").run.run before =
        (.ok path, before) ∧
      (readGridList path).run.run before = (.ok grids, before) := by
  obtain ⟨name, text, given, written, held, same, some⟩ := listed
  refine ⟨before.session.resolvePath ⟨name⟩, ?_, ?_⟩
  · rw [requiredPath, requiredText, given]
    simp only [written]
    rfl
  · generalize before.session.resolvePath ⟨name⟩ = path at held same
    have whole : (Action.read path (.unreadableGridList path)).run.run before =
        (.ok text, before) := by
      rw [Action.read, run_get_bind, held]
      rfl
    rw [readGridList, run_bind_ok whole]
    dsimp only
    rw [← same, if_neg (by simpa using some)]
    rfl

theorem exists_print (text : String) (before : Workspace) :
    ∃ journal, (Action.print text).run.run before =
      (.ok (), { before with journal }) := by
  rw [Action.print, run_get_bind]
  split <;> exact ⟨_, rfl⟩

/-- The command goes through the steps and tells what came of them. -/
theorem run_exportMultiCaseSnapshots {arguments : Arguments}
    {before : Workspace} {project : Path} {grids : List Path}
    (isOpen : before.session.lastProject = some project)
    (listed : ListsGrids arguments before grids) :
    let steps := gridSteps project grids before
    let failures := steps.filterMap GridStep.failure?
    ∃ journal, (exportMultiCaseSnapshots.run arguments).run before =
      (⟨if failures = [] then .ok else .error, joinWith "; " failures,
        some (.files (steps.flatMap GridStep.files))⟩,
        { afterSteps before steps with journal }) := by
  intro steps failures
  obtain ⟨path, given, reading⟩ := listed.exists_path
  have told : ∀ text ∈ failures, text.isEmpty = false := by
    intro text member
    obtain ⟨step, _, failed⟩ := List.mem_filterMap.mp member
    exact GridStep.failure?_told failed
  have going : (liftM (snapshotGrids project .ok grids) :
      Action (Response × List Path)).run.run before =
        (.ok (⟨if failures = [] then .ok else .error, joinWith "; " failures,
          none⟩, steps.flatMap GridStep.files), afterSteps before steps) := by
    rw [← Response.foldl_update_error told]
    exact congrArg (fun done => (Except.ok done.1, done.2))
      (run_snapshotGrids project grids .ok before)
  obtain ⟨journal, printed⟩ := exists_print
    (" Exported " ++ natText (steps.flatMap GridStep.files).length ++
      " snapshots for " ++ natText grids.length ++ " grids")
    (afterSteps before steps)
  refine ⟨journal, ?_⟩
  change (Command.ofAction runExportMultiCaseSnapshots arguments).run before = _
  rw [Command.run_ofAction, runExportMultiCaseSnapshots,
    run_requireProject_some isOpen, run_bind_ok given, run_bind_ok reading,
    run_bind_ok going, run_bind_ok printed]
  rfl

end Builtin

end GridScript
