import GridScript.Host.Export
import GridScript.Proofs.SameDisk

/-!
# Workspaces that commands cannot tell apart

Commands see the application, the session and the files.  They write to the
journal and never read it, and they cannot see in which order the disk keeps its
entries.  So from workspaces that are alike in what they see, they give the same
response and lead to workspaces that are alike again.
-/

namespace GridScript

namespace Workspace

/-- The same application, the same session and the same files. -/
structure Alike (left right : Workspace) : Prop where
  application : left.application = right.application
  session : left.session = right.session
  disk : left.disk.Same right.disk

theorem Alike.refl (workspace : Workspace) : workspace.Alike workspace :=
  ⟨rfl, rfl, .refl _⟩

theorem Alike.symm {left right : Workspace} (alike : left.Alike right) :
    right.Alike left :=
  ⟨alike.application.symm, alike.session.symm, alike.disk.symm⟩

theorem Alike.trans {first second third : Workspace}
    (left : first.Alike second) (right : second.Alike third) :
    first.Alike third :=
  ⟨left.application.trans right.application, left.session.trans right.session,
    left.disk.trans right.disk⟩

theorem Alike.exportFolder {left right : Workspace} (alike : left.Alike right)
    (kind : ExportKind) : left.exportFolder kind = right.exportFolder kind := by
  rw [Workspace.exportFolder, Workspace.exportFolder, alike.application,
    alike.session]

end Workspace

/-- From alike workspaces both computations give the same answer and lead to
alike workspaces. -/
def Agree {α : Type} (first second : StateM Workspace α) : Prop :=
  ∀ left right : Workspace, left.Alike right →
    (first.run left).1 = (second.run right).1 ∧
      (first.run left).2.Alike (second.run right).2

theorem agree_pure {α : Type} (value : α) :
    Agree (pure value : StateM Workspace α) (pure value) :=
  fun _ _ alike => ⟨rfl, alike⟩

theorem agree_bind {α β : Type} {first second : StateM Workspace α}
    {next next' : α → StateM Workspace β} (start : Agree first second)
    (continues : ∀ value, Agree (next value) (next' value)) :
    Agree (first >>= next) (second >>= next') := by
  intro left right alike
  obtain ⟨answer, after⟩ := start left right alike
  have moved : (second >>= next').run right =
      (next' (first.run left).1).run (second.run right).2 := by
    rw [answer]
    rfl
  rw [moved]
  exact continues (first.run left).1 _ _ after

namespace Action

variable {α β : Type}

/-- Both actions give the same answer, or fail alike. -/
def Agrees (first second : Action α) : Prop :=
  Agree first.run second.run

/-- The action sees no more of a workspace than what is alike. -/
def Steady (action : Action α) : Prop :=
  Agrees action action

/-! ### Parts of actions -/

theorem steady_pure (value : α) : Steady (pure value : Action α) :=
  fun _ _ alike => ⟨rfl, alike⟩

theorem steady_throw (cause : CommandError) :
    Steady (throw cause : Action α) :=
  fun _ _ alike => ⟨rfl, alike⟩

theorem agrees_bind {first second : Action α} {next next' : α → Action β}
    (start : Agrees first second)
    (continues : ∀ value, Agrees (next value) (next' value)) :
    Agrees (first >>= next) (second >>= next') := by
  rw [Agrees, ExceptT.run_bind, ExceptT.run_bind]
  apply agree_bind start
  intro answer
  cases answer with
  | ok value => exact continues value
  | error cause => exact agree_pure _

/-- An action that looks at the workspace may depend on what is alike. -/
theorem steady_get {next : Workspace → Action α}
    (continues : ∀ left right : Workspace, left.Alike right →
      Agrees (next left) (next right)) :
    Steady (get >>= next) :=
  fun left right alike => continues left right alike left right alike

theorem steady_note (level : Level) (text : String) :
    Steady (note level text) :=
  fun _ _ alike => ⟨rfl, alike.application, alike.session, alike.disk⟩

theorem steady_changeApplication (change : Application → Application) :
    Steady (changeApplication change) := by
  intro left right alike
  exact ⟨rfl, congrArg change alike.application, alike.session, alike.disk⟩

theorem steady_changeSession (change : Session → Session) :
    Steady (changeSession change) := by
  intro left right alike
  exact ⟨rfl, alike.application, congrArg change alike.session, alike.disk⟩

theorem steady_add (change : Application → Nat × Application) :
    Steady (add change) := by
  intro left right alike
  exact ⟨congrArg (fun app => Except.ok (change app).1) alike.application,
    congrArg (fun app => (change app).2) alike.application, alike.session,
    alike.disk⟩

/-- Whether a workspace is quiet matters to its journal only. -/
theorem steady_print (text : String) : Steady (print text) := by
  have plain : ∀ workspace : Workspace,
      ((print text).run.run workspace).1 = .ok () ∧
        ((print text).run.run workspace).2.Alike workspace := by
    intro workspace
    have shape : (print text).run.run workspace =
        (if !workspace.quiet then note .info text else pure () :
          Action Unit).run.run workspace := rfl
    rw [shape]
    split <;> exact ⟨rfl, rfl, rfl, .refl _⟩
  intro left right alike
  refine ⟨(plain left).1.trans (plain right).1.symm, ?_⟩
  exact (plain left).2.trans (alike.trans (plain right).2.symm)

theorem agrees_setDisk {disk disk' : Disk} (same : disk.Same disk') :
    Agrees (modify fun workspace => { workspace with disk })
      (modify fun workspace => { workspace with disk := disk' }) :=
  fun _ _ alike => ⟨rfl, alike.application, alike.session, same⟩

theorem steady_createFolders (path : Path) (cause : DiskError → CommandError) :
    Steady (createFolders path cause) := by
  apply steady_get
  intro left right alike
  obtain ⟨outcome, same⟩ := alike.disk.createFolders path
  generalize left.disk.createFolders path = leftMade at outcome same
  generalize right.disk.createFolders path = rightMade at outcome same
  obtain ⟨leftOutcome, leftDisk⟩ := leftMade
  obtain ⟨rightOutcome, rightDisk⟩ := rightMade
  dsimp only at outcome same
  subst outcome
  apply agrees_bind (agrees_setDisk same)
  intro _
  cases leftOutcome with
  | ok => exact steady_pure _
  | error reason => exact steady_throw (cause reason)

theorem steady_read (path : Path) (cause : DiskError → CommandError) :
    Steady (read path cause) := by
  apply steady_get
  intro left right alike
  rw [alike.disk.read]
  cases right.disk.read path with
  | ok text => exact steady_pure text
  | error reason => exact steady_throw (cause reason)

theorem steady_resolve (text : String) :
    Steady (resolve text) := by
  apply steady_get
  intro left right alike
  rw [alike.session]
  exact steady_pure _

/-- Writes a file into a folder that is there. -/
def store (path : Path) (text : String) : Action Unit := do
  match (← get).disk.write path text with
  | .ok disk => modify fun workspace => { workspace with disk }
  | .error reason => throw (.disk reason)
  note .debug ("wrote " ++ path.text)
  changeApplication fun app => { app with written := app.written ++ [path] }

theorem steady_store (path : Path) (text : String) :
    Steady (store path text) := by
  have finish : ∀ _ : Unit, Steady
      (do
        note .debug ("wrote " ++ path.text)
        changeApplication fun app =>
          { app with written := app.written ++ [path] }) :=
    fun _ => agrees_bind (steady_note _ _) fun _ => steady_changeApplication _
  apply steady_get
  intro left right alike
  rw [Disk.write_eq, Disk.write_eq, alike.disk.fileTarget]
  cases right.disk.fileTarget path with
  | ok location =>
      have same := (alike.disk.put location (.file ByteArray.empty)).put
        location (.file text.toUTF8)
      exact agrees_bind (agrees_setDisk same) finish
  | error reason => exact agrees_bind (steady_throw _) finish

theorem steady_writeFile (path : Path) (text : String) :
    Steady (writeFile path text) := by
  unfold writeFile
  cases path.folder? with
  | none => exact steady_store path text
  | some folder =>
      exact agrees_bind (steady_createFolders folder _) fun _ =>
        steady_store path text

theorem steady_writeExport (folder : Path) (name text : String) :
    Steady (writeExport folder name text) :=
  agrees_bind (steady_createFolders _ _) fun _ =>
    agrees_bind (steady_writeFile _ _) fun _ => steady_pure _

theorem steady_mapM {γ : Type} {action : γ → Action α}
    (each : ∀ item, Steady (action item)) (items : List γ) :
    Steady (items.mapM action) := by
  induction items with
  | nil => exact steady_pure []
  | cons item items induction =>
      rw [List.mapM_cons]
      exact agrees_bind (each item) fun _ =>
        agrees_bind induction fun _ => steady_pure _

theorem steady_forM {γ : Type} {action : γ → Action Unit}
    (each : ∀ item, Steady (action item)) (items : List γ) :
    Steady (items.forM action) := by
  induction items with
  | nil => exact steady_pure _
  | cons item items induction =>
      exact agrees_bind (each item) fun _ => induction

/-! ### Operations of the application -/

theorem steady_loadManifest (path : Path) :
    Steady (loadManifest path) := by
  apply steady_get
  intro left right alike
  rw [alike.application, alike.disk.exists?]
  cases right.application.preset? path with
  | some manifest => exact steady_pure manifest
  | none =>
      dsimp only
      split
      · split
        · exact steady_throw _
        · exact agrees_bind (steady_note _ _) fun _ => steady_pure _
      · apply agrees_bind (steady_read path _)
        intro text
        cases Manifest.parse? text with
        | some manifest => exact steady_pure manifest
        | none => exact agrees_bind (steady_note _ _) fun _ => steady_pure _

theorem steady_openProject (path : Path) :
    Steady (openProject path) := by
  apply agrees_bind (steady_loadManifest path)
  intro manifest
  apply agrees_bind (steady_changeApplication _)
  intro _
  apply steady_get
  intro left right alike
  rw [alike.application]
  exact steady_note _ _

theorem steady_startSession (project : Path) :
    Steady (startSession project) :=
  agrees_bind (steady_note _ _) fun _ => steady_changeSession _

theorem steady_checkGridFile (path : Path) :
    Steady (checkGridFile path) := by
  apply steady_get
  intro left right alike
  rw [alike.application, alike.disk.exists?]
  split
  · exact steady_throw _
  · exact steady_pure _

theorem steady_loadCase (gridFile : Path) :
    Steady (loadCase gridFile) :=
  agrees_bind (steady_checkGridFile _) fun _ => steady_add _

theorem steady_findCase (id : Option Nat) :
    Steady (findCase id) := by
  apply steady_get
  intro left right alike
  rw [alike.application]
  cases right.application.case? id with
  | some found => exact steady_pure found
  | none => exact steady_throw _

theorem steady_replaceCase (id : Option Nat) (gridFile : Path) :
    Steady (replaceCase id gridFile) :=
  agrees_bind (steady_checkGridFile _) fun _ =>
    agrees_bind (steady_findCase _) fun _ =>
      agrees_bind (steady_note _ _) fun _ => steady_changeApplication _

theorem steady_replaceSourceCases (id : Option Nat) (gridFiles : List Path) :
    Steady (replaceSourceCases id gridFiles) := by
  apply agrees_bind (steady_forM steady_checkGridFile gridFiles)
  intro _
  apply steady_get
  intro left right alike
  rw [alike.application]
  cases right.application.caseGroup? id with
  | some group => exact steady_changeApplication _
  | none =>
      cases id with
      | some id => exact steady_throw _
      | none => exact steady_throw _

theorem steady_setTimeStep (id : Option Nat) (timeStep : Nat) :
    Steady (setTimeStep id timeStep) :=
  agrees_bind (steady_findCase _) fun _ => steady_changeApplication _

/-! ### Exports -/

theorem steady_findView (id : Nat) : Steady (findView id) := by
  apply steady_get
  intro left right alike
  rw [alike.application]
  cases right.application.views.find? (·.id == id) with
  | some view => exact steady_pure view
  | none => exact steady_throw _

theorem steady_exportSnapshot (request : SnapshotRequest) (view : View) :
    Steady (exportSnapshot request view) :=
  agrees_bind (steady_findCase _) fun _ => steady_writeExport _ _ _

theorem steady_exportSnapshots (request : SnapshotRequest) :
    Steady (exportSnapshots request) := by
  have capture : Steady
      (do
        request.viewIds.forM fun id => do let _ ← findView id
        ((← get).application.selectedViews request).mapM
          (exportSnapshot request)) := by
    apply agrees_bind
    · exact steady_forM (fun id =>
        agrees_bind (steady_findView id) fun _ => steady_pure _) _
    · intro _
      apply steady_get
      intro left right alike
      rw [alike.application]
      exact steady_mapM (steady_exportSnapshot request) _
  unfold exportSnapshots
  cases request.caseId with
  | none => exact capture
  | some id => exact agrees_bind (steady_findCase (some id)) fun _ => capture

theorem steady_exportProperty (request : PropertyRequest) :
    Steady (exportProperty request) :=
  agrees_bind (steady_findCase _) fun _ =>
    agrees_bind (steady_writeFile _ _) fun _ => steady_pure _

theorem steady_exportWellPaths (request : WellPathRequest) :
    Steady (exportWellPaths request) := by
  apply steady_get
  intro left right alike
  rw [alike.application]
  exact agrees_bind (steady_mapM (fun _ => steady_writeExport _ _ _) _)
    fun _ => steady_pure _

theorem steady_exportVisibleCells (request : CellRequest) :
    Steady (exportVisibleCells request) :=
  agrees_bind (steady_findView _) fun _ => steady_writeExport _ _ _

theorem steady_exportLgrs (request : LgrRequest) :
    Steady (exportLgrs request) := by
  apply agrees_bind (steady_findCase _)
  intro refined
  apply steady_get
  intro left right alike
  rw [alike.application]
  exact steady_mapM (fun _ => steady_writeExport _ _ _) _

end Action

end GridScript
