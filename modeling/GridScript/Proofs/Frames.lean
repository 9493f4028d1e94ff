import GridScript.Proofs.Alike

/-!
# What parts of commands may change

A frame says what may be different after a part of a command has run.  Every
frame allows the files, the journal and the list of written files to grow; some
allow more.  A part that keeps within a frame does so whether it fails or not.
An atomic part changes nothing else when it fails.
-/

namespace GridScript

namespace Workspace

/-- The second workspace differs from the first one in no more than its files,
its journal, and files at the end of the list of written ones. -/
structure OnlyWrites (before after : Workspace) : Prop where
  session : after.session = before.session
  application :
    { after.application with written := before.application.written } =
      before.application
  written : before.application.written <+: after.application.written

theorem OnlyWrites.trans {first second third : Workspace}
    (left : first.OnlyWrites second) (right : second.OnlyWrites third) :
    first.OnlyWrites third := by
  refine ⟨right.session.trans left.session, ?_,
    left.written.trans right.written⟩
  rw [← left.application, ← right.application]

theorem OnlyWrites.of_eq {before after : Workspace}
    (session : after.session = before.session)
    (application : after.application = before.application) :
    before.OnlyWrites after := by
  constructor
  · exact session
  · rw [application]
  · simp only [application, List.prefix_refl]

theorem OnlyWrites.refl (workspace : Workspace) :
    workspace.OnlyWrites workspace :=
  .of_eq rfl rfl

theorem OnlyWrites.project {before after : Workspace}
    (writes : before.OnlyWrites after) :
    after.application.project = before.application.project := by
  rw [← writes.application]

theorem OnlyWrites.application_eq {before after : Workspace}
    (writes : before.OnlyWrites after) :
    after.application =
      { before.application with written := after.application.written } := by
  rw [← writes.application]

/-- The same project is open and the export folders are the same. -/
structure SameProject (before after : Workspace) : Prop where
  application : after.application.project = before.application.project
  session : after.session.lastProject = before.session.lastProject
  folders : after.session.exportPaths = before.session.exportPaths

theorem SameProject.trans {first second third : Workspace}
    (left : first.SameProject second) (right : second.SameProject third) :
    first.SameProject third :=
  ⟨right.application.trans left.application,
    right.session.trans left.session, right.folders.trans left.folders⟩

theorem OnlyWrites.sameProject {before after : Workspace}
    (writes : before.OnlyWrites after) : before.SameProject after :=
  ⟨writes.project, congrArg Session.lastProject writes.session,
    congrArg Session.exportPaths writes.session⟩

end Workspace

/-- What may be different after a part of a command.  What writing files changes
always may, and one part may follow another. -/
structure Frame where
  Allows : Workspace → Workspace → Prop
  trans : ∀ {first second third : Workspace},
    Allows first second → Allows second third → Allows first third
  writes : ∀ {before after : Workspace},
    before.OnlyWrites after → Allows before after

namespace Frame

/-- Only files are written. -/
def writing : Frame where
  Allows := Workspace.OnlyWrites
  trans := Workspace.OnlyWrites.trans
  writes := id

/-- The project stays open, and the export folders stay set. -/
def sameProject : Frame where
  Allows := Workspace.SameProject
  trans := Workspace.SameProject.trans
  writes := Workspace.OnlyWrites.sameProject

/-- The session is the same, and no other project than this one was opened. -/
def reopening (project : Path) : Frame where
  Allows before after :=
    after.session = before.session ∧
      (after.application.project = before.application.project ∨
        after.application.project = some project)
  trans left right := by
    refine ⟨right.1.trans left.1, ?_⟩
    rcases right.2 with same | opened
    · rw [same]
      exact left.2
    · exact .inr opened
  writes writes := ⟨writes.session, .inl writes.project⟩

end Frame

/-- Whether the command would have needed an open project. -/
def CommandError.wantsProject : CommandError → Bool
  | .projectNotOpen _ => true
  | _ => false

namespace Action

variable {α β γ : Type} {frame : Frame}

theorem run_bind_ok {first : Action α} {before middle : Workspace} {value : α}
    (ran : first.run.run before = (.ok value, middle)) (next : α → Action β) :
    (first >>= next).run.run before = (next value).run.run middle := by
  rw [ExceptT.run_bind, StateT.run_bind, ran]
  rfl

theorem run_bind_error {first : Action α} {before middle : Workspace}
    {cause : CommandError}
    (ran : first.run.run before = (.error cause, middle))
    (next : α → Action β) :
    (first >>= next).run.run before = (.error cause, middle) := by
  rw [ExceptT.run_bind, StateT.run_bind, ran]
  rfl

theorem exists_of_run_bind {first : Action α} {next : α → Action β}
    {before after : Workspace} {result : β}
    (ran : (first >>= next).run.run before = (.ok result, after)) :
    ∃ value middle, first.run.run before = (.ok value, middle) ∧
      (next value).run.run middle = (.ok result, after) := by
  rcases begun : first.run.run before with ⟨answer, middle⟩
  cases answer with
  | ok value =>
      rw [run_bind_ok begun] at ran
      exact ⟨value, middle, rfl, ran⟩
  | error cause =>
      rw [run_bind_error begun] at ran
      cases ran

/-! ### Keeping within a frame -/

/-- Whatever comes of the action, it changes no more than the frame allows, and
it does not fail for want of a project. -/
def Within (frame : Frame) (action : Action α) : Prop :=
  ∀ before : Workspace, frame.Allows before (action.run.run before).2 ∧
    ∀ cause, (action.run.run before).1 = .error cause →
      cause.wantsProject = false

theorem Within.allows {action : Action α} (within : Within frame action)
    {before after : Workspace} {answer : Except CommandError α}
    (ran : action.run.run before = (answer, after)) :
    frame.Allows before after := by
  have allowed := (within before).1
  rw [ran] at allowed
  exact allowed

theorem within_pure (value : α) : Within frame (pure value : Action α) :=
  fun before => ⟨frame.writes (.refl before), nofun⟩

theorem within_throw {cause : CommandError}
    (other : cause.wantsProject = false) :
    Within frame (throw cause : Action α) := by
  intro before
  refine ⟨frame.writes (.refl before), ?_⟩
  intro thrown same
  cases same
  exact other

theorem within_bind {first : Action α} {next : α → Action β}
    (start : Within frame first)
    (continues : ∀ value, Within frame (next value)) :
    Within frame (first >>= next) := by
  intro before
  have begun := start before
  rcases ran : first.run.run before with ⟨answer, middle⟩
  rw [ran] at begun
  cases answer with
  | ok value =>
      rw [run_bind_ok ran]
      obtain ⟨allowed, other⟩ := continues value middle
      exact ⟨frame.trans begun.1 allowed, other⟩
  | error cause =>
      rw [run_bind_error ran]
      refine ⟨begun.1, ?_⟩
      intro thrown same
      cases same
      exact begun.2 cause rfl

theorem within_get {next : Workspace → Action α}
    (continues : ∀ workspace, Within frame (next workspace)) :
    Within frame (get >>= next) :=
  fun before => continues before before

theorem within_modify {change : Workspace → Workspace}
    (allowed : ∀ before, frame.Allows before (change before)) :
    Within frame (modify change : Action Unit) :=
  fun before => ⟨allowed before, nofun⟩

theorem within_mapM {action : γ → Action α}
    (each : ∀ item, Within frame (action item)) (items : List γ) :
    Within frame (items.mapM action) := by
  induction items with
  | nil => exact within_pure []
  | cons item items induction =>
      rw [List.mapM_cons]
      apply within_bind (each item)
      intro _
      apply within_bind induction
      intro _
      exact within_pure _

theorem within_forM {action : γ → Action Unit}
    (each : ∀ item, Within frame (action item)) (items : List γ) :
    Within frame (items.forM action) := by
  induction items with
  | nil => exact within_pure _
  | cons item items induction =>
      exact within_bind (each item) fun _ => induction

/-! ### Actions that cannot fail, and actions that fail without a trace -/

/-- The action always gives a value, and a fine one. -/
def Succeeds (Fine : α → Prop) (action : Action α) : Prop :=
  ∀ before : Workspace, ∃ value,
    (action.run.run before).1 = .ok value ∧ Fine value

theorem succeeds_pure {Fine : α → Prop} {value : α} (fine : Fine value) :
    Succeeds Fine (pure value : Action α) :=
  fun _ => ⟨value, rfl, fine⟩

theorem succeeds_modify (change : Workspace → Workspace) :
    Succeeds (fun _ => True) (modify change : Action Unit) :=
  fun _ => ⟨(), rfl, trivial⟩

theorem succeeds_get {Fine : α → Prop} {next : Workspace → Action α}
    (continues : ∀ workspace, Succeeds Fine (next workspace)) :
    Succeeds Fine (get >>= next) :=
  fun before => continues before before

theorem succeeds_bind {Given : α → Prop} {Fine : β → Prop}
    {first : Action α} {next : α → Action β} (start : Succeeds Given first)
    (continues : ∀ value, Succeeds Fine (next value)) :
    Succeeds Fine (first >>= next) := by
  intro before
  obtain ⟨value, given, _⟩ := start before
  have ran : first.run.run before =
      (.ok value, (first.run.run before).2) := Prod.ext given rfl
  rw [run_bind_ok ran]
  exact continues value _

/-- Either the action gives a fine value, or it fails and has changed nothing
but what it wrote. -/
def Atomic (Fine : α → Prop) (action : Action α) : Prop :=
  ∀ before : Workspace,
    (∃ value, (action.run.run before).1 = .ok value ∧ Fine value) ∨
      (∃ cause, (action.run.run before).1 = .error cause) ∧
        before.OnlyWrites (action.run.run before).2

theorem Atomic.fine {Fine : α → Prop} {action : Action α}
    (atomic : Atomic Fine action) {before : Workspace} {value : α}
    (given : (action.run.run before).1 = .ok value) : Fine value := by
  rcases atomic before with ⟨other, same, fine⟩ | ⟨⟨cause, failed⟩, _⟩
  · rw [given] at same
    cases same
    exact fine
  · rw [given] at failed
    cases failed

theorem atomic_of_succeeds {Fine : α → Prop} {action : Action α}
    (succeeds : Succeeds Fine action) : Atomic Fine action :=
  fun before => .inl (succeeds before)

theorem atomic_throw {Fine : α → Prop} (cause : CommandError) :
    Atomic Fine (throw cause : Action α) :=
  fun before => .inr ⟨⟨cause, rfl⟩, .refl before⟩

theorem atomic_get {Fine : α → Prop} {next : Workspace → Action α}
    (continues : ∀ workspace, Atomic Fine (next workspace)) :
    Atomic Fine (get >>= next) :=
  fun before => continues before before

/-- What has only written may go before what is atomic. -/
theorem atomic_bind {Fine : β → Prop} {first : Action α} {next : α → Action β}
    (start : Within .writing first)
    (continues : ∀ value, Atomic Fine (next value)) :
    Atomic Fine (first >>= next) := by
  intro before
  rcases ran : first.run.run before with ⟨answer, middle⟩
  have begun : before.OnlyWrites middle := start.allows ran
  cases answer with
  | ok value =>
      rw [run_bind_ok ran]
      rcases continues value middle with given | ⟨failed, writes⟩
      · exact .inl given
      · exact .inr ⟨failed, begun.trans writes⟩
  | error cause =>
      rw [run_bind_error ran]
      exact .inr ⟨⟨cause, rfl⟩, begun⟩

/-- What cannot fail may follow what is atomic. -/
theorem atomic_then {Given : α → Prop} {Fine : β → Prop} {first : Action α}
    {next : α → Action β} (start : Atomic Given first)
    (continues : ∀ value, Succeeds Fine (next value)) :
    Atomic Fine (first >>= next) := by
  intro before
  have begun := start before
  rcases ran : first.run.run before with ⟨answer, middle⟩
  rw [ran] at begun
  cases answer with
  | ok value =>
      rw [run_bind_ok ran]
      exact .inl (continues value middle)
  | error cause =>
      rw [run_bind_error ran]
      rcases begun with ⟨value, given, _⟩ | ⟨_, writes⟩
      · cases given
      · exact .inr ⟨⟨cause, rfl⟩, writes⟩

/-! ### Operations on the workspace -/

theorem within_note (level : Level) (text : String) :
    Within frame (note level text) :=
  within_modify fun _ => frame.writes (.of_eq rfl rfl)

theorem within_print (text : String) : Within frame (print text) := by
  apply within_get
  intro workspace
  split
  · exact within_note _ _
  · exact within_pure _

theorem succeeds_print (text : String) :
    Succeeds (fun _ => True) (print text) := by
  apply succeeds_get
  intro workspace
  split
  · exact succeeds_modify _
  · exact succeeds_pure trivial

theorem succeeds_add (change : Application → Nat × Application) :
    Succeeds (fun _ => True) (add change) :=
  fun _ => ⟨_, rfl, trivial⟩

theorem within_setDisk (disk : Disk) :
    Within frame
      (modify fun workspace => { workspace with disk } : Action Unit) :=
  within_modify fun _ => frame.writes (.of_eq rfl rfl)

theorem within_createFolders (path : Path) {cause : DiskError → CommandError}
    (other : ∀ reason, (cause reason).wantsProject = false) :
    Within frame (createFolders path cause) := by
  apply within_get
  intro workspace
  apply within_bind (within_setDisk _)
  intro _
  split
  · exact within_pure _
  · exact within_throw (other _)

theorem within_read (path : Path) {cause : DiskError → CommandError}
    (other : ∀ reason, (cause reason).wantsProject = false) :
    Within frame (read path cause) := by
  apply within_get
  intro workspace
  split
  · exact within_pure _
  · exact within_throw (other _)

theorem within_resolve (text : String) : Within frame (resolve text) :=
  within_get fun _ => within_pure _

/-- The file that was written comes last in the list. -/
theorem within_remember (path : Path) :
    Within frame (changeApplication fun app =>
      { app with written := app.written ++ [path] }) :=
  within_modify fun _ =>
    frame.writes ⟨rfl, rfl, List.prefix_append _ _⟩

theorem within_store (path : Path) (text : String) :
    Within frame (store path text) := by
  have finish : ∀ _ : Unit, Within frame
      (do
        note .debug ("wrote " ++ path.text)
        changeApplication fun app =>
          { app with written := app.written ++ [path] }) :=
    fun _ => within_bind (within_note _ _) fun _ => within_remember path
  apply within_get
  intro workspace
  split
  · exact within_bind (within_setDisk _) finish
  · exact within_bind (within_throw rfl) finish

theorem within_writeFile (path : Path) (text : String) :
    Within frame (writeFile path text) := by
  unfold writeFile
  cases path.folder? with
  | none => exact within_store path text
  | some folder =>
      exact within_bind (within_createFolders folder fun _ => rfl) fun _ =>
        within_store path text

theorem within_writeExport (folder : Path) (name text : String) :
    Within frame (writeExport folder name text) := by
  apply within_bind (within_createFolders folder fun _ => rfl)
  intro _
  apply within_bind (within_writeFile _ text)
  intro _
  exact within_pure _

/-! ### Operations of the application -/

theorem within_loadManifest (path : Path) :
    Within frame (loadManifest path) := by
  apply within_get
  intro workspace
  split
  · exact within_pure _
  · dsimp only
    split
    · split
      · exact within_throw rfl
      · exact within_bind (within_note _ _) fun _ => within_pure _
    · apply within_bind (within_read path fun _ => rfl)
      intro text
      split
      · exact within_pure _
      · exact within_bind (within_note _ _) fun _ => within_pure _

theorem within_checkGridFile (path : Path) :
    Within frame (checkGridFile path) := by
  apply within_get
  intro workspace
  split
  · exact within_throw rfl
  · exact within_pure _

theorem within_findCase (id : Option Nat) : Within frame (findCase id) := by
  apply within_get
  intro workspace
  split
  · exact within_pure _
  · exact within_throw rfl

theorem within_openProject {path : Path}
    (allowed : ∀ (before : Workspace) (manifest : Manifest),
      frame.Allows before { before with
        application := before.application.withProject path manifest }) :
    Within frame (openProject path) := by
  apply within_bind (within_loadManifest path)
  intro manifest
  apply within_bind
  · exact within_modify fun before => allowed before manifest
  · intro _
    exact within_get fun _ => within_note _ _

/-- A case that is given another grid keeps its number. -/
theorem within_replaceCase {id : Option Nat} {gridFile : Path}
    (allowed : ∀ (before : Workspace) (change : GridCase → GridCase),
      (∀ c, (change c).id = c.id) → frame.Allows before { before with
        application := before.application.changeCase id change }) :
    Within frame (replaceCase id gridFile) := by
  apply within_bind (within_checkGridFile gridFile)
  intro _
  apply within_bind (within_findCase id)
  intro found
  apply within_bind (within_note _ _)
  intro _
  exact within_modify fun before => allowed before _ fun _ => rfl

theorem within_replaceSourceCases {id : Option Nat} {gridFiles : List Path}
    (allowed : ∀ (before : Workspace) (change : CaseGroup → CaseGroup),
      (∀ g, (change g).id = g.id) → frame.Allows before { before with
        application := before.application.changeCaseGroup id change }) :
    Within frame (replaceSourceCases id gridFiles) := by
  apply within_bind (within_forM within_checkGridFile gridFiles)
  intro _
  apply within_get
  intro workspace
  split
  · exact within_modify fun before => allowed before _ fun _ => rfl
  · exact within_throw rfl
  · exact within_throw rfl

theorem within_loadCase {gridFile : Path}
    (allowed : ∀ before : Workspace, frame.Allows before { before with
      application := (before.application.addCase gridFile).2 }) :
    Within frame (loadCase gridFile) := by
  apply within_bind (within_checkGridFile gridFile)
  intro _
  exact fun before => ⟨allowed before, nofun⟩

theorem within_setTimeStep {id : Option Nat} {timeStep : Nat}
    (allowed : ∀ (before : Workspace) (change : GridCase → GridCase),
      (∀ c, (change c).id = c.id) → frame.Allows before { before with
        application := before.application.changeCase id change }) :
    Within frame (setTimeStep id timeStep) := by
  apply within_bind (within_findCase id)
  intro found
  exact within_modify fun before => allowed before _ fun _ => rfl

/-! ### Exports -/

theorem within_findView (id : Nat) : Within frame (findView id) := by
  apply within_get
  intro workspace
  split
  · exact within_pure _
  · exact within_throw rfl

theorem within_exportSnapshot (request : SnapshotRequest) (view : View) :
    Within frame (exportSnapshot request view) :=
  within_bind (within_findCase _) fun _ => within_writeExport _ _ _

theorem within_exportSnapshots (request : SnapshotRequest) :
    Within frame (exportSnapshots request) := by
  have capture : Within frame
      (do
        request.viewIds.forM fun id => do let _ ← findView id
        ((← get).application.selectedViews request).mapM
          (exportSnapshot request)) := by
    apply within_bind
    · apply within_forM
      intro id
      exact within_bind (within_findView id) fun _ => within_pure _
    · intro _
      apply within_get
      intro workspace
      exact within_mapM (within_exportSnapshot request) _
  unfold exportSnapshots
  cases request.caseId with
  | none => exact capture
  | some id => exact within_bind (within_findCase (some id)) fun _ => capture

theorem within_exportProperty (request : PropertyRequest) :
    Within frame (exportProperty request) := by
  apply within_bind (within_findCase request.caseId)
  intro exported
  apply within_bind (within_writeFile request.file _)
  intro _
  exact within_pure _

theorem within_exportWellPaths (request : WellPathRequest) :
    Within frame (exportWellPaths request) := by
  apply within_get
  intro workspace
  apply within_bind
  · exact within_mapM (fun _ => within_writeExport _ _ _) _
  · intro files
    exact within_pure _

theorem within_exportVisibleCells (request : CellRequest) :
    Within frame (exportVisibleCells request) :=
  within_bind (within_findView _) fun _ => within_writeExport _ _ _

theorem within_exportLgrs (request : LgrRequest) :
    Within frame (exportLgrs request) := by
  apply within_bind (within_findCase request.caseId)
  intro refined
  apply within_get
  intro workspace
  exact within_mapM (fun _ => within_writeExport _ _ _) _

end Action

end GridScript
