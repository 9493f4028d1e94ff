import GridScript.Builtin.Registry
import GridScript.Proofs.Frames

/-!
# Built-in commands that fail have changed nothing

Every built-in command first reads its arguments and makes its checks, and then
changes the application and the session in steps that cannot fail.  So an error
leaves both as they were, but for files that were written before it.  Exports
never change anything else.  The exception is the command that opens the project
again for each grid of a list: it may fail for one grid and go on with the next,
but it leaves the session alone.
-/

namespace GridScript

namespace Command

variable {action : Arguments → Action Response} {arguments : Arguments}
  {before : Workspace}

/-- The command answers with what its action gives, or with the reason that it
fails for. -/
theorem run_ofAction :
    (ofAction action arguments).run before =
      let done := (action arguments).run.run before
      (match done.1 with
        | .ok response => response
        | .error cause => Response.ofError cause, done.2) := by
  rcases ran : (action arguments).run.run before with ⟨answer, after⟩
  rw [ofAction, StateT.run_bind, ran]
  cases answer with
  | ok response => rfl
  | error cause => rfl

/-- A command that answers without an error has done all that it does. -/
theorem exists_of_not_isError
    (fine : ((ofAction action arguments).run before).1.isError = false) :
    ∃ response, (action arguments).run.run before =
      (.ok response, ((ofAction action arguments).run before).2) := by
  rw [run_ofAction] at fine ⊢
  generalize (action arguments).run.run before = done at fine ⊢
  obtain ⟨answer, after⟩ := done
  cases answer with
  | ok response => exact ⟨response, rfl⟩
  | error cause => cases fine

end Command

/-- The response is no error. -/
def Response.NoError (response : Response) : Prop :=
  response.isError = false

namespace Builtin

open GridScript.Action

variable {α : Type} {frame : Frame}

/-! ### Reading arguments -/

theorem within_requiredText (arguments : Arguments) (name : String) :
    Within frame (requiredText arguments name) := by
  unfold requiredText
  split
  · split
    · exact within_throw rfl
    · exact within_pure _
  · exact within_throw rfl

theorem within_requiredPath (arguments : Arguments) (name : String) :
    Within frame (requiredPath arguments name) :=
  within_bind (within_requiredText _ _) fun _ => within_resolve _

theorem within_nonNegative (arguments : Arguments) (name : String) :
    Within frame (nonNegative arguments name) := by
  unfold nonNegative
  dsimp only
  split
  · exact within_throw rfl
  · exact within_pure _

theorem within_refinement (arguments : Arguments) (name : String) :
    Within frame (refinement arguments name) := by
  unfold refinement
  dsimp only
  split
  · exact within_pure _
  · exact within_throw rfl

theorem within_readGridList (path : Path) :
    Within frame (readGridList path) := by
  apply within_bind (within_read path fun _ => rfl)
  intro text
  dsimp only
  split
  · exact within_throw rfl
  · exact within_pure _

section

variable {keyword : String} {before : Workspace}

theorem run_requireProject :
    (requireProject keyword).run.run before =
      (match before.session.lastProject with
        | some project => .ok project
        | none => .error (.projectNotOpen keyword), before) := by
  have shape : (requireProject keyword).run.run before =
      (match before.session.lastProject with
        | some project => pure project
        | none => throw (.projectNotOpen keyword) : Action Path).run.run
          before := rfl
  rw [shape]
  cases before.session.lastProject with
  | some project => rfl
  | none => rfl

theorem run_requireProject_none (closed : before.session.lastProject = none)
    (next : Path → Action α) :
    (requireProject keyword >>= next).run.run before =
      (.error (.projectNotOpen keyword), before) := by
  apply run_bind_error
  rw [run_requireProject, closed]

theorem run_requireProject_some {project : Path}
    (isOpen : before.session.lastProject = some project)
    (next : Path → Action α) :
    (requireProject keyword >>= next).run.run before =
      (next project).run.run before := by
  apply run_bind_ok
  rw [run_requireProject, isOpen]

end

/-- Where no project is open, nothing happens. -/
theorem allows_requireProject {keyword : String} {next : Path → Action α}
    {before : Workspace}
    (allows : ∀ project, before.session.lastProject = some project →
      frame.Allows before
        ((requireProject keyword >>= next).run.run before).2) :
    frame.Allows before
      ((requireProject keyword >>= next).run.run before).2 := by
  cases status : before.session.lastProject with
  | none =>
      rw [run_requireProject_none status]
      exact frame.writes (.refl before)
  | some project => exact allows project status

theorem atomic_requireProject {Fine : α → Prop} {keyword : String}
    {next : Path → Action α}
    (continues : ∀ project, Atomic Fine (next project)) :
    Atomic Fine (requireProject keyword >>= next) := by
  intro before
  cases status : before.session.lastProject with
  | none =>
      rw [run_requireProject_none status]
      exact .inr ⟨⟨_, rfl⟩, .refl before⟩
  | some project =>
      rw [run_requireProject_some status]
      exact continues project before

/-! ### Exports -/

theorem within_exportSnapshots (arguments : Arguments) :
    Within frame (runExportSnapshots arguments) := by
  unfold runExportSnapshots
  dsimp only
  split
  · apply within_get
    intro workspace
    apply within_bind (Action.within_exportSnapshots _)
    intro files
    split
    · exact within_pure _
    · exact within_bind (within_print _) fun _ => within_pure _
  · exact within_throw rfl

theorem within_exportProperty (arguments : Arguments) :
    Within frame (runExportProperty arguments) := by
  apply within_bind (within_requiredText _ _)
  intro property
  apply within_bind (within_nonNegative _ _)
  intro timeStep
  apply within_get
  intro workspace
  apply within_bind (Action.within_exportProperty _)
  intro written
  exact within_bind (within_print _) fun _ => within_pure _

theorem within_exportWellPaths (arguments : Arguments) :
    Within frame (runExportWellPaths arguments) := by
  unfold runExportWellPaths
  dsimp only
  split
  · exact within_throw rfl
  · apply within_get
    intro workspace
    apply within_bind (Action.within_exportWellPaths _)
    intro report
    split
    · exact within_pure _
    · exact within_bind (within_note _ _) fun _ => within_pure _

theorem within_exportVisibleCells (arguments : Arguments) :
    Within frame (runExportVisibleCells arguments) := by
  unfold runExportVisibleCells
  split
  · apply within_get
    intro workspace
    exact within_bind (Action.within_exportVisibleCells _) fun _ =>
      within_pure _
  · exact within_throw rfl

theorem within_exportLgrForCompletions (arguments : Arguments) :
    Within frame (runExportLgrForCompletions arguments) := by
  apply within_bind (within_nonNegative _ _)
  intro timeStep
  apply within_bind (within_refinement _ _)
  intro i
  apply within_bind (within_refinement _ _)
  intro j
  apply within_bind (within_refinement _ _)
  intro k
  apply within_get
  intro workspace
  exact within_bind (Action.within_exportLgrs _) fun _ => within_pure _

/-- The commands that do nothing but write files. -/
def exports : List Command :=
  [exportSnapshots, exportProperty, exportWellPaths, exportVisibleCells,
    exportLgrForCompletions]

theorem within_run_exports {command : Command} (member : command ∈ exports)
    (arguments : Arguments) (before : Workspace) :
    frame.Allows before ((command.run arguments).run before).2 := by
  have all : ∀ {action : Arguments → Action Response},
      Within frame (action arguments) →
        frame.Allows before
          ((Command.ofAction action arguments).run before).2 := by
    intro action within
    rw [Command.run_ofAction]
    exact (within before).1
  simp only [exports, List.mem_cons, List.not_mem_nil, or_false] at member
  rcases member with rfl | rfl | rfl | rfl | rfl
  · exact all (within_exportSnapshots arguments)
  · exact all (within_exportProperty arguments)
  · exact all (within_exportWellPaths arguments)
  · exact all (within_exportVisibleCells arguments)
  · exact all (within_exportLgrForCompletions arguments)

/-! ### Snapshots of many grids -/

theorem within_snapshotGrid {project : Path}
    (opening : ∀ (before : Workspace) (manifest : Manifest),
      frame.Allows before { before with
        application := before.application.withProject project manifest })
    (replacing : ∀ (before : Workspace) (change : GridCase → GridCase),
      (∀ c, (change c).id = c.id) → frame.Allows before { before with
        application := before.application.changeCase none change })
    (grid : Path) : Within frame (snapshotGrid project grid) := by
  apply within_bind (within_openProject opening)
  intro _
  apply within_bind (within_replaceCase replacing)
  intro _
  apply within_get
  intro workspace
  exact Action.within_exportSnapshots _

/-- Going through grids keeps within what each grid keeps within. -/
theorem within_snapshotGrids {project : Path}
    (each : ∀ grid, Within frame (snapshotGrid project grid))
    (response : Response) (grids : List Path) :
    Within frame (snapshotGrids project response grids : Action _) := by
  intro before
  refine ⟨?_, nofun⟩
  change frame.Allows before
    ((snapshotGrids project response grids).run before).2
  induction grids generalizing response before with
  | nil => exact frame.writes (.refl before)
  | cons grid grids induction =>
      have first := (each grid before).1
      rcases ran : (snapshotGrid project grid).run.run before with
        ⟨answer, middle⟩
      rw [ran] at first
      rw [snapshotGrids, StateT.run_bind, ran]
      -- A grid that fails changes the response only; the next one follows.
      cases answer with
      | ok files => exact frame.trans first (induction response middle)
      | error cause => exact frame.trans first (induction _ middle)

section

variable {arguments : Arguments} {before : Workspace}

theorem within_exportMultiCaseSnapshots {project : Path}
    (isOpen : before.session.lastProject = some project)
    (each : ∀ grid, Within frame (snapshotGrid project grid)) :
    let done := (runExportMultiCaseSnapshots arguments).run.run before
    frame.Allows before done.2 ∧
      ∀ cause, done.1 = .error cause → cause.wantsProject = false := by
  rw [runExportMultiCaseSnapshots, run_requireProject_some isOpen]
  refine within_bind (within_requiredPath _ _) (fun path => ?_) before
  apply within_bind (within_readGridList path)
  intro grids
  apply within_bind (within_snapshotGrids each .ok grids)
  intro done
  exact within_bind (within_print _) fun _ => within_pure _

/-- The project that is open is opened again, and no other one. -/
theorem reopening_exportMultiCaseSnapshots {project : Path}
    (isOpen : before.session.lastProject = some project) :
    let done := (runExportMultiCaseSnapshots arguments).run.run before
    (Frame.reopening project).Allows before done.2 ∧
      ∀ cause, done.1 = .error cause → cause.wantsProject = false :=
  within_exportMultiCaseSnapshots isOpen <|
    within_snapshotGrid (fun _ _ => ⟨rfl, .inr rfl⟩)
      (fun _ _ _ => ⟨rfl, .inl rfl⟩)

theorem session_exportMultiCaseSnapshots :
    ((exportMultiCaseSnapshots.run arguments).run before).2.session =
      before.session := by
  change ((Command.ofAction runExportMultiCaseSnapshots arguments).run
    before).2.session = before.session
  rw [Command.run_ofAction]
  dsimp only
  cases status : before.session.lastProject with
  | none =>
      rw [runExportMultiCaseSnapshots, run_requireProject_none status]
  | some project => exact (reopening_exportMultiCaseSnapshots status).1.1

end

/-! ### Commands that change the application or the session -/

theorem atomic_openProject (arguments : Arguments) :
    Atomic Response.NoError (runOpenProject arguments) := by
  apply atomic_bind (within_requiredPath _ _)
  intro path
  apply atomic_then
  · apply atomic_bind (within_loadManifest path)
    intro manifest
    apply atomic_of_succeeds
    apply succeeds_bind (succeeds_modify _)
    intro _
    exact succeeds_get fun _ => succeeds_modify _
  · intro _
    apply succeeds_bind
    · exact succeeds_bind (succeeds_modify _) fun _ => succeeds_modify _
    · intro _
      exact succeeds_bind (succeeds_print _) fun _ => succeeds_pure rfl

theorem succeeds_closeProject :
    Succeeds Response.NoError runCloseProject := by
  apply succeeds_get
  intro workspace
  split
  · exact succeeds_pure rfl
  · apply succeeds_bind (succeeds_modify _)
    intro _
    exact succeeds_bind (succeeds_modify _) fun _ => succeeds_pure rfl

theorem atomic_setStartDir (arguments : Arguments) :
    Atomic Response.NoError (runSetStartDir arguments) := by
  apply atomic_bind (within_requiredPath _ _)
  intro folder
  apply atomic_of_succeeds
  apply succeeds_get
  intro workspace
  apply succeeds_bind (succeeds_modify _)
  intro _
  split
  · exact succeeds_pure rfl
  · exact succeeds_pure rfl

theorem atomic_loadCase (arguments : Arguments) :
    Atomic Response.NoError (runLoadCase arguments) := by
  apply atomic_bind (within_requiredPath _ _)
  intro path
  apply atomic_then
  · apply atomic_bind (within_checkGridFile path)
    intro _
    exact atomic_of_succeeds (succeeds_add _)
  · intro id
    exact succeeds_bind (succeeds_print _) fun _ => succeeds_pure rfl

theorem atomic_replaceCase (arguments : Arguments) :
    Atomic Response.NoError (runReplaceCase arguments) := by
  apply atomic_requireProject
  intro project
  apply atomic_bind (within_requiredPath _ _)
  intro grid
  apply atomic_then
  · apply atomic_bind (within_checkGridFile grid)
    intro _
    apply atomic_bind (within_findCase _)
    intro found
    apply atomic_of_succeeds
    exact succeeds_bind (succeeds_modify _) fun _ => succeeds_modify _
  · intro _
    exact succeeds_pure rfl

theorem atomic_replaceSourceCases (arguments : Arguments) :
    Atomic Response.NoError (runReplaceSourceCases arguments) := by
  apply atomic_requireProject
  intro project
  apply atomic_bind (within_requiredPath _ _)
  intro path
  apply atomic_bind (within_readGridList path)
  intro grids
  apply atomic_then
  · apply atomic_bind (within_forM within_checkGridFile grids)
    intro _
    apply atomic_get
    intro workspace
    split
    · exact atomic_of_succeeds (succeeds_modify _)
    · exact atomic_throw _
    · exact atomic_throw _
  · intro _
    exact succeeds_bind (succeeds_print _) fun _ => succeeds_pure rfl

theorem atomic_setTimeStep (arguments : Arguments) :
    Atomic Response.NoError (runSetTimeStep arguments) := by
  apply atomic_bind (within_nonNegative _ _)
  intro timeStep
  apply atomic_then
  · apply atomic_bind (within_findCase _)
    intro found
    exact atomic_of_succeeds (succeeds_modify _)
  · intro _
    exact succeeds_pure rfl

/-- The end of setting an export folder, once the folder is there or need not
be. -/
def setFolder (kind : ExportKind) (folder : Path) (known : Bool) :
    Action Response := do
  Action.print (" " ++ kind.scriptName ++ " exports go to \"" ++ folder.text ++
    "\"")
  Action.changeSession (·.setExportPath kind folder)
  if known then return .ok
  return .warning ("export folder " ++ folder.text ++ " does not exist")

theorem succeeds_setFolder (kind : ExportKind) (folder : Path) (known : Bool) :
    Succeeds Response.NoError (setFolder kind folder known) := by
  apply succeeds_bind (succeeds_print _)
  intro _
  apply succeeds_bind (succeeds_modify _)
  intro _
  split
  · exact succeeds_pure rfl
  · exact succeeds_pure rfl

theorem atomic_setExportFolder (arguments : Arguments) :
    Atomic Response.NoError (runSetExportFolder arguments) := by
  unfold runSetExportFolder
  dsimp only
  split
  · rename_i kind _
    apply atomic_bind (within_requiredPath _ _)
    intro folder
    apply atomic_get
    intro workspace
    split
    · apply atomic_bind (within_createFolders folder fun _ => rfl)
      intro _
      exact atomic_of_succeeds (succeeds_setFolder kind folder _)
    · exact atomic_of_succeeds (succeeds_setFolder kind folder _)
  · exact atomic_throw _

/-! ### All commands -/

theorem onlyWrites_ofAction {action : Arguments → Action Response}
    {arguments : Arguments}
    (atomic : Atomic Response.NoError (action arguments)) (before : Workspace)
    (failed : ((Command.ofAction action arguments).run before).1.isError =
      true) :
    before.OnlyWrites ((Command.ofAction action arguments).run before).2 := by
  rw [Command.run_ofAction] at failed ⊢
  dsimp only at failed ⊢
  rcases atomic before with ⟨response, given, fine⟩ | ⟨_, writes⟩
  · rw [given] at failed
    exact absurd failed (Bool.eq_false_iff.mp fine)
  · exact writes

/-- A built-in command that fails has only written files, unless it is the one
that goes through many grids. -/
theorem onlyWrites_of_isError {command : Command}
    (builtin : command ∈ commands)
    (single : command ≠ exportMultiCaseSnapshots) (arguments : Arguments)
    (before : Workspace)
    (failed : ((command.run arguments).run before).1.isError = true) :
    before.OnlyWrites ((command.run arguments).run before).2 := by
  have exporting : command ∈ exports →
      Frame.writing.Allows before ((command.run arguments).run before).2 :=
    fun member => within_run_exports member arguments before
  simp only [commands, List.mem_cons, List.not_mem_nil, or_false] at builtin
  rcases builtin with rfl | rfl | rfl | rfl | rfl | rfl | rfl | rfl | rfl |
    rfl | rfl | rfl | rfl | rfl
  · exact onlyWrites_ofAction (atomic_openProject arguments) before failed
  · have atomic := atomic_of_succeeds succeeds_closeProject
    exact onlyWrites_ofAction atomic before failed
  · exact onlyWrites_ofAction (atomic_setStartDir arguments) before failed
  · exact onlyWrites_ofAction (atomic_loadCase arguments) before failed
  · exact onlyWrites_ofAction (atomic_replaceCase arguments) before failed
  · exact onlyWrites_ofAction (atomic_replaceSourceCases arguments) before
      failed
  · exact onlyWrites_ofAction (atomic_setTimeStep arguments) before failed
  · exact exporting (by simp [exports])
  · exact absurd rfl single
  · exact onlyWrites_ofAction (atomic_setExportFolder arguments) before failed
  · exact exporting (by simp [exports])
  · exact exporting (by simp [exports])
  · exact exporting (by simp [exports])
  · exact exporting (by simp [exports])

/-- An error of a built-in command leaves the session and the application as
they were but for what was written; exports do so whatever they answer, and the
command that goes through many grids leaves the session alone. -/
theorem run_leaves (arguments : Arguments) (before : Workspace) :
    (∀ command ∈ commands, command ≠ exportMultiCaseSnapshots →
      ((command.run arguments).run before).1.isError = true →
        before.OnlyWrites ((command.run arguments).run before).2) ∧
    (∀ command ∈ exports,
      before.OnlyWrites ((command.run arguments).run before).2) ∧
    ((exportMultiCaseSnapshots.run arguments).run before).2.session =
      before.session := by
  refine ⟨?_, ?_, session_exportMultiCaseSnapshots⟩
  · intro command builtin single failed
    exact onlyWrites_of_isError builtin single arguments before failed
  · intro command member
    have allowed : Frame.writing.Allows before
        ((command.run arguments).run before).2 :=
      within_run_exports member arguments before
    exact allowed

/-- An export that fails after its first file. -/
theorem run_leaves_halfway :
    let before : Workspace :=
      { application := { wellPaths := [⟨0, "A"⟩, ⟨1, "B"⟩] }
        disk := (({} : Disk).createFolders ⟨"wellpaths/B.dev"⟩).2 }
    let done := (exportWellPaths.run ⟨[]⟩).run before
    done.1.isError = true ∧ before.OnlyWrites done.2 ∧
      done.2.application.written = [⟨"wellpaths/A.dev"⟩] := by
  intro before done
  have failed : done.1.isError = true := by decide +kernel
  have single : exportWellPaths ≠ exportMultiCaseSnapshots := by
    intro same
    have names := congrArg Command.name same
    revert names
    decide
  have leaves := (run_leaves ⟨[]⟩ before).1 exportWellPaths
    (by simp [commands]) single failed
  exact ⟨failed, leaves, by decide +kernel⟩

end Builtin

end GridScript
