import GridScript.Proofs.Sessions

/-!
# Where exports go while a project is open

Unless a folder was set for them, exports of a kind go next to the project.  A
project that was opened by its bare name has no folder in its path, though, and
then exports go below the start folder, which one command moves.  So that
command moves the exports of such a project, and no other command does.
-/

namespace GridScript

/-! ### The start folder -/

/-- Relative paths start at the same folder, and the folders of exports have the
same names. -/
structure Workspace.SameStart (before after : Workspace) : Prop where
  startFolder : after.session.startFolder = before.session.startFolder
  folderNames : after.session.folderNames = before.session.folderNames

theorem Workspace.SameStart.of_session {before after : Workspace}
    (same : after.session = before.session) : before.SameStart after :=
  ⟨congrArg Session.startFolder same, congrArg Session.folderNames same⟩

/-- The start folder stays where it is. -/
def Frame.sameStart : Frame where
  Allows := Workspace.SameStart
  trans left right :=
    ⟨right.startFolder.trans left.startFolder,
      right.folderNames.trans left.folderNames⟩
  writes writes := .of_session writes.session

namespace Builtin

open GridScript.Action

variable {arguments : Arguments} {before after : Workspace}

theorem sameStart_openProject :
    Within .sameStart (runOpenProject arguments) := by
  apply within_bind (within_requiredPath _ _)
  intro path
  apply within_bind
  · exact within_openProject fun _ _ => ⟨rfl, rfl⟩
  · intro _
    apply within_bind
    · exact within_bind (within_note _ _) fun _ =>
        within_modify fun _ => ⟨rfl, rfl⟩
    · intro _
      exact within_bind (within_print _) fun _ => within_pure _

theorem sameStart_closeProject : Within .sameStart runCloseProject := by
  apply within_get
  intro workspace
  split
  · exact within_pure _
  · apply within_bind
    · exact within_modify fun _ => ⟨rfl, rfl⟩
    · intro _
      apply within_bind
      · exact within_modify fun _ => ⟨rfl, rfl⟩
      · intro _
        exact within_pure _

theorem sameStart_setExportFolder :
    Within .sameStart (runSetExportFolder arguments) := by
  have finish : ∀ kind folder known,
      Within .sameStart (setFolder kind folder known) := by
    intro kind folder known
    apply within_bind (within_print _)
    intro _
    apply within_bind
    · exact within_modify fun _ => ⟨rfl, rfl⟩
    · intro _
      split
      · exact within_pure _
      · exact within_pure _
  unfold runSetExportFolder
  dsimp only
  split
  · apply within_bind (within_requiredPath _ _)
    intro folder
    apply within_get
    intro workspace
    split
    · apply within_bind (within_createFolders folder fun _ => rfl)
      intro _
      exact finish _ _ _
    · exact finish _ _ _
  · exact within_throw rfl

theorem sameStart_loadCase : Within .sameStart (runLoadCase arguments) := by
  apply within_bind (within_requiredPath _ _)
  intro path
  apply within_bind
  · exact within_loadCase fun _ => ⟨rfl, rfl⟩
  · intro id
    exact within_bind (within_print _) fun _ => within_pure _

theorem sameStart_setTimeStep :
    Within .sameStart (runSetTimeStep arguments) := by
  apply within_bind (within_nonNegative _ _)
  intro timeStep
  apply within_bind
  · exact within_setTimeStep fun _ _ _ => ⟨rfl, rfl⟩
  · intro _
    exact within_pure _

theorem sameStart_replaceCase :
    Frame.sameStart.Allows before
      ((runReplaceCase arguments).run.run before).2 := by
  apply allows_requireProject
  intro project isOpen
  rw [run_requireProject_some isOpen]
  refine (within_bind (within_requiredPath _ _) (fun grid => ?_) before).1
  apply within_bind
  · exact within_replaceCase fun _ _ _ => ⟨rfl, rfl⟩
  · intro _
    exact within_pure _

theorem sameStart_replaceSourceCases :
    Frame.sameStart.Allows before
      ((runReplaceSourceCases arguments).run.run before).2 := by
  apply allows_requireProject
  intro project isOpen
  rw [run_requireProject_some isOpen]
  refine (within_bind (within_requiredPath _ _) (fun path => ?_) before).1
  apply within_bind (within_readGridList path)
  intro grids
  apply within_bind
  · exact within_replaceSourceCases fun _ _ _ => ⟨rfl, rfl⟩
  · intro _
    exact within_bind (within_print _) fun _ => within_pure _

/-- One command moves the start folder, and no other. -/
theorem sameStart_run {command : Command} (builtin : command ∈ commands)
    (other : command.name ≠ "setStartDir") :
    before.SameStart ((command.run arguments).run before).2 := by
  have state : ∀ {action : Arguments → Action Response},
      Frame.sameStart.Allows before ((action arguments).run.run before).2 →
        before.SameStart
          ((Command.ofAction action arguments).run before).2 := by
    intro action allowed
    rw [Command.run_ofAction]
    exact allowed
  rcases mem_bystanders_or builtin with member | rfl | rfl | rfl | rfl
  · rcases List.mem_append.mp member with single | exporting
    · simp only [List.mem_cons, List.not_mem_nil, or_false] at single
      rcases single with rfl | rfl | rfl | rfl | rfl
      · exact absurd rfl other
      · exact state (sameStart_loadCase before).1
      · exact state sameStart_replaceCase
      · exact state sameStart_replaceSourceCases
      · exact state (sameStart_setTimeStep before).1
    · have allowed : Frame.sameStart.Allows before
          ((command.run arguments).run before).2 :=
        within_run_exports exporting arguments before
      exact allowed
  · exact state (sameStart_openProject before).1
  · exact state (sameStart_closeProject before).1
  · exact state (sameStart_setExportFolder before).1
  · exact .of_session session_exportMultiCaseSnapshots

theorem run_setStartDir {response : Response}
    (ran : (runSetStartDir arguments).run.run before = (.ok response, after)) :
    after.session = before.session.setStartFolder
      (before.session.resolvePath ⟨arguments.textOr "path" ""⟩) := by
  obtain ⟨folder, start, given, looking⟩ := exists_of_run_bind ran
  obtain ⟨rfl, rfl⟩ := run_requiredPath given
  obtain ⟨workspace, _, seen, setting⟩ := exists_of_run_bind looking
  cases seen
  obtain ⟨_, moved, changed, answer⟩ := exists_of_run_bind setting
  cases changed
  split at answer
  · cases answer
    rfl
  · cases answer
    rfl

end Builtin

namespace Step

/-- Where the command moves the start folder. -/
def startLeft? (step : Step) : Option Path :=
  if step.invocation.name = "setStartDir" ∧ step.response.isError = false then
    some step.path
  else none

/-- What one command does to the start folder. -/
theorem startFolder_after {step : Step}
    (builtin : step.invocation.command ∈ Builtin.commands) :
    step.after.session.startFolder =
        (step.startLeft? <|> step.before.session.startFolder) ∧
      step.after.session.folderNames = step.before.session.folderNames := by
  by_cases starts : step.invocation.name = "setStartDir"
  · have command : step.invocation.command = Builtin.setStartDir :=
      Builtin.eq_of_name_eq builtin (by simp [Builtin.commands]) starts
    cases failed : step.response.isError with
    | true =>
        have single : step.invocation.command ≠
            Builtin.exportMultiCaseSnapshots := by
          intro multi
          have name := congrArg Command.name multi
          rw [command] at name
          revert name
          decide
        have writes : step.before.OnlyWrites step.after :=
          Builtin.onlyWrites_of_isError builtin single _ _ failed
        rw [writes.session, startLeft?]
        simp [failed]
    | false =>
        obtain ⟨response, ran⟩ :=
          exists_response (congrArg Command.run command) failed
        rw [Builtin.run_setStartDir ran, startLeft?]
        simp [starts, failed, Session.setStartFolder, path]
  · have same : step.before.SameStart step.after :=
      Builtin.sameStart_run builtin starts
    rw [same.startFolder, same.folderNames, startLeft?]
    simp [starts]

end Step

/-! ### The folder for a kind -/

namespace Workspace

variable {workspace : Workspace} {kind : ExportKind} {project : Path}

theorem exportFolder_of_set {folder : Path}
    (set : workspace.session.exportPaths.get? kind = some folder) :
    workspace.exportFolder kind = folder := by
  rw [exportFolder, Session.exportFolder, set]

theorem exportFolder_of_folder? {folder : Path}
    (unset : workspace.session.exportPaths.get? kind = none)
    (isOpen : workspace.application.project = some project)
    (placed : project.folder? = some folder) :
    workspace.exportFolder kind =
      folder.child (workspace.session.folderName kind) := by
  rw [exportFolder, Session.exportFolder, unset, Session.exportBase, isOpen]
  simp [placed]

/-- The folder for exports of a project whose path has no folder. -/
theorem exportFolder_of_bare
    (unset : workspace.session.exportPaths.get? kind = none)
    (isOpen : workspace.application.project = some project)
    (bare : project.folder? = none) :
    workspace.exportFolder kind =
      match workspace.session.startFolder with
      | some start => start.child (workspace.session.folderName kind)
      | none => ⟨workspace.session.folderName kind⟩ := by
  rw [exportFolder, Session.exportFolder, unset, Session.exportBase, isOpen]
  cases start : workspace.session.startFolder <;> simp [bare]

end Workspace

namespace Engine

/-- While a project is open, a command that neither opens or closes a project
nor sets the folder of the kind leaves exports of the kind where they are, if
the folder was set or the path of the project has a folder; for a bare project,
just if the start folder is not moved, or to a place that comes to the same. -/
theorem exportFolder_steady_iff {engine : Engine} (blank : engine.Blank)
    (calls : List Call) {earlier later : List Step} {step : Step}
    (split : engine.trace calls = earlier ++ step :: later) {project : Path}
    (isOpen : step.before.application.project = some project)
    (kind : ExportKind)
    (others : step.invocation.name ≠ "openProject" ∧
      step.invocation.name ≠ "closeProject" ∧
      ¬ (step.invocation.name = "setExportFolder" ∧
        step.invocation.arguments.variant? "type" = some kind.scriptName)) :
    (step.after.exportFolder kind = step.before.exportFolder kind ↔
      (step.before.session.exportPaths.get? kind).isSome ∨
      project.folder?.isSome ∨
      ∀ start, step.startLeft? = some start →
        start.child (step.before.session.folderName kind) =
          step.before.exportFolder kind) ∧
    (step.before.session.exportPaths.get? kind = none →
      ∀ folder, project.folder? = some folder →
        step.before.exportFolder kind =
          folder.child (step.before.session.folderName kind) ∧
        step.after.exportFolder kind =
          folder.child (step.before.session.folderName kind)) := by
  have reached : Reached (engine.trace calls)
      (engine.runCalls calls).2.workspace :=
    reached_runCalls (.start blank.application blank.session blank.folders)
      blank.registry calls
  obtain ⟨before, builtin⟩ := reached.before_step split
  have leaves := Step.leaves_of_builtin builtin
    (before.toldBy.session.trans before.toldBy.application.symm)
  obtain ⟨opens, closes, sets⟩ := others
  have stays : step.after.application.project = some project := by
    rw [leaves.application, Step.projectLeft?, if_neg opens, if_neg closes]
    exact isOpen
  have kept : step.after.session.exportPaths.get? kind =
      step.before.session.exportPaths.get? kind := by
    rw [leaves.folders, Step.folderLeft?, if_neg opens, if_neg sets]
    split <;> rfl
  obtain ⟨moved, names⟩ := Step.startFolder_after builtin
  have name : step.after.session.folderName kind =
      step.before.session.folderName kind := by
    rw [Session.folderName, Session.folderName, names]
  cases unset : step.before.session.exportPaths.get? kind with
  | some folder =>
      rw [unset] at kept
      rw [Workspace.exportFolder_of_set unset,
        Workspace.exportFolder_of_set kept]
      simp
  | none =>
      rw [unset] at kept
      cases placed : project.folder? with
      | some folder =>
          rw [Workspace.exportFolder_of_folder? unset isOpen placed,
            Workspace.exportFolder_of_folder? kept stays placed, name]
          simp
      | none =>
          have here := Workspace.exportFolder_of_bare unset isOpen placed
          have there := Workspace.exportFolder_of_bare kept stays placed
          rw [moved, name] at there
          cases left : step.startLeft? with
          | none =>
              rw [left] at there
              simp [there, here]
          | some start =>
              rw [left] at there
              simp [there]

/-- The last of two commands, with the one before it. -/
theorem exists_last_of_trace {engine : Engine} {calls : List Call}
    {first last : String}
    (names : (engine.trace calls).map (·.invocation.name) = [first, last]) :
    ∃ earlier step, engine.trace calls = earlier ++ [step] ∧
      (engine.trace calls).getLast? = some step ∧
      step.invocation.name = last := by
  have ends : (engine.trace calls).getLast?.map (·.invocation.name) =
      some last := by
    rw [← List.getLast?_map, names]
    rfl
  obtain ⟨step, isLast, name⟩ := Option.map_eq_some_iff.mp ends
  obtain ⟨earlier, split⟩ := List.getLast?_eq_some_iff.mp isLast
  exact ⟨earlier, step, split, isLast, name⟩

/-- A project with a folder keeps its exports when the start folder moves. -/
theorem exportFolder_steady_iff_placed :
    let engine : Engine := {}
    let calls : List Call :=
      [.script "openProject(\"field/p.rsp\") setStartDir(\"x\")"]
    ∃ step, (engine.trace calls).getLast? = some step ∧
      step.startLeft? = some ⟨"x"⟩ ∧
      step.before.exportFolder .snapshots = ⟨"field/snapshots"⟩ ∧
      step.after.exportFolder .snapshots =
        step.before.exportFolder .snapshots := by
  intro engine calls
  have names : (engine.trace calls).map (·.invocation.name) =
      ["openProject", "setStartDir"] := by
    decide +kernel
  obtain ⟨earlier, step, split, isLast, name⟩ := exists_last_of_trace names
  have seen : (engine.trace calls).getLast?.map (fun step =>
      (step.before.application.project, step.startLeft?,
        step.before.exportFolder .snapshots)) =
      some (some ⟨"field/p.rsp"⟩, some ⟨"x"⟩, ⟨"field/snapshots"⟩) := by
    decide +kernel
  rw [isLast, Option.map_some, Option.some.injEq, Prod.mk.injEq,
    Prod.mk.injEq] at seen
  obtain ⟨isOpen, start, folder⟩ := seen
  have steady := exportFolder_steady_iff ⟨rfl, rfl, rfl, rfl⟩ calls split
    isOpen .snapshots (by simp [name])
  exact ⟨step, isLast, start, folder,
    steady.1.mpr (.inr (.inl (by decide +kernel)))⟩

/-- A project that was opened by its bare name has its exports moved along with
the start folder. -/
theorem not_forall_exportFolder_steady :
    ¬ ∀ (engine : Engine) (calls : List Call) (earlier later : List Step)
        (step : Step) (project : Path) (kind : ExportKind), engine.Blank →
      engine.trace calls = earlier ++ step :: later →
      step.before.application.project = some project →
      (step.invocation.name ≠ "openProject" ∧
        step.invocation.name ≠ "closeProject" ∧
        ¬ (step.invocation.name = "setExportFolder" ∧
          step.invocation.arguments.variant? "type" =
            some kind.scriptName)) →
      step.after.exportFolder kind = step.before.exportFolder kind := by
  intro all
  let engine : Engine := {}
  let calls : List Call :=
    [.script "openProject(\"p.rsp\") setStartDir(\"x\")"]
  have names : (engine.trace calls).map (·.invocation.name) =
      ["openProject", "setStartDir"] := by
    decide +kernel
  obtain ⟨earlier, step, split, isLast, name⟩ := exists_last_of_trace names
  have seen : (engine.trace calls).getLast?.map (fun step =>
      (step.before.application.project, step.before.exportFolder .snapshots,
        step.after.exportFolder .snapshots)) =
      some (some ⟨"p.rsp"⟩, ⟨"snapshots"⟩, ⟨"x/snapshots"⟩) := by
    decide +kernel
  rw [isLast, Option.map_some, Option.some.injEq, Prod.mk.injEq,
    Prod.mk.injEq] at seen
  obtain ⟨isOpen, before, after⟩ := seen
  have same := all engine calls earlier [] step _ .snapshots
    ⟨rfl, rfl, rfl, rfl⟩ split isOpen (by simp [name])
  rw [before, after] at same
  revert same
  decide

end Engine

end GridScript
