import GridScript.Proofs.Atomicity

/-!
# What the application keeps through every command

Commands change the application in a few ways only.  A property that survives
each of these ways survives every built-in command, whether it fails or not.
-/

namespace GridScript

namespace Application

/-- The property survives all that commands do to the application.  A case or a
case group that is changed keeps its number. -/
structure Kept (Holds : Application → Prop) : Prop where
  written : ∀ {app : Application} (written : List Path),
    Holds app → Holds { app with written }
  project : ∀ {app : Application} (project : Option Path),
    Holds app → Holds { app with project }
  clear : ∀ {app : Application}, Holds app → Holds app.clear
  addCase : ∀ {app : Application} (gridFile : Path),
    Holds app → Holds (app.addCase gridFile).2
  addCaseGroup : ∀ {app : Application} (sources : List Path),
    Holds app → Holds (app.addCaseGroup sources).2
  addWellPath : ∀ {app : Application} (name : String),
    Holds app → Holds (app.addWellPath name).2
  changeCase : ∀ {app : Application} (id : Option Nat)
    {change : GridCase → GridCase}, (∀ c, (change c).id = c.id) →
      Holds app → Holds (app.changeCase id change)
  changeCaseGroup : ∀ {app : Application} (id : Option Nat)
    {change : CaseGroup → CaseGroup}, (∀ g, (change g).id = g.id) →
      Holds app → Holds (app.changeCaseGroup id change)

/-- A project is opened by forgetting all objects and adding those of its
manifest. -/
theorem Kept.withProject {Holds : Application → Prop} (kept : Kept Holds)
    {app : Application} (path : Path) (manifest : Manifest)
    (holds : Holds app) : Holds (app.withProject path manifest) := by
  unfold Application.withProject
  apply kept.project
  apply List.foldlRecOn
  · apply List.foldlRecOn
    · apply List.foldlRecOn
      · exact kept.clear holds
      · exact fun _ holds grid _ => kept.addCase _ holds
    · exact fun _ holds sources _ => kept.addCaseGroup _ holds
  · exact fun _ holds name _ => kept.addWellPath _ holds

end Application

variable {Holds : Application → Prop}

/-- What keeps the property of the application. -/
def Frame.keeping (kept : Application.Kept Holds) : Frame where
  Allows before after := Holds before.application → Holds after.application
  trans left right := right ∘ left
  writes {before after} writes holds := by
    rw [writes.application_eq]
    exact kept.written _ holds

namespace Builtin

open GridScript.Action

variable (kept : Application.Kept Holds) (arguments : Arguments)

theorem keeps_openProject :
    Within (.keeping kept) (runOpenProject arguments) := by
  apply within_bind (within_requiredPath _ _)
  intro path
  apply within_bind
  · exact within_openProject fun _ manifest => kept.withProject path manifest
  · intro _
    apply within_bind
    · exact within_bind (within_note _ _) fun _ => within_modify fun _ => id
    · intro _
      exact within_bind (within_print _) fun _ => within_pure _

theorem keeps_closeProject : Within (.keeping kept) runCloseProject := by
  apply within_get
  intro workspace
  split
  · exact within_pure _
  · apply within_bind
    · exact within_modify fun _ => kept.clear
    · intro _
      exact within_bind (within_modify fun _ => id) fun _ => within_pure _

theorem keeps_setStartDir :
    Within (.keeping kept) (runSetStartDir arguments) := by
  apply within_bind (within_requiredPath _ _)
  intro folder
  apply within_get
  intro workspace
  apply within_bind (within_modify fun _ => id)
  intro _
  split
  · exact within_pure _
  · exact within_pure _

theorem keeps_setExportFolder :
    Within (.keeping kept) (runSetExportFolder arguments) := by
  have finish : ∀ kind folder known,
      Within (.keeping kept) (setFolder kind folder known) := by
    intro kind folder known
    apply within_bind (within_print _)
    intro _
    apply within_bind (within_modify fun _ => id)
    intro _
    split
    · exact within_pure _
    · exact within_pure _
  unfold runSetExportFolder
  dsimp only
  split
  · apply within_bind (within_requiredPath _ _)
    intro folder
    apply within_get
    intro workspace
    split
    · apply within_bind (within_createFolders folder fun _ => rfl)
      intro _
      exact finish _ _ _
    · exact finish _ _ _
  · exact within_throw rfl

theorem keeps_loadCase : Within (.keeping kept) (runLoadCase arguments) := by
  apply within_bind (within_requiredPath _ _)
  intro path
  apply within_bind
  · exact within_loadCase fun _ => kept.addCase path
  · intro id
    exact within_bind (within_print _) fun _ => within_pure _

theorem keeps_setTimeStep :
    Within (.keeping kept) (runSetTimeStep arguments) := by
  apply within_bind (within_nonNegative _ _)
  intro timeStep
  apply within_bind
  · exact within_setTimeStep fun _ _ same => kept.changeCase _ same
  · intro _
    exact within_pure _

section

variable {arguments} {before : Workspace}

theorem keeps_replaceCase :
    (Frame.keeping kept).Allows before
      ((runReplaceCase arguments).run.run before).2 := by
  apply allows_requireProject
  intro project isOpen
  rw [run_requireProject_some isOpen]
  refine (within_bind (within_requiredPath _ _) (fun grid => ?_) before).1
  apply within_bind
  · exact within_replaceCase fun _ _ same => kept.changeCase _ same
  · intro _
    exact within_pure _

theorem keeps_replaceSourceCases :
    (Frame.keeping kept).Allows before
      ((runReplaceSourceCases arguments).run.run before).2 := by
  apply allows_requireProject
  intro project isOpen
  rw [run_requireProject_some isOpen]
  refine (within_bind (within_requiredPath _ _) (fun path => ?_) before).1
  apply within_bind (within_readGridList path)
  intro grids
  apply within_bind
  · exact within_replaceSourceCases fun _ _ same => kept.changeCaseGroup _ same
  · intro _
    exact within_bind (within_print _) fun _ => within_pure _

theorem keeps_exportMultiCaseSnapshots :
    (Frame.keeping kept).Allows before
      ((runExportMultiCaseSnapshots arguments).run.run before).2 := by
  apply allows_requireProject
  intro project isOpen
  refine (within_exportMultiCaseSnapshots isOpen ?_).1
  exact within_snapshotGrid (fun _ manifest => kept.withProject _ manifest)
    fun _ _ same => kept.changeCase _ same

end

/-- What survives all that commands do to the application survives each of the
built-in commands. -/
theorem keeps_run (kept : Application.Kept Holds) {command : Command}
    (builtin : command ∈ commands) (arguments : Arguments)
    {before : Workspace} (holds : Holds before.application) :
    Holds ((command.run arguments).run before).2.application := by
  have state : ∀ {action : Arguments → Action Response},
      (Frame.keeping kept).Allows before
        ((action arguments).run.run before).2 →
      Holds
        ((Command.ofAction action arguments).run before).2.application := by
    intro action keeps
    rw [Command.run_ofAction]
    exact keeps holds
  have exporting : command ∈ exports →
      Holds ((command.run arguments).run before).2.application := by
    intro member
    have keeps : (Frame.keeping kept).Allows before
        ((command.run arguments).run before).2 :=
      within_run_exports member arguments before
    exact keeps holds
  simp only [commands, List.mem_cons, List.not_mem_nil, or_false] at builtin
  rcases builtin with rfl | rfl | rfl | rfl | rfl | rfl | rfl | rfl | rfl |
    rfl | rfl | rfl | rfl | rfl
  · exact state (keeps_openProject kept arguments before).1
  · exact state (keeps_closeProject kept before).1
  · exact state (keeps_setStartDir kept arguments before).1
  · exact state (keeps_loadCase kept arguments before).1
  · exact state (keeps_replaceCase kept)
  · exact state (keeps_replaceSourceCases kept)
  · exact state (keeps_setTimeStep kept arguments before).1
  · exact exporting (by simp [exports])
  · exact state (keeps_exportMultiCaseSnapshots kept)
  · exact state (keeps_setExportFolder kept arguments before).1
  · exact exporting (by simp [exports])
  · exact exporting (by simp [exports])
  · exact exporting (by simp [exports])
  · exact exporting (by simp [exports])

end Builtin

end GridScript
