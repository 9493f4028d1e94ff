import GridScript.Proofs.History

/-!
# Commands that need no file

Some commands change nothing but the application and the session, and some fail
before they reach the disk.  Whatever stands on the disk, they leave it alone.
-/

namespace GridScript

theorem Builtin.eq_of_name_eq {left right : Command}
    (leftBuiltin : left ∈ commands) (rightBuiltin : right ∈ commands)
    (same : left.name = right.name) : left = right := by
  have found := Registry.get?_builtin leftBuiltin
  rw [same, Registry.get?_builtin rightBuiltin] at found
  exact (Option.some.inj found).symm

namespace Step

theorem leavesAlone_closeProject {step : Step} (location : Location)
    (closes : step.invocation.command = Builtin.closeProject) :
    step.LeavesAlone location := by
  obtain ⟨workspace, keyword, line, command, arguments⟩ := step
  obtain ⟨⟨project, _, _, _, _, _, _, _, _⟩, _, _, _, _⟩ := workspace
  cases closes
  intro content
  cases project with
  | none => exact ⟨rfl, rfl, rfl, .refl _⟩
  | some path => exact ⟨rfl, rfl, rfl, .refl _⟩

/-- A grid that need not exist is not looked for. -/
theorem leavesAlone_loadCase {step : Step} (location : Location)
    (loads : step.invocation.command = Builtin.loadCase)
    (unchecked : step.before.application.checksFiles = false) :
    step.LeavesAlone location := by
  obtain ⟨workspace, keyword, line, command, arguments⟩ := step
  obtain ⟨⟨_, _, _, _, _, _, _, checksFiles, _⟩, _, _, _, quiet⟩ := workspace
  cases loads
  cases unchecked
  intro content
  dsimp only [response, after, Invocation.run, Builtin.loadCase,
    Command.ofAction, Builtin.runLoadCase, Builtin.requiredPath,
    Builtin.requiredText]
  cases arguments.text? "path" with
  | none => exact ⟨rfl, rfl, rfl, .refl _⟩
  | some text =>
      dsimp only
      cases text.isEmpty with
      | true => exact ⟨rfl, rfl, rfl, .refl _⟩
      | false =>
          cases quiet with
          | true => exact ⟨rfl, rfl, rfl, .refl _⟩
          | false => exact ⟨rfl, rfl, rfl, .refl _⟩

/-- Cells of a view that is not there are not written. -/
theorem leavesAlone_exportVisibleCells {step : Step} (location : Location)
    (exports : step.invocation.command = Builtin.exportVisibleCells)
    (viewless : step.before.application.views = []) :
    step.LeavesAlone location := by
  obtain ⟨workspace, keyword, line, command, arguments⟩ := step
  obtain ⟨⟨_, _, views, _, _, _, _, _, _⟩, _, _, _, _⟩ := workspace
  cases exports
  cases viewless
  intro content
  dsimp only [response, after, Invocation.run, Builtin.exportVisibleCells,
    Command.ofAction, Builtin.runExportVisibleCells]
  cases arguments.object? "view" with
  | none => exact ⟨rfl, rfl, rfl, .refl _⟩
  | some object => exact ⟨rfl, rfl, rfl, .refl _⟩

/-- Whether the command needs no file to do what it does here. -/
def isInMemory (step : Step) : Bool :=
  match step.invocation.name with
  | "closeProject" => true
  | "loadCase" => !step.before.application.checksFiles
  | "exportVisibleCells" => step.before.application.views.isEmpty
  | _ => false

theorem leavesAlone_of_isInMemory {step : Step}
    (builtin : step.invocation.command ∈ Builtin.commands)
    (inMemory : step.isInMemory = true) (location : Location) :
    step.LeavesAlone location := by
  have named : ∀ command ∈ Builtin.commands,
      step.invocation.name = command.name →
        step.invocation.command = command := fun command member same =>
    Builtin.eq_of_name_eq builtin member same
  unfold isInMemory at inMemory
  split at inMemory
  · rename_i name
    exact leavesAlone_closeProject location
      (named _ (by simp [Builtin.commands]) name)
  · rename_i name
    exact leavesAlone_loadCase location
      (named _ (by simp [Builtin.commands]) name) (by simpa using inMemory)
  · rename_i name
    exact leavesAlone_exportVisibleCells location
      (named _ (by simp [Builtin.commands]) name) (by simpa using inMemory)
  · cases inMemory

end Step

/-- So a session of such commands leaves every file alone. -/
theorem Engine.Usual.leavesAlone_of_mem_history {engine : Engine}
    (usual : engine.Usual) {scripts : List String}
    (inMemory : ∀ step ∈ engine.history scripts, step.isInMemory = true)
    {location : Location} {step : Step}
    (member : step ∈ engine.history scripts) : step.LeavesAlone location := by
  obtain ⟨_, builtin⟩ := usual.isBuiltin_of_mem_history member
  exact Step.leavesAlone_of_isInMemory builtin.command (inMemory step member)
    location

end GridScript
