import GridScript.Builtin.Registry
import GridScript.Proofs.Alike
import GridScript.Proofs.Typing

/-!
# What built-in commands make of their arguments

Built-in commands look at their arguments through accessors that pass over null
references in arrays.  They answer the same to arguments that say the same, and
they do the same in workspaces that are alike.
-/

namespace GridScript

namespace Value

theorem text?_pruned (value : Value) : value.pruned.text? = value.text? := by
  cases value <;> rfl

theorem int?_pruned (value : Value) : value.pruned.int? = value.int? := by
  cases value <;> rfl

theorem bool?_pruned (value : Value) : value.pruned.bool? = value.bool? := by
  cases value <;> rfl

theorem double?_pruned (value : Value) :
    value.pruned.double? = value.double? := by
  cases value <;> rfl

theorem variant?_pruned (value : Value) :
    value.pruned.variant? = value.variant? := by
  cases value <;> rfl

theorem object?_pruned (value : Value) :
    value.pruned.object? = value.object? := by
  cases value <;> rfl

/-- Whatever passes over null references and looks only at the outside of the
others finds the same items. -/
theorem filterMap_items?_pruned {α : Type} {look : Value → Option α}
    (passes : look (.reference none) = none)
    (outside : ∀ item : Value, look item.pruned = look item) (value : Value) :
    (value.pruned.items?.getD []).filterMap look =
      (value.items?.getD []).filterMap look := by
  cases value with
  | array items =>
      change (prunedItems items).filterMap look = items.filterMap look
      induction items with
      | nil => rfl
      | cons item items induction =>
          cases null : item.isNullReference with
          | true =>
              rw [eq_of_isNullReference null, List.filterMap_cons, passes]
              exact induction
          | false =>
              have kept : prunedItems (item :: items) =
                  item.pruned :: prunedItems items := by
                simp [prunedItems, null]
              rw [kept, List.filterMap_cons, List.filterMap_cons, outside,
                induction]
  | _ => rfl

end Value

namespace Arguments

/-- Every field has the same value, but for null references in arrays. -/
def SaysSame (left right : Arguments) : Prop :=
  ∀ name, (left.get? name).map Value.pruned =
    (right.get? name).map Value.pruned

section

variable {left right : Arguments}

/-- An accessor that does not see null references finds the same. -/
theorem SaysSame.bind_get? (same : left.SaysSame right) {α : Type}
    {look : Value → Option α} (blind : ∀ value : Value,
      look value.pruned = look value) (name : String) :
    (left.get? name).bind look = (right.get? name).bind look := by
  have through : ∀ found : Option Value,
      found.bind look = (found.map Value.pruned).bind look := by
    intro found
    cases found with
    | none => rfl
    | some value => exact (blind value).symm
  rw [through, through (right.get? name), same name]

theorem SaysSame.text? (same : left.SaysSame right) (name : String) :
    left.text? name = right.text? name :=
  same.bind_get? Value.text?_pruned name

theorem SaysSame.variant? (same : left.SaysSame right) (name : String) :
    left.variant? name = right.variant? name :=
  same.bind_get? Value.variant?_pruned name

theorem SaysSame.object? (same : left.SaysSame right) (name : String) :
    left.object? name = right.object? name :=
  same.bind_get? Value.object?_pruned name

theorem SaysSame.textOr (same : left.SaysSame right) (name default : String) :
    left.textOr name default = right.textOr name default := by
  rw [Arguments.textOr, Arguments.textOr, same.text?]

theorem SaysSame.intOr (same : left.SaysSame right) (name : String)
    (default : Int) : left.intOr name default = right.intOr name default := by
  rw [Arguments.intOr, Arguments.intOr, int?, int?,
    same.bind_get? Value.int?_pruned]

theorem SaysSame.boolOr (same : left.SaysSame right) (name : String)
    (default : Bool) :
    left.boolOr name default = right.boolOr name default := by
  rw [Arguments.boolOr, Arguments.boolOr, bool?, bool?,
    same.bind_get? Value.bool?_pruned]

theorem SaysSame.doubleOr (same : left.SaysSame right) (name : String)
    (default : Binary64) :
    left.doubleOr name default = right.doubleOr name default := by
  rw [Arguments.doubleOr, Arguments.doubleOr, double?, double?,
    same.bind_get? Value.double?_pruned]

theorem SaysSame.filterMap_items (same : left.SaysSame right) {α : Type}
    {look : Value → Option α} (passes : look (.reference none) = none)
    (outside : ∀ item : Value, look item.pruned = look item) (name : String) :
    (left.items name).filterMap look = (right.items name).filterMap look := by
  have through : ∀ found : Option Value,
      ((found.bind Value.items?).getD []).filterMap look =
        (((found.map Value.pruned).bind Value.items?).getD []).filterMap
          look := by
    intro found
    cases found with
    | none => rfl
    | some value =>
        exact (Value.filterMap_items?_pruned passes outside value).symm
  rw [items, items, through, through (right.get? name), same name]

theorem SaysSame.objects (same : left.SaysSame right) (name : String) :
    left.objects name = right.objects name :=
  same.filterMap_items rfl Value.object?_pruned name

theorem SaysSame.texts (same : left.SaysSame right) (name : String) :
    left.texts name = right.texts name :=
  same.filterMap_items rfl Value.text?_pruned name

end

end Arguments

namespace Builtin

section

variable {left right : Arguments}

theorem requiredText_eq (same : left.SaysSame right) (name : String) :
    requiredText left name = requiredText right name := by
  rw [requiredText, requiredText, same.text?]

theorem requiredPath_eq (same : left.SaysSame right) (name : String) :
    requiredPath left name = requiredPath right name := by
  rw [requiredPath, requiredPath, requiredText_eq same]

theorem nonNegative_eq (same : left.SaysSame right) (name : String) :
    nonNegative left name = nonNegative right name := by
  rw [nonNegative, nonNegative, same.intOr]

theorem idArgument_eq (same : left.SaysSame right) (name : String) :
    idArgument left name = idArgument right name := by
  rw [idArgument, idArgument, same.intOr]

theorem refinement_eq (same : left.SaysSame right) (name : String) :
    refinement left name = refinement right name := by
  rw [refinement, refinement, same.intOr]

/-- A built-in command does the same with arguments that say the same. -/
theorem run_eq (same : left.SaysSame right) {command : Command}
    (builtin : command ∈ commands) : command.run left = command.run right := by
  simp only [commands, List.mem_cons, List.not_mem_nil, or_false] at builtin
  rcases builtin with rfl | rfl | rfl | rfl | rfl | rfl | rfl | rfl | rfl |
    rfl | rfl | rfl | rfl | rfl
  · simp only [openProject, Command.ofAction, runOpenProject,
      requiredPath_eq same]
  · rfl
  · simp only [setStartDir, Command.ofAction, runSetStartDir,
      requiredPath_eq same]
  · simp only [loadCase, Command.ofAction, runLoadCase, requiredPath_eq same]
  · simp only [replaceCase, Command.ofAction, runReplaceCase,
      requiredPath_eq same, idArgument_eq same]
  · simp only [replaceSourceCases, Command.ofAction, runReplaceSourceCases,
      requiredPath_eq same, idArgument_eq same]
  · simp only [setTimeStep, Command.ofAction, runSetTimeStep,
      nonNegative_eq same, idArgument_eq same]
  · simp only [exportSnapshots, Command.ofAction, runExportSnapshots,
      same.variant?, same.textOr, same.objects, idArgument_eq same]
  · simp only [exportMultiCaseSnapshots, Command.ofAction,
      runExportMultiCaseSnapshots, requiredPath_eq same]
  · simp only [setExportFolder, Command.ofAction, runSetExportFolder,
      same.variant?, same.boolOr, requiredPath_eq same]
  · simp only [exportProperty, Command.ofAction, runExportProperty,
      same.textOr, same.doubleOr, requiredText_eq same, nonNegative_eq same,
      idArgument_eq same]
  · simp only [exportWellPaths, Command.ofAction, runExportWellPaths,
      same.doubleOr, same.texts]
  · simp only [exportVisibleCells, Command.ofAction, runExportVisibleCells,
      same.object?, same.variant?, same.intOr]
  · simp only [exportLgrForCompletions, Command.ofAction,
      runExportLgrForCompletions, same.texts, nonNegative_eq same,
      refinement_eq same, idArgument_eq same]

end

/-! ### Alike workspaces -/

open GridScript.Action

theorem steady_requiredText (arguments : Arguments) (name : String) :
    Steady (requiredText arguments name) := by
  unfold requiredText
  split
  · split
    · exact steady_throw _
    · exact steady_pure _
  · exact steady_throw _

theorem steady_requiredPath (arguments : Arguments) (name : String) :
    Steady (requiredPath arguments name) :=
  agrees_bind (steady_requiredText _ _) fun _ => steady_resolve _

theorem steady_nonNegative (arguments : Arguments) (name : String) :
    Steady (nonNegative arguments name) := by
  unfold nonNegative
  dsimp only
  split
  · exact steady_throw _
  · exact steady_pure _

theorem steady_refinement (arguments : Arguments) (name : String) :
    Steady (refinement arguments name) := by
  unfold refinement
  dsimp only
  split
  · exact steady_pure _
  · exact steady_throw _

theorem steady_requireProject (keyword : String) :
    Steady (requireProject keyword) := by
  apply steady_get
  intro left right alike
  rw [alike.session]
  cases right.session.lastProject with
  | some project => exact steady_pure project
  | none => exact steady_throw _

theorem steady_readGridList (path : Path) :
    Steady (readGridList path) := by
  apply agrees_bind (steady_read _ _)
  intro text
  dsimp only
  split
  · exact steady_throw _
  · exact steady_pure _

theorem steady_snapshotGrid (project grid : Path) :
    Steady (snapshotGrid project grid) := by
  apply agrees_bind (steady_openProject _)
  intro _
  apply agrees_bind (steady_replaceCase _ _)
  intro _
  apply steady_get
  intro left right alike
  rw [alike.exportFolder]
  exact steady_exportSnapshots _

theorem agree_snapshotGrids (project : Path) (grids : List Path)
    (response : Response) :
    Agree (snapshotGrids project response grids)
      (snapshotGrids project response grids) := by
  induction grids generalizing response with
  | nil => exact agree_pure _
  | cons grid grids induction =>
      apply agree_bind (steady_snapshotGrid project grid)
      intro answer
      cases answer with
      | ok files =>
          exact agree_bind (induction response) fun _ => agree_pure _
      | error cause => exact induction _

theorem agree_ofAction {action : Arguments → Action Response}
    {arguments : Arguments}
    (steady : Steady (action arguments)) :
    Agree (Command.ofAction action arguments)
      (Command.ofAction action arguments) := by
  apply agree_bind steady
  intro answer
  cases answer with
  | ok response => exact agree_pure response
  | error cause => exact agree_pure _

theorem steady_openProject (arguments : Arguments) :
    Steady (runOpenProject arguments) :=
  agrees_bind (steady_requiredPath _ _) fun _ =>
    agrees_bind (Action.steady_openProject _) fun _ =>
      agrees_bind (steady_startSession _) fun _ =>
        agrees_bind (steady_print _) fun _ => steady_pure _

theorem steady_closeProject : Steady runCloseProject := by
  apply steady_get
  intro left right alike
  rw [alike.application]
  split
  · exact steady_pure _
  · exact agrees_bind (steady_changeApplication _) fun _ =>
      agrees_bind (steady_changeSession _) fun _ => steady_pure _

theorem steady_setStartDir (arguments : Arguments) :
    Steady (runSetStartDir arguments) := by
  apply agrees_bind (steady_requiredPath _ _)
  intro folder
  apply steady_get
  intro left right alike
  rw [alike.disk.isFolder]
  apply agrees_bind (steady_changeSession _)
  intro _
  split
  · exact steady_pure _
  · exact steady_pure _

theorem steady_loadCase (arguments : Arguments) :
    Steady (runLoadCase arguments) :=
  agrees_bind (steady_requiredPath _ _) fun _ =>
    agrees_bind (Action.steady_loadCase _) fun _ =>
      agrees_bind (steady_print _) fun _ => steady_pure _

theorem steady_replaceCase (arguments : Arguments) :
    Steady (runReplaceCase arguments) :=
  agrees_bind (steady_requireProject _) fun _ =>
    agrees_bind (steady_requiredPath _ _) fun _ =>
      agrees_bind (Action.steady_replaceCase _ _) fun _ => steady_pure _

theorem steady_replaceSourceCases (arguments : Arguments) :
    Steady (runReplaceSourceCases arguments) :=
  agrees_bind (steady_requireProject _) fun _ =>
    agrees_bind (steady_requiredPath _ _) fun _ =>
      agrees_bind (steady_readGridList _) fun _ =>
        agrees_bind (Action.steady_replaceSourceCases _ _) fun _ =>
          agrees_bind (steady_print _) fun _ => steady_pure _

theorem steady_setTimeStep (arguments : Arguments) :
    Steady (runSetTimeStep arguments) :=
  agrees_bind (steady_nonNegative _ _) fun _ =>
    agrees_bind (Action.steady_setTimeStep _ _) fun _ => steady_pure _

theorem steady_exportSnapshots (arguments : Arguments) :
    Steady (runExportSnapshots arguments) := by
  unfold runExportSnapshots
  dsimp only
  split
  · apply steady_get
    intro left right alike
    rw [alike.exportFolder]
    apply agrees_bind (Action.steady_exportSnapshots _)
    intro files
    split
    · exact steady_pure _
    · exact agrees_bind (steady_print _) fun _ => steady_pure _
  · exact steady_throw _

theorem steady_exportMultiCaseSnapshots (arguments : Arguments) :
    Steady (runExportMultiCaseSnapshots arguments) := by
  apply agrees_bind (steady_requireProject _)
  intro project
  apply agrees_bind (steady_requiredPath _ _)
  intro path
  apply agrees_bind (steady_readGridList _)
  intro grids
  have lifted : Steady (snapshotGrids project .ok grids : Action _) :=
    agree_bind (agree_snapshotGrids project grids .ok) fun _ => agree_pure _
  exact agrees_bind lifted fun _ =>
    agrees_bind (steady_print _) fun _ => steady_pure _

theorem steady_setExportFolder (arguments : Arguments) :
    Steady (runSetExportFolder arguments) := by
  unfold runSetExportFolder
  dsimp only
  split
  · apply agrees_bind (steady_requiredPath _ _)
    intro folder
    apply steady_get
    intro left right alike
    rw [alike.disk.isFolder]
    have finish : ∀ (kind : ExportKind) (known : Bool) (_ : Unit), Steady
        (do
          Action.print (" " ++ kind.scriptName ++ " exports go to \"" ++
            folder.text ++ "\"")
          Action.changeSession (·.setExportPath kind folder)
          if known then return Response.ok
          return .warning ("export folder " ++ folder.text ++
            " does not exist")) := by
      intro kind known _
      apply agrees_bind (steady_print _)
      intro _
      apply agrees_bind (steady_changeSession _)
      intro _
      split
      · exact steady_pure _
      · exact steady_pure _
    split
    · exact agrees_bind (steady_createFolders _ _) (finish _ _)
    · exact finish _ _ ()
  · exact steady_throw _

theorem steady_exportProperty (arguments : Arguments) :
    Steady (runExportProperty arguments) := by
  apply agrees_bind (steady_requiredText _ _)
  intro property
  apply agrees_bind (steady_nonNegative _ _)
  intro timeStep
  apply steady_get
  intro left right alike
  rw [alike.exportFolder, alike.session]
  exact agrees_bind (Action.steady_exportProperty _) fun _ =>
    agrees_bind (steady_print _) fun _ => steady_pure _

theorem steady_exportWellPaths (arguments : Arguments) :
    Steady (runExportWellPaths arguments) := by
  unfold runExportWellPaths
  dsimp only
  split
  · exact steady_throw _
  · apply steady_get
    intro left right alike
    rw [alike.exportFolder]
    apply agrees_bind (Action.steady_exportWellPaths _)
    intro report
    split
    · exact steady_pure _
    · exact agrees_bind (steady_note _ _) fun _ => steady_pure _

theorem steady_exportVisibleCells (arguments : Arguments) :
    Steady (runExportVisibleCells arguments) := by
  unfold runExportVisibleCells
  split
  · apply steady_get
    intro left right alike
    rw [alike.exportFolder]
    exact agrees_bind (Action.steady_exportVisibleCells _) fun _ =>
      steady_pure _
  · exact steady_throw _

theorem steady_exportLgrForCompletions (arguments : Arguments) :
    Steady (runExportLgrForCompletions arguments) := by
  apply agrees_bind (steady_nonNegative _ _)
  intro timeStep
  apply agrees_bind (steady_refinement _ _)
  intro i
  apply agrees_bind (steady_refinement _ _)
  intro j
  apply agrees_bind (steady_refinement _ _)
  intro k
  apply steady_get
  intro left right alike
  rw [alike.exportFolder]
  exact agrees_bind (Action.steady_exportLgrs _) fun _ => steady_pure _

/-- A built-in command does the same in workspaces that are alike. -/
theorem agree_run {command : Command} (builtin : command ∈ commands)
    (arguments : Arguments) :
    Agree (command.run arguments) (command.run arguments) := by
  simp only [commands, List.mem_cons, List.not_mem_nil, or_false] at builtin
  rcases builtin with rfl | rfl | rfl | rfl | rfl | rfl | rfl | rfl | rfl |
    rfl | rfl | rfl | rfl | rfl
  · exact agree_ofAction (steady_openProject arguments)
  · apply agree_ofAction
    exact steady_closeProject
  · exact agree_ofAction (steady_setStartDir arguments)
  · exact agree_ofAction (steady_loadCase arguments)
  · exact agree_ofAction (steady_replaceCase arguments)
  · exact agree_ofAction (steady_replaceSourceCases arguments)
  · exact agree_ofAction (steady_setTimeStep arguments)
  · exact agree_ofAction (steady_exportSnapshots arguments)
  · exact agree_ofAction (steady_exportMultiCaseSnapshots arguments)
  · exact agree_ofAction (steady_setExportFolder arguments)
  · exact agree_ofAction (steady_exportProperty arguments)
  · exact agree_ofAction (steady_exportWellPaths arguments)
  · exact agree_ofAction (steady_exportVisibleCells arguments)
  · exact agree_ofAction (steady_exportLgrForCompletions arguments)

end Builtin

end GridScript
