import GridScript.Proofs.Dialects
import GridScript.Proofs.StayingInFolders

/-!
# What the exports of scripts write

Whatever scripts have run before, a command that exports files of a kind writes
them right into the folder of the kind.  A keyword in a file name is one that
the command knows, since scripts set no other; only the prefix of snapshots is
free text, and could lead elsewhere if it had slashes.
-/

namespace GridScript

theorem Workspace.exportFolder_eq {workspace : Workspace} {session : Session}
    {project : Option Path} (same : workspace.session = session)
    (isOpen : workspace.application.project = project) (kind : ExportKind) :
    workspace.exportFolder kind = session.exportFolder project kind := by
  rw [exportFolder, same, isOpen]

/-! ### Commands that write files of a kind -/

namespace Builtin

open GridScript.Action

variable {α : Type} {arguments : Arguments} {session : Session}
  {project : Option Path} {folder : Path}

theorem quiet_requiredText (arguments : Arguments) (name : String) :
    Quiet (requiredText arguments name) := by
  unfold requiredText
  split
  · split
    · exact quiet_throw _
    · exact quiet_pure _
  · exact quiet_throw _

theorem quiet_requiredPath (arguments : Arguments) (name : String) :
    Quiet (requiredPath arguments name) :=
  quiet_bind (quiet_requiredText _ _) fun _ =>
    quiet_get fun _ => quiet_pure _

theorem quiet_nonNegative (arguments : Arguments) (name : String) :
    Quiet (nonNegative arguments name) := by
  unfold nonNegative
  dsimp only
  split
  · exact quiet_throw _
  · exact quiet_pure _

theorem quiet_refinement (arguments : Arguments) (name : String) :
    Quiet (refinement arguments name) := by
  unfold refinement
  dsimp only
  split
  · exact quiet_pure _
  · exact quiet_throw _

theorem quiet_readGridList (path : Path) : Quiet (readGridList path) := by
  apply quiet_bind (quiet_read path _)
  intro text
  dsimp only
  split
  · exact quiet_throw _
  · exact quiet_pure _

theorem staysIn_runExportWellPaths :
    StaysIn session project (session.exportFolder project .wellPaths)
      (runExportWellPaths arguments) := by
  unfold runExportWellPaths
  dsimp only
  split
  · exact (quiet_throw _).staysIn
  · apply staysIn_get
    intro workspace same isOpen
    rw [← Workspace.exportFolder_eq same isOpen]
    apply staysIn_bind (staysIn_exportWellPaths _)
    intro report
    split
    · exact (quiet_pure _).staysIn
    · exact staysIn_bind (quiet_note _ _).staysIn fun _ =>
        (quiet_pure _).staysIn

theorem staysIn_runExportLgrForCompletions :
    StaysIn session project (session.exportFolder project .lgrs)
      (runExportLgrForCompletions arguments) := by
  apply staysIn_bind (quiet_nonNegative _ _).staysIn
  intro timeStep
  apply staysIn_bind (quiet_refinement _ _).staysIn
  intro i
  apply staysIn_bind (quiet_refinement _ _).staysIn
  intro j
  apply staysIn_bind (quiet_refinement _ _).staysIn
  intro k
  apply staysIn_get
  intro workspace same isOpen
  rw [← Workspace.exportFolder_eq same isOpen]
  exact staysIn_bind (staysIn_exportLgrs _) fun _ => (quiet_pure _).staysIn

theorem staysIn_runExportVisibleCells
    (flat : '/' ∉
      ((arguments.variant? "exportKeyword").getD "FLUXNUM").toList) :
    StaysIn session project (session.exportFolder project .cells)
      (runExportVisibleCells arguments) := by
  unfold runExportVisibleCells
  split
  · apply staysIn_get
    intro workspace same isOpen
    rw [← Workspace.exportFolder_eq same isOpen]
    apply staysIn_bind
    · apply staysIn_exportVisibleCells
      exact flat
    · exact fun _ => (quiet_pure _).staysIn
  · exact (quiet_throw _).staysIn

theorem staysIn_runExportSnapshots
    (flat : '/' ∉ (arguments.textOr "prefix" "").toList) :
    StaysIn session project (session.exportFolder project .snapshots)
      (runExportSnapshots arguments) := by
  unfold runExportSnapshots
  dsimp only
  split
  · apply staysIn_get
    intro workspace same isOpen
    rw [← Workspace.exportFolder_eq same isOpen]
    apply staysIn_bind
    · apply staysIn_exportSnapshots
      exact flat
    · intro files
      split
      · exact (quiet_pure _).staysIn
      · exact staysIn_bind (quiet_print _).staysIn fun _ =>
          (quiet_pure _).staysIn
  · exact (quiet_throw _).staysIn

/-! ### Snapshots of many grids -/

theorem staysIn_requireProject {keyword : String} {next : Path → Action α}
    (continues : ∀ path, session.lastProject = some path →
      StaysIn session project folder (next path)) :
    StaysIn session project folder (requireProject keyword >>= next) := by
  intro before same isOpen
  cases status : before.session.lastProject with
  | none =>
      rw [run_requireProject_none status]
      exact (quiet_throw (α := α) _).staysIn before same isOpen
  | some path =>
      rw [run_requireProject_some status]
      exact continues path (same ▸ status) before same isOpen

/-- The name of a grid has no slashes, wherever its file is. -/
theorem staysIn_snapshotGrid (path grid : Path) :
    StaysIn session (some path) (session.exportFolder (some path) .snapshots)
      (snapshotGrid path grid) := by
  apply staysIn_bind staysIn_openProject
  intro _
  apply staysIn_bind (staysIn_replaceCase none grid)
  intro _
  apply staysIn_get
  intro workspace same isOpen
  rw [← Workspace.exportFolder_eq same isOpen]
  exact staysIn_exportSnapshots (slash_not_mem_gridStem grid)

theorem staysIn_snapshotGrids (path : Path) (response : Response)
    (grids : List Path) :
    StaysIn session (some path) (session.exportFolder (some path) .snapshots)
      (snapshotGrids path response grids : Action _) := by
  intro before same isOpen
  change (((snapshotGrids path response grids).run before).2.session = _ ∧
    ((snapshotGrids path response grids).run before).2.application.project =
      _ ∧
    before.WritesInto _ ((snapshotGrids path response grids).run before).2)
  induction grids generalizing response before with
  | nil => exact ⟨same, isOpen, .of_growsBy_nil rfl (.refl _)⟩
  | cons grid grids induction =>
      have first := staysIn_snapshotGrid path grid before same isOpen
      rcases ran : (snapshotGrid path grid).run.run before with
        ⟨answer, middle⟩
      rw [ran] at first
      obtain ⟨sameMiddle, stillOpen, writes⟩ := first
      have rest : ∀ response, _ := fun response =>
        induction response middle sameMiddle stillOpen
      rw [snapshotGrids, StateT.run_bind, ran]
      -- A grid that fails changes the response only; the next one follows.
      cases answer with
      | ok files =>
          obtain ⟨sameAfter, openAfter, more⟩ := rest response
          exact ⟨sameAfter, openAfter, writes.trans more⟩
      | error cause =>
          obtain ⟨sameAfter, openAfter, more⟩ := rest _
          exact ⟨sameAfter, openAfter, writes.trans more⟩

/-- The session and the application have one project open, which is opened again
for each grid. -/
theorem staysIn_runExportMultiCaseSnapshots :
    StaysIn session session.lastProject
      (session.exportFolder session.lastProject .snapshots)
      (runExportMultiCaseSnapshots arguments) := by
  apply staysIn_requireProject
  intro path isOpen
  rw [isOpen]
  apply staysIn_bind (quiet_requiredPath _ _).staysIn
  intro listed
  apply staysIn_bind (quiet_readGridList listed).staysIn
  intro grids
  apply staysIn_bind (staysIn_snapshotGrids path .ok grids)
  intro done
  exact staysIn_bind (quiet_print _).staysIn fun _ => (quiet_pure _).staysIn

/-- The commands that make up the names of the files they write, with the kind
of the files. -/
def namingExports : List (String × ExportKind) :=
  [("exportWellPaths", .wellPaths), ("exportLgrForCompletions", .lgrs),
    ("exportVisibleCells", .cells), ("exportMultiCaseSnapshots", .snapshots),
    ("exportSnapshots", .snapshots)]

end Builtin

/-! ### What scripts can ask for -/

/-- A value that is held under a name has the type of the field with the
name. -/
theorem Invocation.Sound.exists_field {objects : ObjectTable}
    {invocation : Invocation} (sound : invocation.Sound objects) {name : String}
    {value : Value} (held : invocation.arguments.get? name = some value) :
    ∃ field, invocation.field? name = some field ∧
      value.HasType objects field.type := by
  obtain ⟨slot, found, rfl⟩ := Option.map_eq_some_iff.mp held
  obtain ⟨field, isField, inside⟩ := Slot.exists_field sound.aligned found
  exact ⟨field, isField, sound.typed _ inside⟩

/-- Visible cells are written under a keyword that is known. -/
theorem Builtin.keyword_mem_cellKeywords {objects : ObjectTable}
    {invocation : Invocation} (sound : invocation.Sound objects)
    (command : invocation.command = exportVisibleCells) :
    (invocation.arguments.variant? "exportKeyword").getD "FLUXNUM" ∈
      cellKeywords.variants := by
  have type : (invocation.field? "exportKeyword").map (·.type) =
      some (.enumeration cellKeywords) := by
    rw [Invocation.field?, Invocation.fields, command]
    decide
  cases given : invocation.arguments.variant? "exportKeyword" with
  | none => decide
  | some keyword =>
      obtain ⟨value, held, isVariant⟩ := Option.bind_eq_some_iff.mp given
      obtain ⟨field, found, typed⟩ := sound.exists_field held
      rw [found, Option.map_some] at type
      rw [Option.some.inj type] at typed
      cases typed with
      | variant known =>
          cases isVariant
          exact known

namespace Step

/-- An export of a sound invocation writes into the folder of its kind, if the
session and the application agree on the project. -/
theorem writesInto_of_namingExports {objects : ObjectTable} {step : Step}
    (builtin : step.invocation.IsBuiltin objects)
    (agree : step.before.application.project =
      step.before.session.lastProject) {kind : ExportKind}
    (naming : (step.invocation.name, kind) ∈ Builtin.namingExports)
    (flat : step.invocation.name = "exportSnapshots" →
      '/' ∉ (step.invocation.arguments.textOr "prefix" "").toList) :
    step.before.WritesInto (step.before.exportFolder kind) step.after := by
  have writes : ∀ {action : Arguments → Action Response},
      step.invocation.command.run = Command.ofAction action →
        Action.StaysIn step.before.session step.before.application.project
          (step.before.exportFolder kind) (action step.invocation.arguments) →
        step.before.WritesInto (step.before.exportFolder kind) step.after := by
    intro action runs stays
    rw [after, Invocation.run, runs, Command.run_ofAction]
    exact (stays step.before rfl rfl).2.2
  have is : ∀ {command : Command}, command ∈ Builtin.commands →
      step.invocation.name = command.name → step.invocation.command = command :=
    fun member named => Builtin.eq_of_name_eq builtin.command member named
  simp only [Builtin.namingExports, List.mem_cons, Prod.mk.injEq,
    List.not_mem_nil, or_false] at naming
  rcases naming with ⟨name, rfl⟩ | ⟨name, rfl⟩ | ⟨name, rfl⟩ | ⟨name, rfl⟩ |
    ⟨name, rfl⟩
  · have command : step.invocation.command = Builtin.exportWellPaths :=
      is (by simp [Builtin.commands]) name
    exact writes (congrArg Command.run command)
      Builtin.staysIn_runExportWellPaths
  · have command : step.invocation.command = Builtin.exportLgrForCompletions :=
      is (by simp [Builtin.commands]) name
    exact writes (congrArg Command.run command)
      Builtin.staysIn_runExportLgrForCompletions
  · have command : step.invocation.command = Builtin.exportVisibleCells :=
      is (by simp [Builtin.commands]) name
    have keywords : ∀ keyword ∈ Builtin.cellKeywords.variants,
        '/' ∉ keyword.toList := by decide
    exact writes (congrArg Command.run command)
      (Builtin.staysIn_runExportVisibleCells (keywords _
        (Builtin.keyword_mem_cellKeywords builtin.sound command)))
  · have command : step.invocation.command = Builtin.exportMultiCaseSnapshots :=
      is (by simp [Builtin.commands]) name
    apply writes (congrArg Command.run command)
    rw [Workspace.exportFolder, agree]
    exact Builtin.staysIn_runExportMultiCaseSnapshots
  · have command : step.invocation.command = Builtin.exportSnapshots :=
      is (by simp [Builtin.commands]) name
    exact writes (congrArg Command.run command)
      (Builtin.staysIn_runExportSnapshots (flat name))

end Step

namespace Engine

theorem handledAll_map_call (engine : Engine) (calls : List Call) :
    engine.handledAll (calls.map .call) = engine.trace calls := by
  induction calls generalizing engine with
  | nil => rfl
  | cons call more induction =>
      exact congrArg (engine.performedCall call ++ ·) (induction _)

/-- After any calls, an export writes files with ordinary names into the folder
of its kind, whatever wells, grids and views are called.  On the disk nothing
changes but these files and folders that were not there. -/
theorem exports_stay_in_folder {engine : Engine} (blank : engine.Blank)
    (calls : List Call) {earlier later : List Step} {step : Step}
    (split : engine.trace calls = earlier ++ step :: later) {kind : ExportKind}
    (naming : (step.invocation.name, kind) ∈ Builtin.namingExports)
    (flat : step.invocation.name = "exportSnapshots" →
      '/' ∉ (step.invocation.arguments.textOr "prefix" "").toList) :
    let folder := step.before.exportFolder kind
    ∃ names : List String, (∀ name ∈ names, IsFileName name) ∧
      step.after.application.written =
        step.before.application.written ++ names.map folder.child ∧
      ∀ location,
        step.after.disk.find? location = step.before.disk.find? location ∨
        (step.before.disk.find? location = none ∧
          step.after.disk.find? location = some .folder) ∨
        ∃ name ∈ names, ∃ base,
          step.after.disk.walk (step.after.disk.startOf folder)
            (Disk.stepsOf folder) = .ok base ∧
          location = base ++ [name] := by
  intro folder
  have reached : Reached (engine.trace calls)
      (engine.runCalls calls).2.workspace :=
    reached_runCalls (.start blank.application blank.session blank.folders)
      blank.registry calls
  have told := (reached.before_step split).1.toldBy
  have member : step ∈ engine.handledAll (calls.map .call) := by
    rw [handledAll_map_call, split]
    exact List.mem_append_right _ List.mem_cons_self
  have jobs : ∀ job ∈ calls.map Job.call, job.IsBuiltin := by
    intro job inside
    obtain ⟨call, _, rfl⟩ := List.mem_map.mp inside
    exact trivial
  obtain ⟨objects, builtin⟩ :=
    isBuiltin_of_mem_handledAll blank.registry jobs member
  obtain ⟨names, ordinary, written, grows⟩ :=
    Step.writesInto_of_namingExports builtin
      (told.application.trans told.session.symm) naming flat
  refine ⟨names, ordinary, written, ?_⟩
  intro location
  rcases grows.elsewhere location with same | made | ⟨path, inside, there⟩
  · exact .inl same
  · exact .inr (.inl made)
  · obtain ⟨name, known, rfl⟩ := List.mem_map.mp inside
    exact .inr (.inr ⟨name, known,
      Disk.exists_of_locate_child (ordinary name known) there⟩)

/-- Wells that are called like other folders, and a prefix of dots. -/
theorem exports_stay_in_folder_hostile :
    let application := ({} : Application).withPreset ⟨"p/t.rsp"⟩
      { cases := [⟨"base.egrid"⟩], wellPaths := ["..", "/etc/wells", ""] }
    let engine : Engine := { workspace := { application } }
    let steps := engine.trace [.script ("openProject(\"p/t.rsp\") " ++
      "exportWellPaths() exportSnapshots(prefix=\"..\")")]
    let wellFiles : List Path :=
      [⟨"p/wellpaths/__.dev"⟩, ⟨"p/wellpaths/_etc_wells.dev"⟩,
        ⟨"p/wellpaths/.dev"⟩]
    ∃ wells snapshots, steps[1]? = some wells ∧ steps[2]? = some snapshots ∧
      (∃ names : List String, (∀ name ∈ names, IsFileName name) ∧
        wellFiles = names.map (⟨"p/wellpaths"⟩ : Path).child ∧
        wells.after.application.written = wellFiles) ∧
      ∃ names : List String, (∀ name ∈ names, IsFileName name) ∧
        [⟨"p/snapshots/..View_1.png.txt"⟩] =
          names.map (⟨"p/snapshots"⟩ : Path).child ∧
        snapshots.after.application.written =
          wellFiles ++ [⟨"p/snapshots/..View_1.png.txt"⟩] := by
  intro application engine steps wellFiles
  have blank : engine.Blank := ⟨rfl, rfl, rfl, rfl⟩
  obtain ⟨exporting, capturing⟩ :
      steps[1]?.map (fun step => (step.invocation.name,
          step.before.exportFolder .wellPaths, step.before.application.written,
          step.after.application.written)) =
        some ("exportWellPaths", ⟨"p/wellpaths"⟩, [], wellFiles) ∧
      steps[2]?.map (fun step => (step.invocation.name,
          step.before.exportFolder .snapshots, step.before.application.written,
          step.after.application.written,
          step.invocation.arguments.textOr "prefix" "")) =
        some ("exportSnapshots", ⟨"p/snapshots"⟩, wellFiles,
          wellFiles ++ [⟨"p/snapshots/..View_1.png.txt"⟩], "..") := by
    decide +kernel
  obtain ⟨wells, second, seen⟩ := Option.map_eq_some_iff.mp exporting
  obtain ⟨snapshots, third, captured⟩ := Option.map_eq_some_iff.mp capturing
  simp only [Prod.mk.injEq] at seen captured
  obtain ⟨name, folder, before, after⟩ := seen
  obtain ⟨lastName, lastFolder, lastBefore, lastAfter, stem⟩ := captured
  obtain ⟨_, _, split⟩ := List.append_of_mem (List.mem_of_getElem? second)
  obtain ⟨_, _, lastSplit⟩ := List.append_of_mem (List.mem_of_getElem? third)
  have naming : (wells.invocation.name, ExportKind.wellPaths) ∈
      Builtin.namingExports := by
    rw [name]
    decide
  have lastNaming : (snapshots.invocation.name, ExportKind.snapshots) ∈
      Builtin.namingExports := by
    rw [lastName]
    decide
  obtain ⟨names, ordinary, written, _⟩ := exports_stay_in_folder blank _ split
    naming (by simp [name])
  obtain ⟨more, moreOrdinary, moreWritten, _⟩ :=
    exports_stay_in_folder blank _ lastSplit lastNaming (by simp [stem])
  rw [before, after, folder, List.nil_append] at written
  rw [lastBefore, lastAfter, lastFolder] at moreWritten
  exact ⟨wells, snapshots, second, third, ⟨names, ordinary, written, after⟩,
    more, moreOrdinary, List.append_cancel_left moreWritten, lastAfter⟩

end Engine

end GridScript
