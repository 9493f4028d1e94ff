import GridScript.Proofs.Atomicity
import GridScript.Proofs.History

/-!
# Which project is open after a command

The session and the application each remember the project that is open.  Only
three built-in commands change what they remember, or the export folders: the
one that opens a project, the one that closes it and the one that sets a folder.
A step says what it leaves, so what is open can be read off the steps alone.
-/

namespace GridScript

theorem ExportKind.eq_scriptName_of_ofScriptName? {given : Option String}
    {kind : ExportKind} (named : ofScriptName? (given.getD "") = some kind) :
    given = some kind.scriptName := by
  have found := List.find?_some named
  have same : kind.scriptName = given.getD "" := eq_of_beq found
  cases given with
  | none =>
      have named : ∀ kind ∈ all, kind.scriptName ≠ "" := by decide
      exact absurd same (named kind kind.mem_all)
  | some name => exact congrArg some same.symm

theorem ExportKind.scriptName_injective {left right : ExportKind}
    (same : left.scriptName = right.scriptName) : left = right := by
  have found := ofScriptName?_scriptName left
  rw [same, ofScriptName?_scriptName] at found
  exact (Option.some.inj found).symm

theorem ByKind.get?_empty {α : Type} (kind : ExportKind) :
    (ByKind.empty : ByKind α).get? kind = none := by
  cases kind <;> rfl

/-! ### The wording of failures -/

theorem head?_toList_append {front : String} {c : Char}
    (first : front.toList.head? = some c) (rest : String) :
    (front ++ rest).toList.head? = some c := by
  rw [String.toList_append, List.head?_append, first]
  rfl

namespace CommandError

/-- The first character of the wording. -/
def initial : CommandError → Char
  | unknownCommand _ => 'u'
  | invalidArgument _ _ | invalidManifest => 'i'
  | missingArgument _ => 'm'
  | objectNotFound _ => 'o'
  | projectNotOpen _ => 'n'
  | disk _ => 'I'
  | emptyGridList _ => 'g'
  | duplicateCommand _ | unreadableSettings _ _ | malformedSettings
  | unreadableScript _ _ | unreadableGridList _ _ | folderNotCreated _ _ => 'c'

theorem head?_message (cause : CommandError) :
    cause.message.toList.head? = some cause.initial := by
  have next := @head?_toList_append
  cases cause with
  | malformedSettings | invalidManifest => rfl
  | unknownCommand _ | duplicateCommand _ | missingArgument _
  | objectNotFound _ | disk _ => exact next rfl _
  | projectNotOpen _ | emptyGridList _ => exact next (next rfl _) _
  | invalidArgument _ _ | unreadableSettings _ _ | unreadableScript _ _
  | unreadableGridList _ _ | folderNotCreated _ _ =>
      exact next (next (next rfl _) _) _

end CommandError

theorem Response.message_error (text : String) :
    (Response.error text).message = text := by
  have blank : "".isEmpty = true := by decide
  simp only [error, update, ok, blank, if_true]
  split
  · rename_i empty
    exact (String.isEmpty_iff.mp empty).symm
  · rfl

/-- No other failure has the wording of a missing project. -/
theorem CommandError.wantsProject_of_ofError {cause : CommandError}
    {keyword : String}
    (same : Response.ofError cause = .ofError (.projectNotOpen keyword)) :
    cause.wantsProject = true := by
  have message : cause.message = (projectNotOpen keyword).message := by
    have wordings := congrArg Response.message same
    rw [Response.ofError, Response.ofError, Response.message_error,
      Response.message_error] at wordings
    exact wordings
  have first := congrArg (·.toList.head?) message
  simp only [head?_message, Option.some.injEq] at first
  cases cause with
  | projectNotOpen other => rfl
  | _ => simp [initial] at first

theorem Action.project_of_openProject {path : Path}
    {before after : Workspace}
    (ran : (openProject path).run.run before = (.ok (), after)) :
    after.application.project = some path := by
  obtain ⟨manifest, middle, _, rest⟩ := exists_of_run_bind ran
  cases rest
  rfl

namespace Builtin

open GridScript.Action

/-! ### Commands that keep the project -/

theorem sameProject_setStartDir (arguments : Arguments) :
    Within .sameProject (runSetStartDir arguments) := by
  apply within_bind (within_requiredPath _ _)
  intro folder
  apply within_get
  intro workspace
  apply within_bind
  · exact within_modify fun before => ⟨rfl, rfl, rfl⟩
  · intro _
    split
    · exact within_pure _
    · exact within_pure _

theorem sameProject_loadCase (arguments : Arguments) :
    Within .sameProject (runLoadCase arguments) := by
  apply within_bind (within_requiredPath _ _)
  intro path
  apply within_bind
  · exact within_loadCase fun before => ⟨rfl, rfl, rfl⟩
  · intro id
    exact within_bind (within_print _) fun _ => within_pure _

theorem sameProject_setTimeStep (arguments : Arguments) :
    Within .sameProject (runSetTimeStep arguments) := by
  apply within_bind (within_nonNegative _ _)
  intro timeStep
  apply within_bind
  · exact within_setTimeStep fun before change _ => ⟨rfl, rfl, rfl⟩
  · intro _
    exact within_pure _

section

variable {arguments : Arguments} {before : Workspace} {project : Path}

theorem sameProject_replaceCase
    (isOpen : before.session.lastProject = some project) :
    let done := (runReplaceCase arguments).run.run before
    Frame.sameProject.Allows before done.2 ∧
      ∀ cause, done.1 = .error cause → cause.wantsProject = false := by
  rw [runReplaceCase, run_requireProject_some isOpen]
  refine within_bind (within_requiredPath _ _) (fun grid => ?_) before
  apply within_bind
  · exact within_replaceCase fun before change _ => ⟨rfl, rfl, rfl⟩
  · intro _
    exact within_pure _

theorem sameProject_replaceSourceCases
    (isOpen : before.session.lastProject = some project) :
    let done := (runReplaceSourceCases arguments).run.run before
    Frame.sameProject.Allows before done.2 ∧
      ∀ cause, done.1 = .error cause → cause.wantsProject = false := by
  rw [runReplaceSourceCases, run_requireProject_some isOpen]
  refine within_bind (within_requiredPath _ _) (fun path => ?_) before
  apply within_bind (within_readGridList path)
  intro grids
  apply within_bind
  · exact within_replaceSourceCases fun before change _ => ⟨rfl, rfl, rfl⟩
  · intro _
    exact within_bind (within_print _) fun _ => within_pure _

end

/-- The commands that leave alone which project is open and where exports go. -/
def bystanders : List Command :=
  [setStartDir, loadCase, replaceCase, replaceSourceCases, setTimeStep] ++
    exports

theorem mem_bystanders_or {command : Command} (builtin : command ∈ commands) :
    command ∈ bystanders ∨ command = openProject ∨ command = closeProject ∨
      command = setExportFolder ∨ command = exportMultiCaseSnapshots := by
  simp only [commands, bystanders, exports, List.mem_cons, List.mem_append,
    List.not_mem_nil, or_false] at builtin ⊢
  grind

theorem sameProject_run {command : Command} (member : command ∈ bystanders)
    (arguments : Arguments) (before : Workspace) :
    before.SameProject ((command.run arguments).run before).2 := by
  have state : ∀ {action : Arguments → Action Response},
      before.SameProject ((action arguments).run.run before).2 →
        before.SameProject
          ((Command.ofAction action arguments).run before).2 := by
    intro action allowed
    rw [Command.run_ofAction]
    exact allowed
  rcases List.mem_append.mp member with single | exporting
  · simp only [List.mem_cons, List.not_mem_nil, or_false] at single
    rcases single with rfl | rfl | rfl | rfl | rfl
    · exact state (sameProject_setStartDir arguments before).1
    · exact state (sameProject_loadCase arguments before).1
    · apply state
      have kept : Frame.sameProject.Allows before
          ((runReplaceCase arguments).run.run before).2 :=
        allows_requireProject fun _ isOpen => (sameProject_replaceCase isOpen).1
      exact kept
    · apply state
      have kept : Frame.sameProject.Allows before
          ((runReplaceSourceCases arguments).run.run before).2 :=
        allows_requireProject fun _ isOpen =>
          (sameProject_replaceSourceCases isOpen).1
      exact kept
    · exact state (sameProject_setTimeStep arguments before).1
  · have allowed : Frame.sameProject.Allows before
        ((command.run arguments).run before).2 :=
      within_run_exports exporting arguments before
    exact allowed

/-! ### Opening and closing a project, and setting a folder -/

section

variable {arguments : Arguments} {before after : Workspace}

theorem run_requiredPath {name : String} {path : Path}
    (ran : (requiredPath arguments name).run.run before = (.ok path, after)) :
    path = before.session.resolvePath ⟨arguments.textOr name ""⟩ ∧
      after = before := by
  rw [Arguments.textOr]
  unfold requiredPath requiredText at ran
  cases given : arguments.text? name with
  | none =>
      rw [given] at ran
      cases ran
  | some text =>
      rw [given] at ran
      dsimp only at ran
      split at ran
      · cases ran
      · cases ran
        exact ⟨rfl, rfl⟩

/-- The project that was opened is the one of the session and of the
application, and no export folder is set. -/
theorem run_openProject {response : Response}
    (ran : (runOpenProject arguments).run.run before = (.ok response, after)) :
    let path := before.session.resolvePath ⟨arguments.textOr "path" ""⟩
    after.application.project = some path ∧
      after.session.lastProject = some path ∧
      after.session.exportPaths = .empty := by
  obtain ⟨path, start, given, opening⟩ := exists_of_run_bind ran
  obtain ⟨rfl, rfl⟩ := run_requiredPath given
  obtain ⟨_, opened, wasOpened, starting⟩ := exists_of_run_bind opening
  have project := project_of_openProject wasOpened
  obtain ⟨_, started, reset, printing⟩ := exists_of_run_bind starting
  cases reset
  obtain ⟨_, printed, told, done⟩ := exists_of_run_bind printing
  have kept : Frame.sameProject.Allows _ printed :=
    (within_print _).allows told
  cases done
  exact ⟨kept.application.trans project, kept.session, kept.folders⟩

theorem run_closeProject
    (agree : before.session.lastProject = before.application.project) :
    let done := (runCloseProject).run.run before
    done.2.application.project = none ∧ done.2.session.lastProject = none ∧
      done.2.session.exportPaths = before.session.exportPaths := by
  have shape : runCloseProject.run.run before =
      (if before.application.project.isNone then
        return .warning "no project is open"
      else do
        Action.closeProject
        Action.changeSession Session.projectClosed
        return .ok : Action Response).run.run before := rfl
  rw [shape]
  split
  · rename_i closed
    have none := Option.isNone_iff_eq_none.mp closed
    exact ⟨none, agree.trans none, rfl⟩
  · exact ⟨rfl, rfl, rfl⟩

theorem run_setFolder {kind : ExportKind} {folder : Path} {known : Bool}
    {response : Response}
    (ran : (setFolder kind folder known).run.run before =
      (.ok response, after)) :
    after.application.project = before.application.project ∧
      after.session.lastProject = before.session.lastProject ∧
      after.session.exportPaths =
        before.session.exportPaths.insert kind folder := by
  obtain ⟨_, printed, told, setting⟩ := exists_of_run_bind ran
  have kept : Frame.sameProject.Allows before printed :=
    (within_print _).allows told
  have shape : (.ok response, after) = (if known then return .ok
      else return .warning ("export folder " ++ folder.text ++
        " does not exist") : Action Response).run.run
      { printed with session := printed.session.setExportPath kind folder } :=
    setting.symm
  have state : after = { printed with
      session := printed.session.setExportPath kind folder } := by
    split at shape
    · cases shape
      rfl
    · cases shape
      rfl
  subst state
  exact ⟨kept.application, kept.session,
    congrArg (·.insert kind folder) kept.folders⟩

theorem run_setExportFolder {response : Response}
    (ran : (runSetExportFolder arguments).run.run before =
      (.ok response, after)) :
    ∃ kind : ExportKind, arguments.variant? "type" = some kind.scriptName ∧
      after.application.project = before.application.project ∧
      after.session.lastProject = before.session.lastProject ∧
      after.session.exportPaths = before.session.exportPaths.insert kind
        (before.session.resolvePath ⟨arguments.textOr "path" ""⟩) := by
  unfold runSetExportFolder at ran
  dsimp only at ran
  split at ran
  · rename_i kind named
    refine ⟨kind, ExportKind.eq_scriptName_of_ofScriptName? named, ?_⟩
    obtain ⟨folder, start, given, looking⟩ := exists_of_run_bind ran
    obtain ⟨rfl, rfl⟩ := run_requiredPath given
    obtain ⟨workspace, _, seen, making⟩ := exists_of_run_bind looking
    cases seen
    split at making
    · obtain ⟨_, made, created, setting⟩ := exists_of_run_bind making
      have kept : Frame.sameProject.Allows start made :=
        (within_createFolders _ fun _ => rfl).allows created
      obtain ⟨project, last, folders⟩ := run_setFolder setting
      rw [kept.folders] at folders
      exact ⟨project.trans kept.application, last.trans kept.session, folders⟩
    · exact run_setFolder making
  · cases ran

end

/-- Going through many grids opens the project that was open. -/
theorem project_exportMultiCaseSnapshots {arguments : Arguments}
    {before : Workspace}
    (agree : before.session.lastProject = before.application.project) :
    ((exportMultiCaseSnapshots.run arguments).run before).2.application.project
      = before.application.project := by
  change ((Command.ofAction runExportMultiCaseSnapshots arguments).run
    before).2.application.project = _
  rw [Command.run_ofAction]
  dsimp only
  cases status : before.session.lastProject with
  | none =>
      rw [runExportMultiCaseSnapshots, run_requireProject_none status]
  | some project =>
      rcases (reopening_exportMultiCaseSnapshots status).1.2 with same | opened
      · exact same
      · rw [opened, ← agree, status]

/-! ### Asking for a project -/

/-- A command that asks for a project first answers that none is open exactly if
none is. -/
theorem response_eq_projectNotOpen_iff {keyword : String}
    {action : Arguments → Action Response} {arguments : Arguments}
    {before : Workspace}
    (closed : before.session.lastProject = none →
      ((action arguments).run.run before).1 =
        .error (.projectNotOpen keyword))
    (other : ∀ project, before.session.lastProject = some project →
      ∀ cause, ((action arguments).run.run before).1 = .error cause →
        cause.wantsProject = false)
    (gives : ∀ response,
      ((action arguments).run.run before).1 = .ok response →
        response ≠ .ofError (.projectNotOpen keyword)) :
    ((Command.ofAction action arguments).run before).1 =
        .ofError (.projectNotOpen keyword) ↔
      before.session.lastProject = none := by
  rw [Command.run_ofAction]
  dsimp only
  cases status : before.session.lastProject with
  | none => simp [closed status]
  | some project =>
      simp only [reduceCtorEq, iff_false]
      cases answer : ((action arguments).run.run before).1 with
      | ok response => exact gives response answer
      | error cause =>
          intro same
          have wanted := CommandError.wantsProject_of_ofError same
          rw [other project status cause answer] at wanted
          cases wanted

theorem ne_ofError_of_noError {response : Response}
    (fine : response.NoError) (cause : CommandError) :
    response ≠ .ofError cause := by
  rintro rfl
  cases fine

theorem ne_ofError_of_exportMultiCaseSnapshots {arguments : Arguments}
    {before after : Workspace} {response : Response}
    (ran : (runExportMultiCaseSnapshots arguments).run.run before =
      (.ok response, after)) (cause : CommandError) :
    response ≠ .ofError cause := by
  obtain ⟨_, _, _, path⟩ := exists_of_run_bind ran
  obtain ⟨_, _, _, reading⟩ := exists_of_run_bind path
  obtain ⟨_, _, _, grids⟩ := exists_of_run_bind reading
  obtain ⟨_, _, _, telling⟩ := exists_of_run_bind grids
  obtain ⟨_, _, _, answer⟩ := exists_of_run_bind telling
  cases answer
  intro same
  cases congrArg Response.result same

/-- The commands that need an open project. -/
def projectCommands : List Command :=
  [replaceCase, replaceSourceCases, exportMultiCaseSnapshots]

theorem projectNotOpen_iff {command : Command}
    (member : command ∈ projectCommands) (arguments : Arguments)
    (before : Workspace) :
    ((command.run arguments).run before).1 =
        .ofError (.projectNotOpen command.name) ↔
      before.session.lastProject = none := by
  simp only [projectCommands, List.mem_cons, List.not_mem_nil, or_false]
    at member
  rcases member with rfl | rfl | rfl
  · apply response_eq_projectNotOpen_iff
    · intro closed
      rw [runReplaceCase, run_requireProject_none closed]
      rfl
    · intro project isOpen
      exact (sameProject_replaceCase isOpen).2
    · intro response given
      exact ne_ofError_of_noError ((atomic_replaceCase arguments).fine given) _
  · apply response_eq_projectNotOpen_iff
    · intro closed
      rw [runReplaceSourceCases, run_requireProject_none closed]
      rfl
    · intro project isOpen
      exact (sameProject_replaceSourceCases isOpen).2
    · intro response given
      exact ne_ofError_of_noError
        ((atomic_replaceSourceCases arguments).fine given) _
  · apply response_eq_projectNotOpen_iff
    · intro closed
      rw [runExportMultiCaseSnapshots, run_requireProject_none closed]
      rfl
    · intro project isOpen
      exact (reopening_exportMultiCaseSnapshots isOpen).2
    · intro response given
      exact ne_ofError_of_exportMultiCaseSnapshots (Prod.ext given rfl) _

end Builtin

namespace Step

/-- The path that the command was given, as the session saw it. -/
def path (step : Step) : Path :=
  step.before.session.resolvePath
    ⟨step.invocation.arguments.textOr "path" ""⟩

/-- Which project is open after the command, where it opens or closes one. -/
def projectLeft? (step : Step) : Option (Option Path) :=
  if step.invocation.name = "openProject" then
    if step.response.isError then none else some (some step.path)
  else if step.invocation.name = "closeProject" then some none
  else none

/-- Where exports of the kind go after the command, where it sets the folder or
opens a project, which forgets it. -/
def folderLeft? (kind : ExportKind) (step : Step) : Option (Option Path) :=
  if step.response.isError then none
  else if step.invocation.name = "openProject" then some none
  else if step.invocation.name = "setExportFolder" ∧
      step.invocation.arguments.variant? "type" = some kind.scriptName then
    some (some step.path)
  else none

/-- What was left by the last of the steps that say something about it; nothing
if there is none. -/
def lastLeft (left? : Step → Option (Option Path)) (steps : List Step) :
    Option Path :=
  ((steps.filterMap left?).getLast?).getD none

/-- The path of the last project that was opened successfully, unless a project
was closed after that. -/
def openProject (steps : List Step) : Option Path :=
  lastLeft projectLeft? steps

/-- The folder that was last set for the kind since a project was opened. -/
def exportFolder (kind : ExportKind) (steps : List Step) : Option Path :=
  lastLeft (folderLeft? kind) steps

theorem lastLeft_concat (left? : Step → Option (Option Path))
    (steps : List Step) (step : Step) :
    lastLeft left? (steps ++ [step]) =
      (left? step).getD (lastLeft left? steps) := by
  rw [lastLeft, List.filterMap_append]
  cases left : left? step with
  | none => simp [left, lastLeft]
  | some value => simp [left]

/-- What the step says about the project and the export folders is how it left
them; where it says nothing, it left them as they were. -/
structure Leaves (step : Step) : Prop where
  application : step.after.application.project =
    step.projectLeft?.getD step.before.application.project
  session : step.after.session.lastProject =
    step.projectLeft?.getD step.before.session.lastProject
  folders : ∀ kind, step.after.session.exportPaths.get? kind =
    (step.folderLeft? kind).getD (step.before.session.exportPaths.get? kind)

theorem leaves_of_sameProject {step : Step}
    (same : step.before.SameProject step.after)
    (project : step.projectLeft? = none)
    (folders : ∀ kind, step.folderLeft? kind = none) : step.Leaves := by
  refine ⟨?_, ?_, ?_⟩
  · rw [project]
    exact same.application
  · rw [project]
    exact same.session
  · intro kind
    rw [folders kind, same.folders]
    rfl

/-- If opening a project or setting a folder fails, it says nothing. -/
theorem leaves_of_isError {step : Step}
    (builtin : step.invocation.command ∈ Builtin.commands)
    (named : step.invocation.name = "openProject" ∨
      step.invocation.name = "setExportFolder")
    (failed : step.response.isError = true) : step.Leaves := by
  have single : step.invocation.command ≠
      Builtin.exportMultiCaseSnapshots := by
    intro multi
    have name : step.invocation.name = "exportMultiCaseSnapshots" :=
      congrArg Command.name multi
    simp [name] at named
  have writes : step.before.OnlyWrites step.after :=
    Builtin.onlyWrites_of_isError builtin single _ _ failed
  apply leaves_of_sameProject writes.sameProject
  · rcases named with opens | sets
    · simp [projectLeft?, opens, failed]
    · simp [projectLeft?, sets]
  · simp [folderLeft?, failed]

theorem exists_response {step : Step} {action : Arguments → Action Response}
    (runs : step.invocation.command.run = Command.ofAction action)
    (fine : step.response.isError = false) :
    ∃ response, (action step.invocation.arguments).run.run step.before =
      (.ok response, step.after) := by
  rw [response, Invocation.run, runs] at fine
  rw [after, Invocation.run, runs]
  exact Command.exists_of_not_isError fine

theorem leaves_openProject {step : Step}
    (opens : step.invocation.command = Builtin.openProject)
    (fine : step.response.isError = false) : step.Leaves := by
  have name : step.invocation.name = "openProject" :=
    congrArg Command.name opens
  have project : step.projectLeft? = some (some step.path) := by
    simp [projectLeft?, name, fine]
  obtain ⟨response, ran⟩ := exists_response (congrArg Command.run opens) fine
  obtain ⟨application, session, folders⟩ := Builtin.run_openProject ran
  refine ⟨?_, ?_, ?_⟩
  · rw [project]
    exact application
  · rw [project]
    exact session
  · intro kind
    have forgets : step.folderLeft? kind = some none := by
      simp [folderLeft?, name, fine]
    rw [forgets, folders, ByKind.get?_empty]
    rfl

theorem leaves_closeProject {step : Step}
    (closes : step.invocation.command = Builtin.closeProject)
    (agree : step.before.session.lastProject =
      step.before.application.project) : step.Leaves := by
  have name : step.invocation.name = "closeProject" :=
    congrArg Command.name closes
  have project : step.projectLeft? = some none := by
    simp [projectLeft?, name]
  have state : step.after =
      (Builtin.runCloseProject.run.run step.before).2 := by
    rw [after, Invocation.run, closes, Builtin.closeProject,
      Command.run_ofAction]
  obtain ⟨application, session, folders⟩ := Builtin.run_closeProject agree
  rw [← state] at application session folders
  refine ⟨?_, ?_, ?_⟩
  · rw [project]
    exact application
  · rw [project]
    exact session
  · intro kind
    have silent : step.folderLeft? kind = none := by
      simp [folderLeft?, name]
    rw [silent, folders]
    rfl

theorem leaves_setExportFolder {step : Step}
    (sets : step.invocation.command = Builtin.setExportFolder)
    (fine : step.response.isError = false) : step.Leaves := by
  have name : step.invocation.name = "setExportFolder" :=
    congrArg Command.name sets
  have silent : step.projectLeft? = none := by
    simp [projectLeft?, name]
  obtain ⟨response, ran⟩ := exists_response (congrArg Command.run sets) fine
  obtain ⟨kind, given, application, session, folders⟩ :=
    Builtin.run_setExportFolder ran
  refine ⟨?_, ?_, ?_⟩
  · rw [silent]
    exact application
  · rw [silent]
    exact session
  · intro other
    rw [folders]
    by_cases same : other = kind
    · have left : step.folderLeft? other = some (some step.path) := by
        simp [folderLeft?, name, fine, given, same]
      rw [left, same, ByKind.get?_insert_self]
      rfl
    · have different : kind.scriptName ≠ other.scriptName := by
        intro names
        exact same (ExportKind.scriptName_injective names.symm)
      have left : step.folderLeft? other = none := by
        simp [folderLeft?, name, given, different]
      rw [left, ByKind.get?_insert_of_ne _ _ same]
      rfl

theorem leaves_exportMultiCaseSnapshots {step : Step}
    (multi : step.invocation.command = Builtin.exportMultiCaseSnapshots)
    (agree : step.before.session.lastProject =
      step.before.application.project) : step.Leaves := by
  have name : step.invocation.name = "exportMultiCaseSnapshots" :=
    congrArg Command.name multi
  have state : step.after = ((Builtin.exportMultiCaseSnapshots.run
      step.invocation.arguments).run step.before).2 := by
    rw [after, Invocation.run, multi]
  have session : step.after.session = step.before.session := by
    rw [state]
    exact Builtin.session_exportMultiCaseSnapshots
  have project : step.after.application.project =
      step.before.application.project := by
    rw [state]
    exact Builtin.project_exportMultiCaseSnapshots agree
  apply leaves_of_sameProject
  · exact ⟨project, congrArg Session.lastProject session,
      congrArg Session.exportPaths session⟩
  · simp [projectLeft?, name]
  · simp [folderLeft?, name]

theorem leaves_bystander {step : Step}
    (member : step.invocation.command ∈ Builtin.bystanders) : step.Leaves := by
  have names : ∀ command ∈ Builtin.bystanders, command.name ≠ "openProject" ∧
      command.name ≠ "closeProject" ∧ command.name ≠ "setExportFolder" := by
    decide
  obtain ⟨opens, closes, sets⟩ := names _ member
  apply leaves_of_sameProject
  · exact Builtin.sameProject_run member _ _
  · simp [projectLeft?, Invocation.name, opens, closes]
  · simp [folderLeft?, Invocation.name, opens, sets]

/-- What one command does to the project and the export folders. -/
theorem leaves_of_builtin {step : Step}
    (builtin : step.invocation.command ∈ Builtin.commands)
    (agree : step.before.session.lastProject =
      step.before.application.project) : step.Leaves := by
  rcases Builtin.mem_bystanders_or builtin with
    member | opens | closes | sets | multi
  · exact leaves_bystander member
  · cases failed : step.response.isError with
    | true =>
        exact leaves_of_isError builtin (.inl (congrArg Command.name opens))
          failed
    | false => exact leaves_openProject opens failed
  · exact leaves_closeProject closes agree
  · cases failed : step.response.isError with
    | true =>
        exact leaves_of_isError builtin (.inr (congrArg Command.name sets))
          failed
    | false => exact leaves_setExportFolder sets failed
  · exact leaves_exportMultiCaseSnapshots multi agree

end Step

end GridScript
