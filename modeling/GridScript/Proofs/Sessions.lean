import GridScript.Proofs.InMemory
import GridScript.Proofs.Projects

/-!
# A session is determined by what was run

A session is a sequence of calls of an engine, each with a script or a file.
Its trace lists the commands that were run, whatever the settings are: scripts
may be skipped for their errors, and runs may stop early.  The project that is
open and the export folders can be read off the trace, and so can the answers
of commands that need a project.
-/

namespace GridScript

/-! ### Workspaces that a session reaches -/

/-- The workspace is reached from one without a project by these steps.  Between
them the files and the journal may change, and the start folder. -/
inductive Reached : List Step → Workspace → Prop where
  | start {workspace : Workspace}
      (application : workspace.application.project = none)
      (session : workspace.session.lastProject = none)
      (folders : workspace.session.exportPaths = .empty) :
      Reached [] workspace
  | between {steps : List Step} {before after : Workspace}
      (reached : Reached steps before)
      (same : before.SameProject after) : Reached steps after
  | step {steps : List Step} {step : Step}
      (reached : Reached steps step.before)
      (builtin : step.invocation.command ∈ Builtin.commands) :
      Reached (steps ++ [step]) step.after

/-- The project and the export folders of the workspace are those that the steps
tell. -/
structure Workspace.ToldBy (steps : List Step) (workspace : Workspace) :
    Prop where
  application : workspace.application.project = Step.openProject steps
  session : workspace.session.lastProject = Step.openProject steps
  folders : ∀ kind, workspace.session.exportPaths.get? kind =
    Step.exportFolder kind steps

namespace Reached

theorem toldBy {steps : List Step} {workspace : Workspace}
    (reached : Reached steps workspace) : workspace.ToldBy steps := by
  induction reached with
  | start application session folders =>
      refine ⟨application, session, ?_⟩
      intro kind
      rw [folders]
      exact ByKind.get?_empty kind
  | between _ same told =>
      obtain ⟨application, session, folders⟩ := same
      refine ⟨application.trans told.application,
        session.trans told.session, ?_⟩
      intro kind
      rw [folders]
      exact told.folders kind
  | @step steps step _ builtin told =>
      -- The session and the application agree so far, so closing a project
      -- and opening it again for many grids keep them in step.
      have leaves := Step.leaves_of_builtin builtin
        (told.session.trans told.application.symm)
      refine ⟨?_, ?_, ?_⟩
      · rw [leaves.application, told.application]
        exact (Step.lastLeft_concat _ steps step).symm
      · rw [leaves.session, told.session]
        exact (Step.lastLeft_concat _ steps step).symm
      · intro kind
        rw [leaves.folders, told.folders]
        exact (Step.lastLeft_concat _ steps step).symm

/-- Each step is one of a built-in command, from a workspace that was reached by
the steps before it. -/
theorem before_step {steps : List Step} {workspace : Workspace}
    (reached : Reached steps workspace) {earlier later : List Step}
    {step : Step} (split : steps = earlier ++ step :: later) :
    Reached earlier step.before ∧
      step.invocation.command ∈ Builtin.commands := by
  induction reached generalizing later with
  | start _ _ _ => simp at split
  | between _ _ induction => exact induction split
  | @step steps last reached builtin induction =>
      rcases List.eq_nil_or_concat later with rfl | ⟨front, final, rfl⟩
      · obtain ⟨rfl, same⟩ := List.append_inj' split rfl
        cases same
        exact ⟨reached, builtin⟩
      · rw [List.concat_eq_append, ← List.cons_append, ← List.append_assoc]
          at split
        exact induction (List.append_inj' split rfl).1

end Reached

theorem Builtin.mem_projectCommands_of_name {command : Command}
    (builtin : command ∈ commands)
    (named : command.name ∈ projectCommands.map (·.name)) :
    command ∈ projectCommands := by
  obtain ⟨other, member, same⟩ := List.mem_map.mp named
  have known : ∀ other ∈ projectCommands, other ∈ commands := by
    simp [projectCommands, commands]
  rw [← eq_of_name_eq (known other member) builtin same]
  exact member

/-! ### Calls of an engine -/

/-- What an engine can be asked to run. -/
inductive Call where
  | script (text : String)
  | file (path : Path)

/-- What an outcome reports about the command. -/
def Step.executed (step : Step) : Executed :=
  ⟨step.invocation.keyword, step.invocation.line, step.response⟩

namespace Engine

def call (engine : Engine) : Call → Except CommandError Outcome × Engine
  | .script text => (.ok (engine.runScript text).1, (engine.runScript text).2)
  | .file path => engine.runFile path

/-- Runs one call after another. -/
def runCalls (engine : Engine) :
    List Call → List (Except CommandError Outcome) × Engine
  | [] => ([], engine)
  | call :: more =>
      let done := engine.call call
      let rest := done.2.runCalls more
      (done.1 :: rest.1, rest.2)

/-- The commands of the script that are run. -/
def performedScript (engine : Engine) (text : String) : List Step :=
  let parsed := engine.read text
  if parsed.errorCount != 0 && engine.settings.policy.skipOnParseErrors then []
  else (engine.noted text).performed parsed.invocations

/-- The engine once it has read a file that it will run. -/
def opened (engine : Engine) (path : Path) : Engine :=
  (engine.startAt path).note .info ("executing command file " ++ path.text)

def performedCall (engine : Engine) : Call → List Step
  | .script text => engine.performedScript text
  | .file path =>
      match engine.workspace.disk.read path with
      | .error _ => []
      | .ok text => (engine.opened path).performedScript text

/-- All commands that are run, in order. -/
def trace (engine : Engine) : List Call → List Step
  | [] => []
  | call :: more =>
      engine.performedCall call ++ (engine.call call).2.trace more

/-! ### The trace is what outcomes report -/

theorem executed_runInvocations (engine : Engine)
    (invocations : List Invocation) :
    (engine.runInvocations invocations).1.executed =
      (engine.performed invocations).map Step.executed := by
  induction invocations generalizing engine with
  | nil => rfl
  | cons invocation more induction =>
      have same : (engine.runInvocation invocation).1 =
          (engine.stepOf invocation).response := rfl
      rw [runInvocations, performed]
      dsimp only
      rw [same]
      split
      · rfl
      · rw [List.map_cons, ← induction]
        rfl

/-- What a call that could be made reports. -/
def reported : Except CommandError Outcome → List Executed
  | .ok outcome => outcome.executed
  | .error _ => []

theorem executed_runScript (engine : Engine) (text : String) :
    (engine.runScript text).1.executed =
      (engine.performedScript text).map Step.executed := by
  unfold runScript performedScript
  dsimp only
  split
  · rfl
  · exact executed_runInvocations _ _

theorem reported_call (engine : Engine) (call : Call) :
    reported (engine.call call).1 =
      (engine.performedCall call).map Step.executed := by
  cases call with
  | script text => exact engine.executed_runScript text
  | file path =>
      rw [Engine.call, runFile, performedCall]
      cases engine.workspace.disk.read path with
      | error reason => rfl
      | ok text => exact executed_runScript _ text

theorem reported_runCalls (engine : Engine) (calls : List Call) :
    (engine.runCalls calls).1.flatMap reported =
      (engine.trace calls).map Step.executed := by
  induction calls generalizing engine with
  | nil => rfl
  | cons call more induction =>
      rw [trace, List.map_append, ← reported_call, ← induction]
      rfl

/-! ### What an engine reaches -/

theorem Notes.sameProject {before after : Engine}
    (notes : before.Notes after) :
    before.workspace.SameProject after.workspace :=
  ⟨congrArg Application.project notes.application,
    congrArg Session.lastProject notes.session,
    congrArg Session.exportPaths notes.session⟩

theorem sameProject_record (engine : Engine) (invocation : Invocation)
    (response : Response) :
    engine.workspace.SameProject
      (engine.record invocation response).workspace := by
  unfold record
  split <;> exact ⟨rfl, rfl, rfl⟩

theorem registry_record (engine : Engine) (invocation : Invocation)
    (response : Response) :
    (engine.record invocation response).registry = engine.registry := by
  unfold record
  split <;> rfl

theorem registry_runInvocation (engine : Engine) (invocation : Invocation) :
    (engine.runInvocation invocation).2.registry = engine.registry := by
  rw [runInvocation]
  dsimp only
  rw [registry_record, (notes_noteResponse _ _ _).registry]
  exact (notes_noteIf engine _ _ _).registry

theorem registry_runInvocations (engine : Engine)
    (invocations : List Invocation) :
    (engine.runInvocations invocations).2.registry = engine.registry := by
  induction invocations generalizing engine with
  | nil => rfl
  | cons invocation more induction =>
      rw [runInvocations]
      dsimp only
      split
      · rw [(notes_noteIf _ _ _ _).registry, registry_runInvocation]
      · rw [induction, registry_runInvocation]

theorem registry_runScript (engine : Engine) (text : String) :
    (engine.runScript text).2.registry = engine.registry := by
  unfold runScript
  dsimp only
  split
  · exact (engine.notes_noted text).registry
  · rw [registry_runInvocations]
    exact (engine.notes_noted text).registry

theorem registry_startAt (engine : Engine) (path : Path) :
    (engine.startAt path).registry = engine.registry := by
  unfold startAt
  split <;> rfl

theorem registry_call (engine : Engine) (call : Call) :
    (engine.call call).2.registry = engine.registry := by
  cases call with
  | script text => exact engine.registry_runScript text
  | file path =>
      rw [Engine.call, runFile]
      cases engine.workspace.disk.read path with
      | error reason => rfl
      | ok text =>
          exact (registry_runScript _ text).trans (engine.registry_startAt path)

section

variable {engine : Engine} {steps : List Step}

theorem reached_runInvocation (reached : Reached steps engine.workspace)
    {invocation : Invocation}
    (builtin : invocation.command ∈ Builtin.commands) :
    Reached (steps ++ [engine.stepOf invocation])
      (engine.runInvocation invocation).2.workspace := by
  let step := engine.stepOf invocation
  let done : Engine :=
    { engine.noteIf engine.settings.policy.echo .info
        ("> " ++ invocation.toScript) with workspace := step.after }
  have before : Reached steps step.before :=
    reached.between (engine.notes_noteIf _ _ _).sameProject
  have after : Reached (steps ++ [step]) done.workspace := before.step builtin
  have noted := after.between
    (done.notes_noteResponse invocation step.response).sameProject
  exact noted.between (sameProject_record _ _ _)

theorem reached_runInvocations (reached : Reached steps engine.workspace)
    {invocations : List Invocation}
    (builtin : ∀ invocation ∈ invocations,
      invocation.command ∈ Builtin.commands) :
    Reached (steps ++ engine.performed invocations)
      (engine.runInvocations invocations).2.workspace := by
  induction invocations generalizing engine steps with
  | nil =>
      rw [performed, List.append_nil]
      exact reached
  | cons invocation more induction =>
      have same : (engine.runInvocation invocation).1 =
          (engine.stepOf invocation).response := rfl
      have first := reached_runInvocation reached
        (builtin invocation List.mem_cons_self)
      rw [runInvocations, performed]
      dsimp only
      rw [same]
      split
      · exact first.between (notes_noteIf _ _ _ _).sameProject
      · have rest := induction first fun later member =>
          builtin later (List.mem_cons_of_mem _ member)
        rw [List.append_assoc] at rest
        exact rest

theorem reached_runScript (reached : Reached steps engine.workspace)
    (registry : engine.registry = .builtin) (text : String) :
    Reached (steps ++ engine.performedScript text)
      (engine.runScript text).2.workspace := by
  have noted := reached.between (engine.notes_noted text).sameProject
  have builtin : ∀ invocation ∈ (engine.read text).invocations,
      invocation.command ∈ Builtin.commands := by
    intro invocation member
    rw [Engine.read, registry] at member
    exact (Invocation.isBuiltin_of_mem member).command
  unfold runScript performedScript
  dsimp only
  split
  · rw [List.append_nil]
    exact noted.between (notes_note _ _ _).sameProject
  · exact reached_runInvocations noted builtin

theorem reached_opened (reached : Reached steps engine.workspace)
    (path : Path) : Reached steps (engine.opened path).workspace := by
  apply reached.between
  unfold opened startAt
  split <;> exact ⟨rfl, rfl, rfl⟩

theorem reached_call (reached : Reached steps engine.workspace)
    (registry : engine.registry = .builtin) (call : Call) :
    Reached (steps ++ engine.performedCall call)
      (engine.call call).2.workspace := by
  cases call with
  | script text => exact reached_runScript reached registry text
  | file path =>
      rw [Engine.call, runFile, performedCall]
      cases engine.workspace.disk.read path with
      | error reason =>
          rw [List.append_nil]
          exact reached
      | ok text =>
          have known : (engine.opened path).registry = .builtin :=
            (engine.registry_startAt path).trans registry
          exact reached_runScript (reached_opened reached path) known text

theorem reached_runCalls (reached : Reached steps engine.workspace)
    (registry : engine.registry = .builtin) (calls : List Call) :
    Reached (steps ++ engine.trace calls)
      (engine.runCalls calls).2.workspace := by
  induction calls generalizing engine steps with
  | nil =>
      rw [trace, List.append_nil]
      exact reached
  | cons call more induction =>
      have rest := induction (reached_call reached registry call)
        ((engine.registry_call call).trans registry)
      rw [List.append_assoc] at rest
      exact rest

end

/-- An engine with the built-in commands, whatever its settings are, that has
opened no project and set no export folder. -/
structure Blank (engine : Engine) : Prop where
  registry : engine.registry = .builtin
  application : engine.workspace.application.project = none
  session : engine.workspace.session.lastProject = none
  folders : engine.workspace.session.exportPaths = .empty

/-- New settings start a new session. -/
theorem blank_withSettings {engine : Engine}
    (registry : engine.registry = .builtin)
    (closed : engine.workspace.application.project = none)
    (settings : Settings) : (engine.withSettings settings).Blank :=
  ⟨registry, closed, rfl, rfl⟩

/-- After any calls the session and the application have the project open that
the trace tells, and exports go where it tells; and at each step, a command that
needs a project answers that none is open exactly if the steps before it tell of
none.  The trace is what the outcomes of the calls report. -/
theorem runCalls_toldBy_trace {engine : Engine} (blank : engine.Blank)
    (calls : List Call) :
    (engine.runCalls calls).1.flatMap reported =
        (engine.trace calls).map Step.executed ∧
      (engine.runCalls calls).2.workspace.ToldBy (engine.trace calls) ∧
      ∀ earlier step later, engine.trace calls = earlier ++ step :: later →
        step.invocation.name ∈
          ["replaceCase", "replaceSourceCases", "exportMultiCaseSnapshots"] →
        (step.response = .ofError (.projectNotOpen step.invocation.name) ↔
          Step.openProject earlier = none) := by
  have reached : Reached (engine.trace calls)
      (engine.runCalls calls).2.workspace :=
    reached_runCalls (.start blank.application blank.session blank.folders)
      blank.registry calls
  refine ⟨engine.reported_runCalls calls, reached.toldBy, ?_⟩
  intro earlier step later split named
  obtain ⟨before, builtin⟩ := reached.before_step split
  have needs := Builtin.mem_projectCommands_of_name builtin named
  rw [← before.toldBy.session]
  exact Builtin.projectNotOpen_iff needs step.invocation.arguments step.before

/-- The last script stops at a command that needs the project it has closed. -/
theorem runCalls_toldBy_trace_stopping :
    let engine := ({} : Engine).withSettings
      { policy := { stopOnError := true, echo := true } }
    let calls : List Call :=
      [.script "setExportFolder(type=CELLS, path=\"old\") openProject(\"a\")",
        .file ⟨"missing"⟩,
        .script ("setExportFolder(type=LGRS, path=\"new\") closeProject() " ++
          "replaceCase(\"g\") openProject(\"b\")")]
    let trace := engine.trace calls
    let done := (engine.runCalls calls).2.workspace
    trace.map (·.invocation.name) = ["setExportFolder", "openProject",
        "setExportFolder", "closeProject", "replaceCase"] ∧
      done.session.lastProject = none ∧ done.application.project = none ∧
      done.session.exportPaths.get? .cells = none ∧
      done.session.exportPaths.get? .lgrs = some ⟨"new"⟩ ∧
      ∃ last ∈ trace.getLast?,
        last.response = .ofError (.projectNotOpen "replaceCase") := by
  intro engine calls trace done
  have blank : engine.Blank := blank_withSettings rfl rfl _
  obtain ⟨_, told, needing⟩ := runCalls_toldBy_trace blank calls
  obtain ⟨names, project, closed, cells, lgrs⟩ :
      trace.map (·.invocation.name) = ["setExportFolder", "openProject",
        "setExportFolder", "closeProject", "replaceCase"] ∧
      Step.openProject trace = none ∧
      Step.openProject trace.dropLast = none ∧
      Step.exportFolder .cells trace = none ∧
      Step.exportFolder .lgrs trace = some ⟨"new"⟩ := by
    decide +kernel
  have ends : trace.getLast?.map (·.invocation.name) =
      some "replaceCase" := by
    rw [← List.getLast?_map, names]
    rfl
  obtain ⟨last, isLast, name⟩ := Option.map_eq_some_iff.mp ends
  obtain ⟨earlier, split⟩ := List.getLast?_eq_some_iff.mp isLast
  have front : trace.dropLast = earlier := by
    rw [split, List.dropLast_concat]
  rw [front] at closed
  have answer := (needing earlier last [] split (by simp [name])).mpr closed
  rw [name] at answer
  exact ⟨names, told.session.trans project, told.application.trans project,
    (told.folders .cells).trans cells, (told.folders .lgrs).trans lgrs, last,
    isLast, answer⟩

end Engine

end GridScript
