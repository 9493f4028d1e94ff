import GridScript.Engine.Basic
import GridScript.Proofs.Builtins
import GridScript.Proofs.Vocabulary

/-!
# What an engine has run

The history of an engine lists the commands that it ran, each with the workspace
that it found.  With the usual settings every command of a script is run, and
the answers are those of the history.
-/

namespace GridScript

namespace Workspace

/-- The workspace with a file of this content at the location. -/
def holding (location : Location) (content : ByteArray)
    (workspace : Workspace) : Workspace :=
  { workspace with disk := workspace.disk.put location (.file content) }

/-- The workspaces differ in no more than what stands at one location, and in
what commands cannot see. -/
structure AlikeOff (location : Location) (left right : Workspace) : Prop where
  application : left.application = right.application
  session : left.session = right.session
  disk : left.disk.SameOff location right.disk

theorem Alike.off {left right : Workspace} (alike : left.Alike right)
    (location : Location) : left.AlikeOff location right :=
  ⟨alike.application, alike.session, alike.disk.sameOff location⟩

theorem AlikeOff.trans {location : Location} {first second third : Workspace}
    (left : first.AlikeOff location second)
    (right : second.AlikeOff location third) :
    first.AlikeOff location third :=
  ⟨left.application.trans right.application, left.session.trans right.session,
    left.disk.trans right.disk⟩

theorem AlikeOff.holding {location : Location} {left right : Workspace}
    (alike : left.AlikeOff location right) (content : ByteArray) :
    (left.holding location content).Alike (right.holding location content) :=
  ⟨alike.application, alike.session, alike.disk.put _⟩

theorem holding_off (workspace : Workspace) (location : Location)
    (content : ByteArray) :
    (workspace.holding location content).AlikeOff location workspace :=
  ⟨rfl, rfl, Disk.sameOff_put _ _ _⟩

/-- A file that stands there already changes nothing. -/
theorem holding_alike {location : Location} (below : location ≠ [])
    {content : ByteArray} {workspace : Workspace}
    (stands : workspace.disk.find? location = some (.file content)) :
    (workspace.holding location content).Alike workspace :=
  ⟨rfl, rfl, Disk.same_put_of_find? below stands⟩

end Workspace

/-- One command that was run, and the workspace that it found. -/
structure Step where
  before : Workspace
  invocation : Invocation

namespace Step

def response (step : Step) : Response :=
  (step.invocation.run.run step.before).1

/-- The workspace as the command left it. -/
def after (step : Step) : Workspace :=
  (step.invocation.run.run step.before).2

/-- Whatever a file at the location holds, the command does the same and leaves
the file as it is. -/
def LeavesAlone (location : Location) (step : Step) : Prop :=
  ∀ content : ByteArray,
    let other : Step :=
      { step with before := step.before.holding location content }
    other.response = step.response ∧
      other.after.Alike (step.after.holding location content)

/-- A file at the location is left as it is. -/
def Spares (location : Location) (step : Step) : Prop :=
  ∀ content : ByteArray,
    step.before.disk.find? location = some (.file content) →
      step.after.disk.find? location = some (.file content)

theorem spares_of_find?_eq {location : Location} {step : Step}
    (same : step.after.disk.find? location =
      step.before.disk.find? location) : step.Spares location :=
  fun _ stands => same.trans stands

theorem LeavesAlone.spares {location : Location} (below : location ≠ [])
    {step : Step} (alone : step.LeavesAlone location)
    (builtin : step.invocation.command ∈ Builtin.commands) :
    step.Spares location := by
  intro content stands
  have alike := Workspace.holding_alike below stands
  have same := (Builtin.agree_run builtin step.invocation.arguments _ _
    alike).2
  have kept := same.symm.trans (alone content).2
  have here := kept.disk.find? location
  rw [Workspace.holding, Disk.find?_put_self _ below] at here
  exact here

/-- The keyword of the command, and how it answered. -/
def answer (step : Step) : String × Response :=
  (step.invocation.keyword, step.response)

end Step

/-- The commands that were run, by keyword, and how they answered. -/
def Outcome.answers (outcome : Outcome) : List (String × Response) :=
  outcome.executed.map fun executed => (executed.keyword, executed.response)

namespace Engine

/-! ### Notices -/

/-- The engines differ in nothing but their journals. -/
structure Notes (before after : Engine) : Prop where
  registry : after.registry = before.registry
  settings : after.settings = before.settings
  recorder : after.recorder = before.recorder
  application : after.workspace.application = before.workspace.application
  session : after.workspace.session = before.workspace.session
  disk : after.workspace.disk = before.workspace.disk

theorem Notes.trans {first second third : Engine} (left : first.Notes second)
    (right : second.Notes third) : first.Notes third :=
  ⟨right.registry.trans left.registry, right.settings.trans left.settings,
    right.recorder.trans left.recorder,
    right.application.trans left.application,
    right.session.trans left.session, right.disk.trans left.disk⟩

theorem Notes.alike {before after : Engine} (notes : before.Notes after) :
    before.workspace.Alike after.workspace :=
  ⟨notes.application.symm, notes.session.symm, notes.disk ▸ .refl _⟩

theorem notes_note (engine : Engine) (level : Level) (text : String) :
    engine.Notes (engine.note level text) :=
  ⟨rfl, rfl, rfl, rfl, rfl, rfl⟩

theorem notes_noteIf (engine : Engine) (applies : Bool) (level : Level)
    (text : String) : engine.Notes (engine.noteIf applies level text) := by
  unfold noteIf
  split
  · exact engine.notes_note level text
  · exact ⟨rfl, rfl, rfl, rfl, rfl, rfl⟩

theorem notes_noteDiagnostics (engine : Engine)
    (diagnostics : List Diagnostic) :
    engine.Notes (engine.noteDiagnostics diagnostics) := by
  unfold noteDiagnostics
  induction diagnostics generalizing engine with
  | nil => exact ⟨rfl, rfl, rfl, rfl, rfl, rfl⟩
  | cons diagnostic diagnostics induction =>
      exact (engine.notes_note _ _).trans (induction _)

theorem notes_noteResponse (engine : Engine) (invocation : Invocation)
    (response : Response) :
    engine.Notes (engine.noteResponse invocation response) := by
  unfold noteResponse
  dsimp only
  split <;> exact engine.notes_note _ _

/-! ### Histories -/

/-- The commands, each with the workspace that it finds when they are run in
order. -/
def ran (engine : Engine) : List Invocation → List Step
  | [] => []
  | invocation :: more =>
      ⟨engine.workspace, invocation⟩ ::
        (engine.runInvocation invocation).2.ran more

/-- The command as a step from where the engine is. -/
def stepOf (engine : Engine) (invocation : Invocation) : Step where
  before := (engine.noteIf engine.settings.policy.echo .info
    ("> " ++ invocation.toScript)).workspace
  invocation := invocation

/-- The commands that are run; the last of them may end the run early. -/
def performed (engine : Engine) : List Invocation → List Step
  | [] => []
  | invocation :: more =>
      let step := engine.stepOf invocation
      if step.response.isError && engine.settings.policy.stopOnError then [step]
      else step :: (engine.runInvocation invocation).2.performed more

/-- The engine once it has told what there is to tell about a script. -/
def noted (engine : Engine) (text : String) : Engine :=
  let parsed := engine.read text
  (engine.noteDiagnostics parsed.diagnostics).noteIf (parsed.errorCount != 0)
    .warn ("script has " ++ natText parsed.errorCount ++ " parse errors")

/-- Runs scripts one after another. -/
def runScripts (engine : Engine) : List String → List Outcome × Engine
  | [] => ([], engine)
  | text :: more =>
      let done := engine.runScript text
      let rest := done.2.runScripts more
      (done.1 :: rest.1, rest.2)

/-- The commands of the scripts, each with the workspace that it finds when the
scripts are run one after another. -/
def history (engine : Engine) : List String → List Step
  | [] => []
  | text :: more =>
      (engine.noted text).ran (engine.read text).invocations ++
        (engine.runScript text).2.history more

theorem notes_noted (engine : Engine) (text : String) :
    engine.Notes (engine.noted text) :=
  (engine.notes_noteDiagnostics _).trans (notes_noteIf _ _ _ _)

theorem map_invocation_ran (engine : Engine) (invocations : List Invocation) :
    (engine.ran invocations).map (·.invocation) = invocations := by
  induction invocations generalizing engine with
  | nil => rfl
  | cons invocation more induction =>
      rw [ran, List.map_cons, induction]

/-- The engine has the built-in commands and the usual settings. -/
structure Usual (engine : Engine) : Prop where
  registry : engine.registry = .builtin
  settings : engine.settings = {}

theorem Usual.notes {before after : Engine} (usual : before.Usual)
    (notes : before.Notes after) : after.Usual :=
  ⟨notes.registry.trans usual.registry, notes.settings.trans usual.settings⟩

theorem Usual.stepOf_eq {engine : Engine} (usual : engine.Usual)
    (invocation : Invocation) :
    engine.stepOf invocation = ⟨engine.workspace, invocation⟩ := by
  simp [stepOf, noteIf, usual.settings]

theorem Usual.runInvocation_response {engine : Engine} (usual : engine.Usual)
    (invocation : Invocation) :
    (engine.runInvocation invocation).1 =
      Step.response ⟨engine.workspace, invocation⟩ := by
  simp [Engine.runInvocation, noteIf, usual.settings, Step.response]

theorem Usual.runInvocation_engine {engine : Engine} (usual : engine.Usual)
    (invocation : Invocation) :
    let step : Step := ⟨engine.workspace, invocation⟩
    (engine.runInvocation invocation).2 =
      ({ engine with workspace := step.after }.noteResponse invocation
        step.response).record invocation step.response := by
  simp [Engine.runInvocation, noteIf, usual.settings, Step.response,
    Step.after]

theorem Usual.runInvocations_cons {engine : Engine} (usual : engine.Usual)
    (invocation : Invocation) (more : List Invocation) :
    engine.runInvocations (invocation :: more) =
      let done := engine.runInvocation invocation
      let rest := done.2.runInvocations more
      (⟨⟨invocation.keyword, invocation.line, done.1⟩ :: rest.1.executed,
        rest.1.stopped⟩, rest.2) := by
  simp [runInvocations, usual.settings]

theorem Usual.runInvocation {engine : Engine} (usual : engine.Usual)
    (invocation : Invocation) : (engine.runInvocation invocation).2.Usual := by
  have recorded : ∀ (engine : Engine) (response : Response), engine.Usual →
      (engine.record invocation response).Usual := by
    intro engine response usual
    unfold record
    split <;> exact ⟨usual.registry, usual.settings⟩
  rw [usual.runInvocation_engine]
  apply recorded
  refine Usual.notes ?_ (notes_noteResponse _ _ _)
  exact ⟨usual.registry, usual.settings⟩

theorem Usual.runInvocations {engine : Engine} (usual : engine.Usual)
    (invocations : List Invocation) :
    (engine.runInvocations invocations).2.Usual := by
  induction invocations generalizing engine with
  | nil => exact usual
  | cons invocation more induction =>
      rw [usual.runInvocations_cons]
      exact induction (usual.runInvocation invocation)

/-- All commands are run, and answer in order. -/
theorem Usual.executed_runInvocations {engine : Engine} (usual : engine.Usual)
    (invocations : List Invocation) :
    (engine.runInvocations invocations).1.executed.map
        (fun executed => (executed.keyword, executed.response)) =
      (engine.ran invocations).map Step.answer := by
  induction invocations generalizing engine with
  | nil => rfl
  | cons invocation more induction =>
      rw [usual.runInvocations_cons, ran, List.map_cons, List.map_cons,
        induction (usual.runInvocation invocation),
        usual.runInvocation_response]
      rfl

theorem Usual.runScript_engine {engine : Engine} (usual : engine.Usual)
    (text : String) :
    (engine.runScript text).2 = ((engine.noted text).runInvocations
      (engine.read text).invocations).2 := by
  simp [Engine.runScript, usual.settings, noted]

theorem Usual.answers_runScript {engine : Engine} (usual : engine.Usual)
    (text : String) :
    (engine.runScript text).1.answers = ((engine.noted text).ran
      (engine.read text).invocations).map Step.answer := by
  have told := usual.notes (engine.notes_noted text)
  rw [← told.executed_runInvocations]
  simp [Engine.runScript, usual.settings, noted, Outcome.answers]

theorem Usual.runScript {engine : Engine} (usual : engine.Usual)
    (text : String) : (engine.runScript text).2.Usual := by
  rw [usual.runScript_engine]
  exact (usual.notes (engine.notes_noted text)).runInvocations _

/-- Scripts answer what their histories answer. -/
theorem Usual.answers_runScripts {engine : Engine} (usual : engine.Usual)
    (scripts : List String) :
    (engine.runScripts scripts).1.flatMap Outcome.answers =
      (engine.history scripts).map Step.answer := by
  induction scripts generalizing engine with
  | nil => rfl
  | cons script more induction =>
      rw [history, List.map_append, ← induction (usual.runScript script),
        ← usual.answers_runScript]
      rfl

theorem Usual.isBuiltin_of_mem_read {engine : Engine} (usual : engine.Usual)
    {text : String} {invocation : Invocation}
    (member : invocation ∈ (engine.read text).invocations) :
    invocation.IsBuiltin engine.workspace.application.objectTable := by
  rw [Engine.read, usual.registry] at member
  exact Invocation.isBuiltin_of_mem member

theorem Usual.isBuiltin_of_mem_history {engine : Engine}
    (usual : engine.Usual) {scripts : List String} {step : Step}
    (member : step ∈ engine.history scripts) :
    ∃ shape, step.invocation.IsBuiltin shape := by
  induction scripts generalizing engine with
  | nil => cases member
  | cons script more induction =>
      rcases List.mem_append.mp member with here | later
      · have inside := List.mem_map_of_mem (f := Step.invocation) here
        rw [map_invocation_ran] at inside
        exact ⟨_, usual.isBuiltin_of_mem_read inside⟩
      · exact induction (usual.runScript script) later

end Engine

end GridScript
