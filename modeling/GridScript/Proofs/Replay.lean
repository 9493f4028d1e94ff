import GridScript.Proofs.InMemory
import GridScript.Proofs.Records
import GridScript.Proofs.Restating

/-!
# Running a record again

A record is a script.  Running it again runs the recorded commands in order, but
all of their references are taken to objects of the application as it is before
the first of them.  So a record of one script always replays, and a record of
several scripts replays step by step exactly if no command depends on a
reference to an object that only came to be on the way.
-/

namespace GridScript

namespace Step

/-- Both steps run a command of the same name and have the same response, and
they leave the same behind but for the content of one file, which the second
step does not touch. -/
structure Matches (location : Location) (content : ByteArray)
    (first second : Step) : Prop where
  name : second.invocation.name = first.invocation.name
  response : second.response = first.response
  after : second.after.Alike (first.after.holding location content)

/-- The step would go the same way without its references to objects that are
not among the given ones. -/
def Survives (objects : ObjectTable) (location : Location)
    (content : ByteArray) (step : Step) : Prop :=
  step.Matches location content
    { before := step.before.holding location content
      invocation := step.invocation.resolved objects }

/-- A step whose objects are all known survives if it leaves the file alone. -/
theorem LeavesAlone.survives {objects : ObjectTable} {location : Location}
    {step : Step} (alone : step.LeavesAlone location)
    (sound : step.invocation.Sound objects) (content : ByteArray) :
    step.Survives objects location content := by
  obtain ⟨response, after⟩ := alone content
  have same := sound.resolved_eq_self
  refine ⟨rfl, ?_, ?_⟩
  · rw [same]
    exact response
  · rw [same]
    exact after

/-- A command that was written down and read again does the same as the command
itself without the objects that are not known. -/
theorem restated_alike (objects : ObjectTable) {shape : ObjectTable}
    {invocation : Invocation} (builtin : invocation.IsBuiltin shape)
    {left right : Workspace} (alike : left.Alike right) (line : Nat) :
    let read : Step := ⟨left, (invocation.restated line).resolved objects⟩
    let own : Step := ⟨right, invocation.resolved objects⟩
    read.response = own.response ∧ read.after.Alike own.after := by
  have agree := Builtin.agree_run builtin.command
    (invocation.resolved objects).arguments _ _ alike
  dsimp only [response, after]
  rw [builtin.run_restated objects line]
  exact agree

/-- A command that was written down and read again goes the way that its own
step goes without the objects that are not known. -/
theorem matches_iff_survives {objects : ObjectTable} {location : Location}
    {content : ByteArray} {step : Step} {shape : ObjectTable}
    (builtin : step.invocation.IsBuiltin shape) {before : Workspace}
    (alike : before.Alike (step.before.holding location content))
    (line : Nat) :
    step.Matches location content
        ⟨before, (step.invocation.restated line).resolved objects⟩ ↔
      step.Survives objects location content := by
  obtain ⟨response, after⟩ := restated_alike objects builtin alike line
  constructor
  · intro same
    exact ⟨rfl, response.symm.trans same.response,
      after.symm.trans same.after⟩
  · intro survives
    exact ⟨rfl, response.trans survives.response,
      after.trans survives.after⟩

end Step

/-- The second history matches the first one step by step. -/
inductive Follows (location : Location) (content : ByteArray) :
    List Step → List Step → Prop where
  | nil : Follows location content [] []
  | cons {first second : Step} {left right : List Step}
      (same : first.Matches location content second)
      (more : Follows location content left right) :
      Follows location content (first :: left) (second :: right)

/-- Commands that go by their names answer the same, one after another. -/
theorem Follows.answers {location : Location} {content : ByteArray}
    {left right : List Step} (follows : Follows location content left right)
    (leftNames : ∀ step ∈ left, step.invocation.keyword = step.invocation.name)
    (rightNames : ∀ step ∈ right,
      step.invocation.keyword = step.invocation.name) :
    right.map Step.answer = left.map Step.answer := by
  induction follows with
  | nil => rfl
  | @cons first second left right same _ induction =>
      have names : second.invocation.keyword = first.invocation.keyword := by
        rw [rightNames second List.mem_cons_self, same.name,
          leftNames first List.mem_cons_self]
      have later := induction
        (fun step member => leftNames step (List.mem_cons_of_mem _ member))
        (fun step member => rightNames step (List.mem_cons_of_mem _ member))
      rw [List.map_cons, List.map_cons, later, Step.answer, Step.answer, names,
        same.response]

namespace Engine

/-- A usual engine with no record open. -/
structure Fresh (engine : Engine) : Prop where
  usual : engine.Usual
  recorder : engine.recorder = none

theorem Fresh.notes {before after : Engine} (fresh : before.Fresh)
    (notes : before.Notes after) : after.Fresh :=
  ⟨fresh.usual.notes notes, notes.recorder.trans fresh.recorder⟩

theorem Fresh.runInvocation {engine : Engine} (fresh : engine.Fresh)
    (invocation : Invocation) :
    (engine.runInvocation invocation).2.Fresh ∧
      (Step.after ⟨engine.workspace, invocation⟩).Alike
        (engine.runInvocation invocation).2.workspace := by
  let done : Engine := { engine with
    workspace := Step.after ⟨engine.workspace, invocation⟩ }
  let response := Step.response ⟨engine.workspace, invocation⟩
  have notes := done.notes_noteResponse invocation response
  have unrecorded : (done.noteResponse invocation response).recorder = none :=
    notes.recorder.trans fresh.recorder
  have shape : (engine.runInvocation invocation).2 =
      done.noteResponse invocation response := by
    rw [fresh.usual.runInvocation_engine]
    change (done.noteResponse invocation response).record _ _ = _
    rw [record, unrecorded]
  rw [shape]
  have doneFresh : done.Fresh :=
    ⟨⟨fresh.usual.registry, fresh.usual.settings⟩, fresh.recorder⟩
  exact ⟨doneFresh.notes notes, notes.alike⟩

/-- Commands that were read from their record match the steps that were
recorded exactly if each of these steps survives. -/
theorem follows_iff {objects : ObjectTable} {location : Location}
    {content : ByteArray} {start finish : Workspace} {steps : List Step}
    (leads : Leads location start steps finish)
    (builtin : ∀ step ∈ steps, ∃ shape, step.invocation.IsBuiltin shape)
    {engine : Engine} (fresh : engine.Fresh)
    (alike : engine.workspace.Alike (start.holding location content))
    (line : Nat) :
    Follows location content steps
        (engine.ran (Invocation.replayed objects line
          (steps.map (·.invocation)))) ↔
      ∀ step ∈ steps, step.Survives objects location content := by
  induction leads generalizing engine line with
  | done _ =>
      constructor
      · intro _ step member
        cases member
      · intro _
        exact .nil
  | @step start finish first more begins _ induction =>
      obtain ⟨shape, isBuiltin⟩ := builtin first List.mem_cons_self
      have here := alike.trans (begins.holding content)
      have first_iff : first.Matches location content ⟨engine.workspace,
          (first.invocation.restated line).resolved objects⟩ ↔
            first.Survives objects location content :=
        Step.matches_iff_survives isBuiltin here line
      obtain ⟨next, left⟩ := fresh.runInvocation
        ((first.invocation.restated line).resolved objects)
      -- Only if the first step matches do the others find their workspaces.
      have more_iff := fun same : first.Matches location content
          ⟨engine.workspace,
            (first.invocation.restated line).resolved objects⟩ =>
        induction
          (fun step member => builtin step (List.mem_cons_of_mem _ member))
          next (left.symm.trans same.after)
          (line + first.invocation.toScript.toList.count '\n' + 1)
      constructor
      · intro follows
        cases follows with
        | cons same follows =>
            intro step member
            rcases List.mem_cons.mp member with rfl | later
            · exact first_iff.mp same
            · exact (more_iff same).mp follows step later
      · intro survive
        have same := first_iff.mpr (survive first List.mem_cons_self)
        exact .cons same ((more_iff same).mpr fun step member =>
          survive step (List.mem_cons_of_mem _ member))

/-- Commands that were read from their record answer the same, and lead to the
same state, as the commands themselves without the objects that are not
known. -/
theorem Fresh.replayed_alike {left right : Engine} (leftFresh : left.Fresh)
    (objects : ObjectTable) {invocations : List Invocation}
    (builtin : ∀ invocation ∈ invocations,
      ∃ shape, invocation.IsBuiltin shape)
    (rightFresh : right.Fresh)
    (alike : left.workspace.Alike right.workspace) (line : Nat) :
    let read := Invocation.replayed objects line invocations
    let own := invocations.map (·.resolved objects)
    (left.ran read).map Step.answer = (right.ran own).map Step.answer ∧
      (left.runInvocations read).2.workspace.Alike
        (right.runInvocations own).2.workspace := by
  induction invocations generalizing left right line with
  | nil => exact ⟨rfl, alike⟩
  | cons invocation more induction =>
      obtain ⟨shape, isBuiltin⟩ := builtin invocation List.mem_cons_self
      obtain ⟨response, after⟩ :=
        Step.restated_alike objects isBuiltin alike line
      obtain ⟨leftNext, leftDone⟩ := leftFresh.runInvocation
        ((invocation.restated line).resolved objects)
      obtain ⟨rightNext, rightDone⟩ := rightFresh.runInvocation
        (invocation.resolved objects)
      obtain ⟨answers, finish⟩ := induction leftNext
        (fun other member => builtin other (List.mem_cons_of_mem _ member))
        rightNext (leftDone.symm.trans (after.trans rightDone))
        (line + invocation.toScript.toList.count '\n' + 1)
      have keyword : invocation.name = invocation.keyword :=
        isBuiltin.keyword.symm
      have first : Step.answer ⟨left.workspace,
          (invocation.restated line).resolved objects⟩ =
            Step.answer ⟨right.workspace, invocation.resolved objects⟩ :=
        Prod.ext keyword response
      dsimp only
      rw [Invocation.replayed, List.map_cons, ran, ran, List.map_cons,
        List.map_cons, first, answers, leftFresh.usual.runInvocations_cons,
        rightFresh.usual.runInvocations_cons]
      exact ⟨rfl, finish⟩

/-- A run that matches step by step ends in the same state. -/
theorem Fresh.alike_finish {location : Location} {content : ByteArray}
    {start finish : Workspace} {steps : List Step}
    (leads : Leads location start steps finish) {engine : Engine}
    (fresh : engine.Fresh)
    (alike : engine.workspace.Alike (start.holding location content))
    {invocations : List Invocation}
    (follows : Follows location content steps (engine.ran invocations)) :
    (engine.runInvocations invocations).2.workspace.Alike
      (finish.holding location content) := by
  induction leads generalizing engine invocations with
  | done ends =>
      cases invocations with
      | nil => exact alike.trans (ends.holding content)
      | cons invocation more => cases follows
  | step _ _ induction =>
      cases invocations with
      | nil => cases follows
      | cons invocation more =>
          cases follows with
          | cons same follows =>
              obtain ⟨next, left⟩ := fresh.runInvocation invocation
              rw [fresh.usual.runInvocations_cons]
              exact induction next (left.symm.trans same.after) follows

/-- The commands of a session with just those of their references that are to
objects of the application as it is at the start. -/
def forgetful (engine : Engine) (scripts : List String) : List Invocation :=
  (engine.history scripts).map fun step =>
    step.invocation.resolved engine.workspace.application.objectTable

/-- What a fresh engine makes of a record. -/
theorem Records.replay {location : Location} {opened : Engine}
    (records : opened.Records location RecordFormat.script.opening)
    {scripts : List String}
    (exact : ∀ step ∈ opened.history scripts,
      ∀ slot ∈ step.invocation.arguments.slots, slot.value.Exact)
    (alone : ∀ step ∈ opened.history scripts, step.LeavesAlone location) :
    ∃ log, (opened.runScripts scripts).2.recordText? = some log ∧
      ∀ (content : ByteArray) (again : Engine), again.Fresh →
        again.workspace.Alike (opened.workspace.holding location content) →
        ((again.runScript log).1.answers =
            (again.ran (opened.forgetful scripts)).map Step.answer ∧
          (again.runScript log).2.workspace.Alike
            (again.runInvocations (opened.forgetful scripts)).2.workspace) ∧
        (Follows location content (opened.history scripts)
            (again.history [log]) ↔
          ∀ step ∈ opened.history scripts, step.Survives
            opened.workspace.application.objectTable location content) ∧
        (Follows location content (opened.history scripts)
            (again.history [log]) →
          (again.runScript log).1.answers =
              (opened.runScripts scripts).1.flatMap Outcome.answers ∧
            (again.runScript log).2.workspace.Alike
              ((opened.runScripts scripts).2.workspace.holding location
                content)) := by
  obtain ⟨recorded, leads⟩ := records.runScripts scripts alone
  have builtin : ∀ step ∈ opened.history scripts,
      ∃ shape, step.invocation.IsBuiltin shape := fun step member =>
    records.usual.isBuiltin_of_mem_history member
  refine ⟨_, recorded.recordText?_eq, ?_⟩
  intro content again fresh alike
  have recordable : ∀ invocation ∈
      (opened.history scripts).map (·.invocation), invocation.Recordable := by
    intro invocation member
    obtain ⟨step, inHistory, rfl⟩ := List.mem_map.mp member
    obtain ⟨shape, isBuiltin⟩ := builtin step inHistory
    exact ⟨shape, isBuiltin, exact step inHistory⟩
  generalize hlog : RecordFormat.script.opening ++ Invocation.recordLines
    ((opened.history scripts).map (·.invocation)) = log
  have objects : again.workspace.application.objectTable =
      opened.workspace.application.objectTable :=
    congrArg Application.objectTable alike.application
  have read : (again.read log).invocations = Invocation.replayed
      opened.workspace.application.objectTable 2
        ((opened.history scripts).map (·.invocation)) := by
    rw [Engine.read, fresh.usual.registry, fresh.usual.settings, objects,
      ← hlog]
    exact Invocation.invocations_parseScript_record _ recordable
  have notes := again.notes_noted log
  have told := fresh.notes notes
  have toldAlike := notes.alike.symm.trans alike
  have replayed : again.history [log] =
      (again.noted log).ran (again.read log).invocations := by
    simp [history]
  rw [replayed, fresh.usual.runScript_engine, fresh.usual.answers_runScript,
    records.usual.answers_runScripts, read]
  refine ⟨?_, follows_iff leads builtin told toldAlike 2, ?_⟩
  · have own := told.replayed_alike
      opened.workspace.application.objectTable
      (fun invocation member =>
        (recordable invocation member).imp fun _ both => both.1)
      fresh notes.alike.symm 2
    rw [List.map_map] at own
    exact own
  · intro follows
    refine ⟨follows.answers ?_ ?_, told.alike_finish leads toldAlike follows⟩
    · intro step member
      obtain ⟨shape, isBuiltin⟩ := builtin step member
      exact isBuiltin.keyword
    · intro step member
      have inside := List.mem_map_of_mem (f := Step.invocation) member
      rw [map_invocation_ran] at inside
      exact Invocation.keyword_of_mem_replayed inside

/-- A script that was run while a record was open is run again by its record:
the same commands in the same order, with the same responses and, but for the
record, the same state after each of them and at the end. -/
theorem runScript_replays {engine opened : Engine} {path : Path}
    {recorder : Recorder} {script : String} (usual : engine.Usual)
    (format : RecordFormat.ofPath path = .script)
    (started : engine.startRecording path = (.ok (), opened))
    (isOpen : opened.recorder = some recorder)
    (exact : ∀ step ∈ opened.history [script],
      ∀ slot ∈ step.invocation.arguments.slots, slot.value.Exact)
    (alone : ∀ step ∈ opened.history [script],
      step.LeavesAlone recorder.location) :
    ∃ log, (opened.runScript script).2.recordText? = some log ∧
      ∀ (content : ByteArray) (again : Engine), again.Fresh →
        again.workspace.Alike
          (opened.workspace.holding recorder.location content) →
        Follows recorder.location content (opened.history [script])
            (again.history [log]) ∧
          (again.runScript log).1.answers =
            (opened.runScript script).1.answers ∧
          (again.runScript log).2.workspace.AlikeOff recorder.location
            (opened.runScript script).2.workspace := by
  have records := records_of_startRecording usual format started isOpen
  obtain ⟨log, isLog, replay⟩ := records.replay exact alone
  refine ⟨log, isLog, ?_⟩
  intro content again fresh alike
  obtain ⟨_, survive, same⟩ := replay content again fresh alike
  have follows : Follows recorder.location content (opened.history [script])
      (again.history [log]) := by
    apply survive.mpr
    intro step member
    -- All references of one script were read with the same objects.
    have inside : step.invocation ∈ (opened.read script).invocations := by
      have inHistory := List.mem_map_of_mem (f := Step.invocation) member
      simpa [history, map_invocation_ran] using inHistory
    exact (alone step member).survives
      (records.usual.isBuiltin_of_mem_read inside).sound content
  obtain ⟨answers, finish⟩ := same follows
  refine ⟨follows, ?_, (finish.off _).trans (Workspace.holding_off _ _ _)⟩
  rw [answers]
  simp [runScripts]

/-! ### A record of loading and closing -/

/-- An engine with a project open. -/
def atField : Engine :=
  { workspace := { application := { project := some ⟨"field.rsp"⟩ } } }

/-- The same engine once it has opened a record. -/
def recording : Engine :=
  (atField.startRecording ⟨"log.txt"⟩).2

/-- An engine that finds what `recording` finds, and records nothing. -/
def rewound : Engine :=
  { workspace := recording.workspace.holding ["log.txt"] ByteArray.empty }

theorem startRecording_atField :
    atField.startRecording ⟨"log.txt"⟩ = (.ok (), recording) :=
  rfl

theorem exists_recorder_recording : ∃ recorder,
    recording.recorder = some recorder ∧ recorder.location = ["log.txt"] :=
  ⟨_, rfl, rfl⟩

theorem usual_recording : recording.Usual :=
  ⟨rfl, rfl⟩

theorem fresh_rewound : rewound.Fresh :=
  ⟨⟨rfl, rfl⟩, rfl⟩

/-- A script that names no object. -/
def loading : String :=
  "loadCase(\"a\") loadCase(gridFile=\"b\")\ncloseProject()"

theorem runScript_replays_loading :
    ∃ log, (recording.runScript loading).2.recordText? = some log ∧
      (rewound.runScript log).1.answers =
        (recording.runScript loading).1.answers := by
  obtain ⟨recorder, isOpen, place⟩ := exists_recorder_recording
  have exact : ∀ step ∈ recording.history [loading],
      ∀ slot ∈ step.invocation.arguments.slots, slot.value.Exact := by
    decide +kernel
  have inMemory : ∀ step ∈ recording.history [loading],
      step.isInMemory = true := by
    decide +kernel
  obtain ⟨log, isLog, replays⟩ := runScript_replays ⟨rfl, rfl⟩ (by decide)
    startRecording_atField isOpen exact fun step member =>
      usual_recording.leavesAlone_of_mem_history inMemory member
  obtain ⟨_, answers, _⟩ := replays ByteArray.empty rewound fresh_rewound
    (place ▸ .refl _)
  exact ⟨log, isLog, answers⟩

/-- Scripts that were run one after another while a record was open give the
same answers and the same state, but for the record, when their record is run
exactly if their commands do without the references to objects that the
application did not have at the start.  The record runs them again step by step
exactly if no single one of them depends on such a reference. -/
theorem runScripts_replays_iff {engine opened : Engine} {path : Path}
    {recorder : Recorder} {scripts : List String} (usual : engine.Usual)
    (format : RecordFormat.ofPath path = .script)
    (started : engine.startRecording path = (.ok (), opened))
    (isOpen : opened.recorder = some recorder)
    (exact : ∀ step ∈ opened.history scripts,
      ∀ slot ∈ step.invocation.arguments.slots, slot.value.Exact)
    (alone : ∀ step ∈ opened.history scripts,
      step.LeavesAlone recorder.location) :
    ∃ log, (opened.runScripts scripts).2.recordText? = some log ∧
      ∀ (content : ByteArray) (again : Engine), again.Fresh →
        again.workspace.Alike
          (opened.workspace.holding recorder.location content) →
        ((again.runScript log).1.answers =
              (opened.runScripts scripts).1.flatMap Outcome.answers ∧
            (again.runScript log).2.workspace.AlikeOff recorder.location
              (opened.runScripts scripts).2.workspace ↔
          (again.ran (opened.forgetful scripts)).map Step.answer =
              (opened.runScripts scripts).1.flatMap Outcome.answers ∧
            (again.runInvocations
                (opened.forgetful scripts)).2.workspace.AlikeOff
              recorder.location (opened.runScripts scripts).2.workspace) ∧
        (Follows recorder.location content (opened.history scripts)
            (again.history [log]) ↔
          ∀ step ∈ opened.history scripts, step.Survives
            opened.workspace.application.objectTable recorder.location
              content) ∧
        ((∀ step ∈ opened.history scripts, step.Survives
            opened.workspace.application.objectTable recorder.location
              content) →
          (again.runScript log).1.answers =
              (opened.runScripts scripts).1.flatMap Outcome.answers ∧
            (again.runScript log).2.workspace.AlikeOff recorder.location
              (opened.runScripts scripts).2.workspace) := by
  have records := records_of_startRecording usual format started isOpen
  obtain ⟨log, isLog, replay⟩ := records.replay exact alone
  refine ⟨log, isLog, ?_⟩
  intro content again fresh alike
  obtain ⟨⟨answers, finish⟩, survive, same⟩ := replay content again fresh alike
  refine ⟨?_, survive, fun all => ?_⟩
  · rw [answers]
    constructor
    · rintro ⟨answers, ends⟩
      exact ⟨answers, (finish.symm.off _).trans ends⟩
    · rintro ⟨answers, ends⟩
      exact ⟨answers, (finish.off _).trans ends⟩
  · obtain ⟨answers, finish⟩ := same (survive.mpr all)
    exact ⟨answers, (finish.off _).trans (Workspace.holding_off _ _ _)⟩

theorem runScripts_replays_iff_loading :
    ∃ log, (recording.runScripts [loading, loading]).2.recordText? =
        some log ∧
      (rewound.runScript log).1.answers =
        (recording.runScripts [loading, loading]).1.flatMap
          Outcome.answers := by
  generalize hscripts : [loading, loading] = scripts
  obtain ⟨recorder, isOpen, place⟩ := exists_recorder_recording
  have exact : ∀ step ∈ recording.history scripts,
      ∀ slot ∈ step.invocation.arguments.slots, slot.value.Exact := by
    rw [← hscripts]
    decide +kernel
  have inMemory : ∀ step ∈ recording.history scripts,
      step.isInMemory = true := by
    rw [← hscripts]
    decide +kernel
  have typed : ∀ step ∈ recording.history scripts,
      ∀ pair ∈ step.invocation.fields.zip step.invocation.arguments.slots,
        pair.2.value.HasType recording.workspace.application.objectTable
          pair.1.type := by
    rw [← hscripts]
    decide +kernel
  have alone : ∀ step ∈ recording.history scripts,
      step.LeavesAlone recorder.location := fun step member =>
    usual_recording.leavesAlone_of_mem_history inMemory member
  obtain ⟨log, isLog, replays⟩ := runScripts_replays_iff ⟨rfl, rfl⟩ (by decide)
    startRecording_atField isOpen exact alone
  obtain ⟨_, _, replayed⟩ := replays ByteArray.empty rewound fresh_rewound
    (place ▸ .refl _)
  -- No command names an object, so each of them is as sound at the start.
  have survive : ∀ step ∈ recording.history scripts, step.Survives
      recording.workspace.application.objectTable recorder.location
        ByteArray.empty := by
    intro step member
    obtain ⟨_, builtin⟩ := usual_recording.isBuiltin_of_mem_history member
    exact (alone step member).survives
      ⟨builtin.sound.aligned, typed step member, builtin.sound.unset⟩ _
  exact ⟨log, isLog, (replayed survive).1⟩

/-- Not every record runs its session again: a view that came with a case cannot
be named when the record is read. -/
theorem not_forall_runScripts_replays :
    ¬ ∀ (engine opened : Engine) (path : Path) (recorder : Recorder)
      (scripts : List String), engine.Usual →
      RecordFormat.ofPath path = .script →
      engine.startRecording path = (.ok (), opened) →
      opened.recorder = some recorder →
      (∀ step ∈ opened.history scripts,
        ∀ slot ∈ step.invocation.arguments.slots, slot.value.Exact) →
      (∀ step ∈ opened.history scripts,
        step.LeavesAlone recorder.location) →
      ∃ log, (opened.runScripts scripts).2.recordText? = some log ∧
        ∀ (content : ByteArray) (again : Engine), again.Fresh →
          again.workspace.Alike
            (opened.workspace.holding recorder.location content) →
          (again.runScript log).1.answers =
              (opened.runScripts scripts).1.flatMap Outcome.answers ∧
            (again.runScript log).2.workspace.AlikeOff recorder.location
              (opened.runScripts scripts).2.workspace := by
  intro claim
  let scripts :=
    ["loadCase(\"a\")", "closeProject() exportVisibleCells(view=View:0)"]
  obtain ⟨recorder, isOpen, place⟩ := exists_recorder_recording
  have exact : ∀ step ∈ recording.history scripts,
      ∀ slot ∈ step.invocation.arguments.slots, slot.value.Exact := by
    decide +kernel
  have inMemory : ∀ step ∈ recording.history scripts,
      step.isInMemory = true := by
    decide +kernel
  have differ : ∀ log ∈ (recording.runScripts scripts).2.recordText?,
      (rewound.runScript log).1.answers ≠
        (recording.runScripts scripts).1.flatMap Outcome.answers := by
    decide +kernel
  obtain ⟨log, isLog, replays⟩ := claim atField recording ⟨"log.txt"⟩ recorder
    scripts ⟨rfl, rfl⟩ (by decide) startRecording_atField isOpen exact
      fun step member =>
        usual_recording.leavesAlone_of_mem_history inMemory member
  obtain ⟨answers, _⟩ := replays ByteArray.empty rewound fresh_rewound
    (place ▸ .refl _)
  exact differ log isLog answers

end Engine

end GridScript
