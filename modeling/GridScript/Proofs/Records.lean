import GridScript.Proofs.Growing
import GridScript.Proofs.History
import GridScript.Proofs.LogText
import GridScript.Proofs.Recording

/-!
# The record of a history

While a record is open, it holds the text of just the commands that the engine
runs, provided that none of them touches the file of the record.
-/

namespace GridScript

/-- From the first workspace the steps lead to the second one, if what stands at
one location is left out of account. -/
inductive Leads (location : Location) : Workspace → List Step → Workspace →
    Prop where
  | done {start finish : Workspace} (alike : start.AlikeOff location finish) :
      Leads location start [] finish
  | step {start finish : Workspace} {first : Step} {more : List Step}
      (alike : start.AlikeOff location first.before)
      (leads : Leads location first.after more finish) :
      Leads location start (first :: more) finish

theorem Leads.begin {location : Location} {start start' finish : Workspace}
    {steps : List Step} (alike : start'.AlikeOff location start)
    (leads : Leads location start steps finish) :
    Leads location start' steps finish := by
  cases leads with
  | done further => exact .done (alike.trans further)
  | step further leads => exact .step (alike.trans further) leads

theorem Leads.append {location : Location} {start middle finish : Workspace}
    {left right : List Step} (first : Leads location start left middle)
    (second : Leads location middle right finish) :
    Leads location start (left ++ right) finish := by
  induction first with
  | done alike => exact second.begin alike
  | step alike _ induction => exact .step alike (induction second)

namespace Engine

/-- The engine has a record of this text open. -/
def Recording (location : Location) (text : String) (engine : Engine) : Prop :=
  ∃ recorder : Recorder, engine.recorder = some recorder ∧
    recorder.location = location ∧ recorder.format = .script ∧
      recorder.Holds engine.workspace.disk text

theorem Recording.notes {location : Location} {text : String}
    {before after : Engine} (recording : before.Recording location text)
    (notes : before.Notes after) : after.Recording location text := by
  obtain ⟨recorder, isOpen, place, format, holds⟩ := recording
  exact ⟨recorder, notes.recorder.trans isOpen, place, format,
    notes.disk ▸ holds⟩

theorem Recording.below {location : Location} {text : String}
    {engine : Engine} (recording : engine.Recording location text) :
    location ≠ [] := by
  obtain ⟨recorder, _, rfl, _, holds⟩ := recording
  exact holds.below

/-- A command that spares the record is recorded, whatever the settings are. -/
theorem Recording.runInvocation {location : Location} {text : String}
    {engine : Engine} (recording : engine.Recording location text)
    {invocation : Invocation}
    (spares : (engine.stepOf invocation).Spares location) :
    let after := (engine.runInvocation invocation).2
    after.Recording location (text ++ (invocation.toScript ++ "\n")) ∧
      (engine.stepOf invocation).after.AlikeOff location after.workspace := by
  let told := engine.noteIf engine.settings.policy.echo .info
    ("> " ++ invocation.toScript)
  obtain ⟨recorder, isOpen, rfl, format, below, front, file, offset, whole⟩ :=
    recording.notes (engine.notes_noteIf engine.settings.policy.echo .info
      ("> " ++ invocation.toScript))
  let done : Engine := { told with
    workspace := (engine.stepOf invocation).after }
  let response := (engine.stepOf invocation).response
  have shape : (engine.runInvocation invocation).2 =
      (done.noteResponse invocation response).record invocation response :=
    rfl
  have notes := done.notes_noteResponse invocation response
  have stands := spares front.toUTF8 file
  have held : recorder.Holds
      (done.noteResponse invocation response).workspace.disk text := by
    rw [notes.disk]
    exact ⟨below, front, stands, offset, whole⟩
  have adds := Recorder.adds_record held invocation response
  have recorded : (done.noteResponse invocation response).recorder =
      some recorder := notes.recorder.trans isOpen
  rw [shape, record, recorded]
  dsimp only
  generalize
    recorder.record (done.noteResponse invocation response).workspace.disk
      invocation response = written at adds ⊢
  refine ⟨⟨_, rfl, adds.location, adds.format.trans format, ?_⟩, ?_⟩
  · have entry := adds.holds
    rw [format, String.append_assoc] at entry
    exact entry
  · refine ⟨notes.application.symm, notes.session.symm, ?_⟩
    have same : done.workspace.disk.SameOff recorder.location
        (done.noteResponse invocation response).workspace.disk := by
      rw [notes.disk]
      exact .refl _ _
    exact same.trans adds.elsewhere.symm

/-- What an engine with a record open runs, it records, also if it stops
early. -/
theorem Recording.runInvocations {location : Location} {text : String}
    {engine : Engine} (recording : engine.Recording location text)
    (invocations : List Invocation)
    (spares : ∀ step ∈ engine.performed invocations, step.Spares location) :
    (engine.runInvocations invocations).2.Recording location
      (text ++ Invocation.recordLines
        ((engine.performed invocations).map (·.invocation))) := by
  induction invocations generalizing engine text with
  | nil =>
      rw [performed, List.map_nil, Invocation.recordLines_nil,
        String.append_empty]
      exact recording
  | cons invocation more induction =>
      have same : (engine.runInvocation invocation).1 =
          (engine.stepOf invocation).response := rfl
      rw [performed] at spares ⊢
      rw [Engine.runInvocations]
      dsimp only at spares ⊢
      rw [same]
      split
      · rename_i stops
        rw [if_pos stops] at spares
        have recorded := (recording.runInvocation
          (spares _ List.mem_cons_self)).1
        rw [List.map_singleton, Invocation.recordLines_cons,
          Invocation.recordLines_nil, String.append_empty]
        exact recorded.notes (notes_noteIf _ _ _ _)
      · rename_i goes
        rw [if_neg goes] at spares
        have recorded := (recording.runInvocation
          (spares _ List.mem_cons_self)).1
        have rest := induction recorded fun step member =>
          spares step (List.mem_cons_of_mem _ member)
        rw [List.map_cons, Invocation.recordLines_cons, ← String.append_assoc]
        exact rest

theorem recording_of_startRecording {engine opened : Engine} {path : Path}
    (format : RecordFormat.ofPath path = .script)
    (started : engine.startRecording path = (.ok (), opened))
    {recorder : Recorder} (isOpen : opened.recorder = some recorder) :
    opened.Recording recorder.location RecordFormat.script.opening := by
  unfold startRecording at started
  dsimp only at started
  split at started
  · cases started
  · rename_i fresh disk begun
    cases started
    cases isOpen
    obtain ⟨isScript, holds⟩ := Recorder.holds_start begun
    rw [format] at isScript
    rw [isScript] at holds
    exact ⟨recorder, rfl, rfl, isScript, holds⟩

/-- Recording changes neither the commands nor the settings. -/
theorem settings_startRecording {engine opened : Engine} {path : Path}
    (started : engine.startRecording path = (.ok (), opened)) :
    opened.registry = engine.registry ∧ opened.settings = engine.settings := by
  have closed : engine.stopRecording.registry = engine.registry ∧
      engine.stopRecording.settings = engine.settings := by
    unfold stopRecording
    split <;> exact ⟨rfl, rfl⟩
  unfold startRecording at started
  dsimp only at started
  split at started
  · cases started
  · cases started
    exact closed

/-- A usual engine that has a record of this text open. -/
structure Records (location : Location) (text : String) (engine : Engine) :
    Prop where
  usual : engine.Usual
  recording : engine.Recording location text

theorem Records.notes {location : Location} {text : String}
    {before after : Engine} (records : before.Records location text)
    (notes : before.Notes after) : after.Records location text :=
  ⟨records.usual.notes notes, records.recording.notes notes⟩

/-- A command that leaves the record alone is recorded. -/
theorem Records.runInvocation {location : Location} {text : String}
    {engine : Engine} (records : engine.Records location text)
    {invocation : Invocation}
    (builtin : invocation.command ∈ Builtin.commands)
    (alone : Step.LeavesAlone location ⟨engine.workspace, invocation⟩) :
    let after := (engine.runInvocation invocation).2
    after.Records location (text ++ (invocation.toScript ++ "\n")) ∧
      (Step.after ⟨engine.workspace, invocation⟩).AlikeOff location
        after.workspace := by
  rw [← records.usual.stepOf_eq] at alone ⊢
  obtain ⟨recorded, alike⟩ := records.recording.runInvocation
    (alone.spares records.recording.below builtin)
  exact ⟨⟨records.usual.runInvocation invocation, recorded⟩, alike⟩

theorem records_of_startRecording {engine opened : Engine} {path : Path}
    (usual : engine.Usual) (format : RecordFormat.ofPath path = .script)
    (started : engine.startRecording path = (.ok (), opened))
    {recorder : Recorder} (isOpen : opened.recorder = some recorder) :
    opened.Records recorder.location RecordFormat.script.opening := by
  obtain ⟨registry, settings⟩ := settings_startRecording started
  exact ⟨⟨registry.trans usual.registry, settings.trans usual.settings⟩,
    recording_of_startRecording format started isOpen⟩

/-- Between the two engines just these steps were run and recorded. -/
structure Advances (location : Location) (text : String) (steps : List Step)
    (before after : Engine) : Prop where
  records : after.Records location
    (text ++ Invocation.recordLines (steps.map (·.invocation)))
  leads : Leads location before.workspace steps after.workspace

theorem Advances.trans {location : Location} {text : String}
    {first second third : Engine} {left right : List Step}
    (begins : Advances location text left first second)
    (continues : Advances location
      (text ++ Invocation.recordLines (left.map (·.invocation))) right
      second third) :
    Advances location text (left ++ right) first third := by
  refine ⟨?_, begins.leads.append continues.leads⟩
  have records := continues.records
  rw [String.append_assoc] at records
  rw [List.map_append, Invocation.recordLines_append]
  exact records

/-- What an engine with a record open runs, it records. -/
theorem Records.runInvocations {location : Location} {text : String}
    {engine : Engine} (records : engine.Records location text)
    (invocations : List Invocation)
    (builtin : ∀ invocation ∈ invocations,
      invocation.command ∈ Builtin.commands)
    (alone : ∀ step ∈ engine.ran invocations, step.LeavesAlone location) :
    Advances location text (engine.ran invocations) engine
      (engine.runInvocations invocations).2 := by
  induction invocations generalizing engine text with
  | nil =>
      refine ⟨?_, .done (Workspace.Alike.refl _ |>.off location)⟩
      rw [ran, List.map_nil, Invocation.recordLines_nil, String.append_empty]
      exact records
  | cons invocation more induction =>
      obtain ⟨recorded, alike⟩ := records.runInvocation
        (builtin invocation List.mem_cons_self)
        (alone _ List.mem_cons_self)
      obtain ⟨further, leads⟩ := induction recorded
        (fun other member => builtin other (List.mem_cons_of_mem _ member))
        (fun step member => alone step (List.mem_cons_of_mem _ member))
      rw [records.usual.runInvocations_cons]
      constructor
      · rw [ran, List.map_cons, Invocation.recordLines_cons,
          ← String.append_assoc]
        exact further
      · exact .step (Workspace.Alike.refl _ |>.off location)
          (leads.begin alike)

/-- What scripts run that are run one after another, the record holds. -/
theorem Records.runScripts {location : Location} {text : String}
    {engine : Engine} (records : engine.Records location text)
    (scripts : List String)
    (alone : ∀ step ∈ engine.history scripts, step.LeavesAlone location) :
    Advances location text (engine.history scripts) engine
      (engine.runScripts scripts).2 := by
  induction scripts generalizing engine text with
  | nil =>
      refine ⟨?_, .done (Workspace.Alike.refl _ |>.off location)⟩
      rw [history, List.map_nil, Invocation.recordLines_nil,
        String.append_empty]
      exact records
  | cons script more induction =>
      have notes := engine.notes_noted script
      obtain ⟨recorded, leads⟩ := (records.notes notes).runInvocations _
        (fun invocation member =>
          (records.usual.isBuiltin_of_mem_read member).command)
        (fun step member => alone step (List.mem_append_left _ member))
      rw [← records.usual.runScript_engine] at recorded leads
      have first : Advances location text ((engine.noted script).ran
          (engine.read script).invocations) engine
            (engine.runScript script).2 :=
        ⟨recorded, leads.begin (notes.alike.off location)⟩
      exact first.trans (induction recorded
        fun step member => alone step (List.mem_append_right _ member))

/-! ### The record once it is closed -/

/-- The text of the record that is open, once it is closed. -/
def recordText? (engine : Engine) : Option String :=
  match engine.recorder with
  | none => none
  | some recorder =>
      match engine.stopRecording.workspace.disk.find? recorder.location with
      | some (.file content) => String.fromUTF8? content
      | _ => none

theorem Recording.recordText?_eq {location : Location} {text : String}
    {engine : Engine} (recording : engine.Recording location text) :
    engine.recordText? = some text := by
  obtain ⟨recorder, isOpen, rfl, _, holds⟩ := recording
  simp only [recordText?, stopRecording, isOpen, holds.find?_flush]
  exact fromUTF8?_toUTF8 text

theorem Records.recordText?_eq {location : Location} {text : String}
    {engine : Engine} (records : engine.Records location text) :
    engine.recordText? = some text :=
  records.recording.recordText?_eq

end Engine

end GridScript
