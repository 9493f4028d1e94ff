import GridScript.Proofs.ReadAgain
import GridScript.Proofs.Records
import GridScript.Proofs.Sessions
import Mathlib.Data.List.Basic

/-!
# Records in any dialect

A record is written in one way, whatever the settings of its engine are.  Read
in the dialect of these settings, it gives one command for each that was
recorded; but a dialect with other comments reports the first line as an error,
and one that wants blanks behind names reports every argument.
-/

namespace GridScript

theorem Dialect.openingErrors_eq_nil_iff (dialect : Dialect) :
    dialect.openingErrors = [] ↔ dialect.comment = '#' := by
  rw [openingErrors]
  split <;> simp [*]

namespace Invocation

theorem names_replayed (objects : ObjectTable) (line : Nat)
    (invocations : List Invocation) :
    (replayed objects line invocations).map name = invocations.map name := by
  induction invocations generalizing line with
  | nil => rfl
  | cons invocation more induction =>
      rw [replayed, List.map_cons, List.map_cons, induction]
      rfl

/-- What the dialect reports of the equals signs in the text of an
invocation. -/
def equalsErrors (dialect : Dialect) (invocation : Invocation) :
    List Problem :=
  invocation.shownFields.flatMap fun _ => dialect.equalsErrors

/-- Nothing else is reported of an invocation that can be read back. -/
theorem Recordable.readErrors_eq {invocation : Invocation}
    (recordable : invocation.Recordable) (dialect : Dialect) :
    invocation.readErrors dialect = invocation.equalsErrors dialect := by
  obtain ⟨shape, builtin, exact⟩ := recordable
  have wellFormed := builtin.wellFormed exact
  exact List.flatMap_congr fun pair member =>
    argumentErrors_of_exact (wellFormed.exact_of_mem_shownFields member) dialect

theorem flatMap_equalsErrors_eq_nil_iff (dialect : Dialect)
    (invocations : List Invocation) :
    invocations.flatMap (equalsErrors dialect) = [] ↔
      (dialect.separator = .whitespace →
        ∀ invocation ∈ invocations, invocation.shownFields = []) := by
  simp only [List.flatMap_eq_nil_iff, equalsErrors, Dialect.equalsErrors]
  constructor
  · intro silent blanks invocation member
    rw [List.eq_nil_iff_forall_not_mem]
    intro pair inside
    have reported := silent invocation member pair inside
    rw [if_pos blanks] at reported
    cases reported
  · intro allowed invocation member pair inside
    split
    · rename_i blanks
      rw [allowed blanks invocation member] at inside
      cases inside
    · rfl

end Invocation

/-! ### What an engine runs -/

/-- What an engine can be given to run: calls, and commands as they are. -/
inductive Job where
  | call (call : Call)
  | commands (invocations : List Invocation)

/-- Commands that are given as they are are built-in ones with values of the
types of their fields. -/
def Job.IsBuiltin : Job → Prop
  | .call _ => True
  | .commands invocations =>
      ∀ invocation ∈ invocations, ∃ shape, invocation.IsBuiltin shape

namespace Engine

def handle (engine : Engine) : Job → Engine
  | .call call => (engine.call call).2
  | .commands invocations => (engine.runInvocations invocations).2

/-- The commands that a job makes the engine run. -/
def handled (engine : Engine) : Job → List Step
  | .call call => engine.performedCall call
  | .commands invocations => engine.performed invocations

/-- Handles one job after another. -/
def handleAll (engine : Engine) : List Job → Engine
  | [] => engine
  | job :: more => (engine.handle job).handleAll more

/-- All commands that the jobs make the engine run, in order. -/
def handledAll (engine : Engine) : List Job → List Step
  | [] => []
  | job :: more =>
      engine.handled job ++ (engine.handle job).handledAll more

theorem registry_handle (engine : Engine) (job : Job) :
    (engine.handle job).registry = engine.registry := by
  cases job with
  | call call => exact engine.registry_call call
  | commands invocations => exact engine.registry_runInvocations invocations

theorem invocation_mem_of_mem_performed {engine : Engine}
    {invocations : List Invocation} {step : Step}
    (member : step ∈ engine.performed invocations) :
    step.invocation ∈ invocations := by
  induction invocations generalizing engine with
  | nil => cases member
  | cons invocation more induction =>
      rw [performed] at member
      split at member
      · rw [List.mem_singleton.mp member]
        exact List.mem_cons_self
      · rcases List.mem_cons.mp member with rfl | later
        · exact List.mem_cons_self
        · exact List.mem_cons_of_mem _ (induction later)

theorem isBuiltin_of_mem_performedScript {engine : Engine}
    (registry : engine.registry = .builtin) {text : String} {step : Step}
    (member : step ∈ engine.performedScript text) :
    ∃ shape, step.invocation.IsBuiltin shape := by
  unfold performedScript at member
  dsimp only at member
  split at member
  · cases member
  · have read := invocation_mem_of_mem_performed member
    rw [Engine.read, registry] at read
    exact ⟨_, Invocation.isBuiltin_of_mem read⟩

theorem isBuiltin_of_mem_handled {engine : Engine}
    (registry : engine.registry = .builtin) {job : Job}
    (builtin : job.IsBuiltin) {step : Step}
    (member : step ∈ engine.handled job) :
    ∃ shape, step.invocation.IsBuiltin shape := by
  match job with
  | .call (.script text) =>
      exact isBuiltin_of_mem_performedScript registry member
  | .call (.file path) =>
      rw [handled, performedCall] at member
      split at member
      · cases member
      · have known : (engine.opened path).registry = .builtin :=
          (engine.registry_startAt path).trans registry
        exact isBuiltin_of_mem_performedScript known member
  | .commands invocations =>
      exact builtin _ (invocation_mem_of_mem_performed member)

theorem isBuiltin_of_mem_handledAll {engine : Engine}
    (registry : engine.registry = .builtin) {jobs : List Job}
    (builtin : ∀ job ∈ jobs, job.IsBuiltin) {step : Step}
    (member : step ∈ engine.handledAll jobs) :
    ∃ shape, step.invocation.IsBuiltin shape := by
  induction jobs generalizing engine with
  | nil => cases member
  | cons job more induction =>
      rcases List.mem_append.mp member with here | later
      · exact isBuiltin_of_mem_handled registry
          (builtin job List.mem_cons_self) here
      · exact induction ((engine.registry_handle job).trans registry)
          (fun other inMore => builtin other (List.mem_cons_of_mem _ inMore))
          later

/-! ### What the engine records -/

section

variable {engine : Engine} {location : Location} {text : String}

theorem Recording.runScript (recording : engine.Recording location text)
    (script : String)
    (spares : ∀ step ∈ engine.performedScript script, step.Spares location) :
    (engine.runScript script).2.Recording location
      (text ++ Invocation.recordLines
        ((engine.performedScript script).map (·.invocation))) := by
  have noted := recording.notes (engine.notes_noted script)
  unfold performedScript at spares ⊢
  unfold Engine.runScript
  dsimp only at spares ⊢
  split
  · rw [List.map_nil, Invocation.recordLines_nil, String.append_empty]
    exact noted.notes (notes_note _ _ _)
  · rename_i goes
    rw [if_neg goes] at spares
    exact noted.runInvocations _ spares

theorem Recording.opened (recording : engine.Recording location text)
    (path : Path) : (engine.opened path).Recording location text := by
  obtain ⟨recorder, isOpen, place, format, holds⟩ := recording
  unfold Engine.opened startAt
  split <;> exact ⟨recorder, isOpen, place, format, holds⟩

theorem Recording.handle (recording : engine.Recording location text)
    (job : Job)
    (spares : ∀ step ∈ engine.handled job, step.Spares location) :
    (engine.handle job).Recording location
      (text ++ Invocation.recordLines
        ((engine.handled job).map (·.invocation))) := by
  match job with
  | .call (.script script) => exact recording.runScript script spares
  | .call (.file path) =>
      rw [handled, performedCall] at spares ⊢
      rw [Engine.handle, Engine.call, runFile]
      cases found : engine.workspace.disk.read path with
      | error reason =>
          rw [List.map_nil, Invocation.recordLines_nil, String.append_empty]
          exact recording
      | ok script =>
          rw [found] at spares
          exact (recording.opened path).runScript script spares
  | .commands invocations => exact recording.runInvocations invocations spares

/-- The record of an engine holds all that it has run. -/
theorem Recording.handleAll (recording : engine.Recording location text)
    (jobs : List Job)
    (spares : ∀ step ∈ engine.handledAll jobs, step.Spares location) :
    (engine.handleAll jobs).Recording location
      (text ++ Invocation.recordLines
        ((engine.handledAll jobs).map (·.invocation))) := by
  induction jobs generalizing engine text with
  | nil =>
      rw [handledAll, List.map_nil, Invocation.recordLines_nil,
        String.append_empty]
      exact recording
  | cons job more induction =>
      have first := recording.handle job fun step member =>
        spares step (List.mem_append_left _ member)
      have rest := induction first fun step member =>
        spares step (List.mem_append_right _ member)
      rw [String.append_assoc, ← Invocation.recordLines_append,
        ← List.map_append] at rest
      exact rest

end

/-! ### Reading the record -/

/-- An engine records what it runs, in a dialect that tells comments from words
and separators.  Read in that dialect, with whatever objects, the record gives
one command for each that was run.  It is read without errors exactly if the
dialect has the comments of the record, and either allows equals signs or finds
none. -/
theorem parseScript_record_handleAll {engine opened : Engine} {path : Path}
    {recorder : Recorder} {jobs : List Job}
    (registry : engine.registry = .builtin)
    (noWord : isWord engine.settings.dialect.comment = false)
    (noBlank : isBlank engine.settings.dialect.comment = false)
    (noSeparator : engine.settings.dialect.comment ≠ ';')
    (format : RecordFormat.ofPath path = .script)
    (started : engine.startRecording path = (.ok (), opened))
    (isOpen : opened.recorder = some recorder)
    (builtin : ∀ job ∈ jobs, job.IsBuiltin)
    (exact : ∀ step ∈ opened.handledAll jobs,
      ∀ slot ∈ step.invocation.arguments.slots, slot.value.Exact)
    (spares : ∀ step ∈ opened.handledAll jobs,
      step.Spares recorder.location)
    (objects : ObjectTable) :
    let dialect := engine.settings.dialect
    let recorded := (opened.handledAll jobs).map (·.invocation)
    ∃ log, (opened.handleAll jobs).recordText? = some log ∧
      let parsed := parseScript engine.registry dialect objects log
      parsed.invocations.map Invocation.name = recorded.map Invocation.name ∧
        errorsOf parsed.diagnostics = dialect.openingErrors ++
          recorded.flatMap (Invocation.equalsErrors dialect) ∧
        (parsed.hasErrors = false ↔ dialect.comment = '#' ∧
          (dialect.separator = .whitespace →
            ∀ invocation ∈ recorded, invocation.shownFields = [])) := by
  intro dialect recorded
  have known : opened.registry = .builtin :=
    (settings_startRecording started).1.trans registry
  -- What is read from scripts and files is built-in in any case.
  have recordable : ∀ invocation ∈ recorded, invocation.Recordable := by
    intro invocation member
    obtain ⟨step, inside, rfl⟩ := List.mem_map.mp member
    obtain ⟨shape, sound⟩ := isBuiltin_of_mem_handledAll known builtin inside
    exact ⟨shape, sound, exact step inside⟩
  have log := ((recording_of_startRecording format started isOpen).handleAll
    jobs spares).recordText?_eq
  refine ⟨_, log, ?_⟩
  obtain ⟨invocations, errors⟩ := Invocation.parseScript_record noWord noBlank
    noSeparator objects recordable
  have equals : recorded.flatMap (Invocation.readErrors dialect) =
      recorded.flatMap (Invocation.equalsErrors dialect) :=
    List.flatMap_congr fun invocation member =>
      (recordable invocation member).readErrors_eq dialect
  rw [registry]
  refine ⟨?_, errors.trans (congrArg _ equals), ?_⟩
  · rw [invocations, Invocation.names_replayed]
  · rw [← ParsedScript.errorsOf_eq_nil_iff, errors, equals,
      List.append_eq_nil_iff, Dialect.openingErrors_eq_nil_iff,
      Invocation.flatMap_equalsErrors_eq_nil_iff]

/-- An engine of this dialect once it has opened a record. -/
def recordingIn (dialect : Dialect) : Engine :=
  ((withSettings {} { dialect }).startRecording ⟨"log.txt"⟩).2

theorem startRecording_recordingIn (dialect : Dialect) :
    (withSettings {} { dialect }).startRecording ⟨"log.txt"⟩ =
      (.ok (), recordingIn dialect) :=
  rfl

theorem exists_recorder_recordingIn (dialect : Dialect) : ∃ recorder,
    (recordingIn dialect).recorder = some recorder ∧
      recorder.location = ["log.txt"] :=
  ⟨_, rfl, rfl⟩

theorem parseScript_record_handleAll_reported :
    let dialect : Dialect := { separator := .whitespace, comment := '%' }
    let opened := recordingIn dialect
    let jobs : List Job :=
      [.call (.script "% a case\nloadCase(path \"a\")"),
        .commands (opened.read "closeProject()").invocations]
    ∃ log, (opened.handleAll jobs).recordText? = some log ∧
      let parsed := parseScript .builtin dialect .empty log
      parsed.invocations.map Invocation.name = ["loadCase", "closeProject"] ∧
        errorsOf parsed.diagnostics =
          [.missingKeyword '#', .unexpectedEquals] := by
  intro dialect opened jobs
  obtain ⟨recorder, isOpen, place⟩ := exists_recorder_recordingIn dialect
  have builtin : ∀ job ∈ jobs, job.IsBuiltin := by
    intro job member
    rcases List.mem_pair.mp member with rfl | rfl
    · trivial
    · exact fun _ inside => ⟨_, Invocation.isBuiltin_of_mem inside⟩
  have exact : ∀ step ∈ opened.handledAll jobs,
      ∀ slot ∈ step.invocation.arguments.slots, slot.value.Exact := by
    decide +kernel
  have same : ∀ step ∈ opened.handledAll jobs,
      step.after.disk.find? ["log.txt"] =
        step.before.disk.find? ["log.txt"] := by
    decide +kernel
  obtain ⟨names, equals⟩ :
      ((opened.handledAll jobs).map (·.invocation)).map Invocation.name =
          ["loadCase", "closeProject"] ∧
        ((opened.handledAll jobs).map (·.invocation)).flatMap
          (Invocation.equalsErrors dialect) = [.unexpectedEquals] := by
    decide +kernel
  obtain ⟨log, isLog, read, errors, _⟩ := parseScript_record_handleAll rfl
    (by decide) (by decide) (by decide) (by decide)
    (startRecording_recordingIn dialect) isOpen builtin exact
    (fun step member => place ▸ Step.spares_of_find?_eq (same step member))
    .empty
  exact ⟨log, isLog, read.trans names, errors.trans (congrArg _ equals)⟩

/-- Not every record can be read in the dialect of its engine. -/
theorem not_forall_parseScript_record_handleAll :
    ¬∀ (engine opened : Engine) (path : Path) (recorder : Recorder)
      (jobs : List Job), engine.registry = .builtin →
      isWord engine.settings.dialect.comment = false →
      isBlank engine.settings.dialect.comment = false →
      engine.settings.dialect.comment ≠ ';' →
      RecordFormat.ofPath path = .script →
      engine.startRecording path = (.ok (), opened) →
      opened.recorder = some recorder →
      (∀ job ∈ jobs, job.IsBuiltin) →
      (∀ step ∈ opened.handledAll jobs,
        ∀ slot ∈ step.invocation.arguments.slots, slot.value.Exact) →
      (∀ step ∈ opened.handledAll jobs,
        step.Spares recorder.location) →
      ∀ objects : ObjectTable,
        ∃ log, (opened.handleAll jobs).recordText? = some log ∧
          let parsed := parseScript engine.registry engine.settings.dialect
            objects log
          parsed.hasErrors = false ∧
            parsed.invocations.length =
              (opened.handledAll jobs).length := by
  intro claimed
  let dialect : Dialect := { comment := '%' }
  let jobs : List Job := [.call (.script "loadCase(\"a\")")]
  obtain ⟨recorder, isOpen, place⟩ := exists_recorder_recordingIn dialect
  have builtin : ∀ job ∈ jobs, job.IsBuiltin := by
    intro job member
    rw [List.mem_singleton.mp member]
    trivial
  have exact : ∀ step ∈ (recordingIn dialect).handledAll jobs,
      ∀ slot ∈ step.invocation.arguments.slots, slot.value.Exact := by
    decide +kernel
  have same : ∀ step ∈ (recordingIn dialect).handledAll jobs,
      step.after.disk.find? ["log.txt"] =
        step.before.disk.find? ["log.txt"] := by
    decide +kernel
  have failing : ∀ log ∈
      ((recordingIn dialect).handleAll jobs).recordText?,
        (parseScript .builtin dialect .empty log).hasErrors = true := by
    decide +kernel
  obtain ⟨log, isLog, fine, _⟩ := claimed (withSettings {} { dialect })
    (recordingIn dialect) ⟨"log.txt"⟩ recorder jobs rfl (by decide)
    (by decide) (by decide) (by decide) (startRecording_recordingIn dialect)
    isOpen builtin exact
    (fun step member => place ▸ Step.spares_of_find?_eq (same step member))
    .empty
  exact Bool.false_ne_true (fine.symm.trans (failing log isLog))

end Engine

end GridScript
