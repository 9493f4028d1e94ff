import GridScript.Proofs.History

/-!
# Runs that stop at an error

A run that stops at the first error does with the commands up to there just what
a run that goes on does with them.  A script that is skipped for its errors does
nothing at all.
-/

namespace GridScript

/-! ### The commands up to the first error -/

/-- The last of the commands failed. -/
def EndsInError (executed : List Executed) : Prop :=
  ∃ front last, executed = front ++ [last] ∧ last.response.isError = true

/-- `part` is the shortest front of `all` that ends in an error, or the whole of
`all` where no front does. -/
structure StopsAtError (all part : List Executed) : Prop where
  front : part <+: all
  ends : EndsInError part ∨ part = all
  shortest : ∀ other, other <+: all → EndsInError other →
    part.length ≤ other.length

/-- The commands up to the first one that failed. -/
def upToError : List Executed → List Executed
  | [] => []
  | first :: more =>
      if first.response.isError then [first] else first :: upToError more

theorem EndsInError.cons {executed : List Executed}
    (ends : EndsInError executed) (first : Executed) :
    EndsInError (first :: executed) := by
  obtain ⟨front, last, rfl, failed⟩ := ends
  exact ⟨first :: front, last, rfl, failed⟩

theorem stopsAtError_upToError (all : List Executed) :
    StopsAtError all (upToError all) := by
  induction all with
  | nil => exact ⟨List.prefix_rfl, .inr rfl, fun _ _ _ => Nat.zero_le _⟩
  | cons first more induction =>
      rw [upToError]
      split
      · rename_i failed
        refine ⟨⟨more, rfl⟩, .inl ⟨[], first, rfl, failed⟩, ?_⟩
        rintro _ _ ⟨front, last, rfl, _⟩
        simp
      · rename_i fine
        obtain ⟨isFront, ends, shortest⟩ := induction
        refine ⟨List.cons_prefix_cons.mpr ⟨rfl, isFront⟩,
          ends.imp (·.cons first) (congrArg (first :: ·)), ?_⟩
        rintro _ inAll ⟨front, last, rfl, failed⟩
        cases front with
        | nil =>
            obtain ⟨rfl, _⟩ := List.cons_prefix_cons.mp inAll
            exact absurd failed fine
        | cons head front =>
            obtain ⟨_, inMore⟩ := List.cons_prefix_cons.mp inAll
            exact Nat.succ_le_succ
              (shortest _ inMore ⟨front, last, rfl, failed⟩)

namespace Engine

/-- The engine with this rule for the first command that fails. -/
def stopping (engine : Engine) (stops : Bool) : Engine :=
  { engine with
    settings :=
      { engine.settings with
        policy := { engine.settings.policy with stopOnError := stops } } }

@[simp] theorem stopOnError_stopping (engine : Engine) (stops : Bool) :
    (engine.stopping stops).settings.policy.stopOnError = stops := rfl

@[simp] theorem echo_stopping (engine : Engine) (stops : Bool) :
    (engine.stopping stops).settings.policy.echo =
      engine.settings.policy.echo := rfl

/-! ### The rule for errors does not matter to a single command -/

theorem noteIf_stopping (engine : Engine) (stops applies : Bool)
    (level : Level) (text : String) :
    (engine.stopping stops).noteIf applies level text =
      (engine.noteIf applies level text).stopping stops := by
  cases applies <;> rfl

theorem noteResponse_stopping (engine : Engine) (stops : Bool)
    (invocation : Invocation) (response : Response) :
    (engine.stopping stops).noteResponse invocation response =
      (engine.noteResponse invocation response).stopping stops := by
  unfold noteResponse
  dsimp only
  split <;> rfl

theorem record_stopping (engine : Engine) (stops : Bool)
    (invocation : Invocation) (response : Response) :
    (engine.stopping stops).record invocation response =
      (engine.record invocation response).stopping stops := by
  unfold record
  simp only [stopping]
  split <;> rfl

theorem runInvocation_stopping (engine : Engine) (stops : Bool)
    (invocation : Invocation) :
    (engine.stopping stops).runInvocation invocation =
      ((engine.runInvocation invocation).1,
        (engine.runInvocation invocation).2.stopping stops) := by
  have told := engine.noteIf_stopping stops engine.settings.policy.echo .info
    ("> " ++ invocation.toScript)
  simp only [runInvocation, echo_stopping, told, ← record_stopping,
    ← noteResponse_stopping]
  rfl

/-! ### Two runs of the same commands -/

theorem runInvocations_going (engine : Engine) (invocation : Invocation)
    (more : List Invocation) :
    let done := engine.runInvocation invocation
    let rest := (done.2.stopping false).runInvocations more
    (engine.stopping false).runInvocations (invocation :: more) =
      (⟨⟨invocation.keyword, invocation.line, done.1⟩ :: rest.1.executed,
        rest.1.stopped⟩, rest.2) := by
  rw [runInvocations]
  simp only [runInvocation_stopping, stopOnError_stopping, Bool.and_false,
    Bool.false_eq_true, if_false]

/-- A run that goes on has one answer for each command. -/
theorem executed_runInvocations_going (engine : Engine)
    (invocations : List Invocation) :
    ((engine.stopping false).runInvocations invocations).1.executed.map
        (fun executed => (executed.keyword, executed.line)) =
      invocations.map fun invocation =>
        (invocation.keyword, invocation.line) := by
  induction invocations generalizing engine with
  | nil => rfl
  | cons invocation more induction =>
      rw [runInvocations_going]
      exact congrArg _ (induction _)

/-- A run that stops at a command which fails. -/
theorem runInvocations_stopping_of_isError {engine : Engine}
    {invocation : Invocation}
    (failed : (engine.runInvocation invocation).1.isError = true)
    (more : List Invocation) :
    let done := engine.runInvocation invocation
    (engine.stopping true).runInvocations (invocation :: more) =
      (⟨[⟨invocation.keyword, invocation.line, done.1⟩], !more.isEmpty⟩,
        (done.2.noteIf (!more.isEmpty) .warn
          ("stopping after error on line " ++
            natText invocation.line)).stopping true) := by
  rw [runInvocations]
  simp only [runInvocation_stopping, stopOnError_stopping, failed,
    Bool.and_self, if_true, noteIf_stopping]

/-- A command that does not fail is run and the others follow. -/
theorem runInvocations_stopping_of_not_isError {engine : Engine}
    {invocation : Invocation}
    (fine : (engine.runInvocation invocation).1.isError = false)
    (more : List Invocation) :
    let done := engine.runInvocation invocation
    let rest := (done.2.stopping true).runInvocations more
    (engine.stopping true).runInvocations (invocation :: more) =
      (⟨⟨invocation.keyword, invocation.line, done.1⟩ :: rest.1.executed,
        rest.1.stopped⟩, rest.2) := by
  rw [runInvocations]
  simp only [runInvocation_stopping, stopOnError_stopping, fine,
    Bool.false_and, Bool.false_eq_true, if_false]

/-- The stopping run has the answers of the other one up to the first error. -/
theorem executed_runInvocations_stopping (engine : Engine)
    (invocations : List Invocation) :
    ((engine.stopping true).runInvocations invocations).1.executed =
      upToError
        ((engine.stopping false).runInvocations invocations).1.executed := by
  induction invocations generalizing engine with
  | nil => rfl
  | cons invocation more induction =>
      rw [runInvocations_going, upToError]
      cases failed : (engine.runInvocation invocation).1.isError with
      | true =>
          rw [runInvocations_stopping_of_isError failed, if_pos rfl]
      | false =>
          rw [runInvocations_stopping_of_not_isError failed,
            if_neg Bool.false_ne_true, induction]

/-- The line of the last command; zero where there is none. -/
def lastLine (executed : List Executed) : Nat :=
  (executed.getLast?.map (·.line)).getD 0

/-- A run that stops early has run something. -/
theorem lastLine_cons (engine : Engine) (invocations : List Invocation)
    (first : Executed) :
    let rest := (engine.stopping true).runInvocations invocations
    rest.1.stopped = true →
      lastLine (first :: rest.1.executed) = lastLine rest.1.executed := by
  cases invocations with
  | nil => exact nofun
  | cons invocation more =>
      intro rest _
      obtain ⟨next, others, executed⟩ : ∃ next others,
          rest.1.executed = next :: others := by
        cases failed : (engine.runInvocation invocation).1.isError with
        | true =>
            exact ⟨_, _, congrArg (·.1.executed)
              (runInvocations_stopping_of_isError failed more)⟩
        | false =>
            exact ⟨_, _, congrArg (·.1.executed)
              (runInvocations_stopping_of_not_isError failed more)⟩
      rw [executed, lastLine, List.getLast?_cons_cons]
      rfl

/-- The stopping run leaves what the other one leaves of the commands up to the
first error, but for a notice that it stops. -/
theorem engine_runInvocations_stopping (engine : Engine)
    (invocations : List Invocation) :
    let stopped := (engine.stopping true).runInvocations invocations
    let short := (engine.stopping false).runInvocations
      (invocations.take stopped.1.executed.length)
    stopped.2 = (short.2.noteIf stopped.1.stopped .warn
        ("stopping after error on line " ++
          natText (lastLine stopped.1.executed))).stopping true ∧
      (stopped.1.stopped = true ↔
        stopped.1.executed.length < invocations.length) := by
  induction invocations generalizing engine with
  | nil => exact ⟨rfl, by simp [runInvocations]⟩
  | cons invocation more induction =>
      cases failed : (engine.runInvocation invocation).1.isError with
      | true =>
          rw [runInvocations_stopping_of_isError failed]
          simp only [List.length_singleton, List.take_succ_cons, List.take_zero,
            runInvocations_going]
          constructor
          · rw [runInvocations, noteIf_stopping]
            rfl
          · cases more <;> simp
      | false =>
          rw [runInvocations_stopping_of_not_isError failed]
          simp only [List.length_cons, List.take_succ_cons,
            runInvocations_going]
          obtain ⟨left, early⟩ := induction (engine.runInvocation invocation).2
          constructor
          · rw [left]
            -- The notice names the last line of the whole run.  Where the rest
            -- has stopped that is its own last line; else there is no notice.
            cases stopped : ((engine.runInvocation invocation).2.stopping
                true |>.runInvocations more).1.stopped with
            | true => rw [lastLine_cons _ _ _ stopped]
            | false => rfl
          · rw [early]
            omega

/-- A script that is skipped for its errors is only told about. -/
theorem runScript_skipped {engine : Engine} {text : String}
    (skips : engine.settings.policy.skipOnParseErrors = true)
    (errors : (engine.read text).errorCount ≠ 0) :
    (engine.runScript text).1 =
        { diagnostics := (engine.read text).diagnostics
          parsed := (engine.read text).invocations.length
          stoppedEarly := (engine.read text).invocations.length != 0 } ∧
      engine.Notes (engine.runScript text).2 := by
  have skipped : ((engine.read text).errorCount != 0 &&
      engine.settings.policy.skipOnParseErrors) = true := by
    simp [skips, errors]
  simp only [runScript, skipped, if_true, true_and]
  exact (engine.notes_noted text).trans (notes_note _ _ _)

/-- Stopping at errors is running a front of the commands.  Without it each
command answers, in order.  With it the answers are the shortest front of these
that ends in an error, and the engine is left as if just that many commands had
been run, but for a notice if there are more of them.  A script that is skipped
for its errors leaves everything but the journal as it is, and was stopped early
exactly if it has commands. -/
theorem runInvocations_stopping (engine : Engine)
    (invocations : List Invocation) :
    let going := (engine.stopping false).runInvocations invocations
    let stopped := (engine.stopping true).runInvocations invocations
    let count := stopped.1.executed.length
    let short := (engine.stopping false).runInvocations
      (invocations.take count)
    going.1.executed.map (fun executed => (executed.keyword, executed.line)) =
        invocations.map (fun invocation =>
          (invocation.keyword, invocation.line)) ∧
      StopsAtError going.1.executed stopped.1.executed ∧
      stopped.2 = (short.2.noteIf stopped.1.stopped .warn
        ("stopping after error on line " ++
          natText (lastLine stopped.1.executed))).stopping true ∧
      (stopped.1.stopped = true ↔ count < invocations.length) ∧
      ∀ text : String,
        engine.settings.policy.skipOnParseErrors = true →
        (engine.read text).errorCount ≠ 0 →
          engine.Notes (engine.runScript text).2 ∧
            (engine.runScript text).1.executed = [] ∧
            ((engine.runScript text).1.stoppedEarly = true ↔
              (engine.read text).invocations ≠ []) := by
  intro going stopped count short
  obtain ⟨left, early⟩ := engine.engine_runInvocations_stopping invocations
  have executed := engine.executed_runInvocations_stopping invocations
  refine ⟨engine.executed_runInvocations_going invocations, ?_, left, early, ?_⟩
  · change StopsAtError going.1.executed
      ((engine.stopping true).runInvocations invocations).1.executed
    rw [executed]
    exact stopsAtError_upToError _
  · intro text skips errors
    obtain ⟨outcome, notes⟩ := runScript_skipped skips errors
    rw [outcome]
    exact ⟨notes, rfl, by simp⟩

/-- The second of three commands fails; and a script with an error is skipped
though its first command could be run. -/
theorem runInvocations_stopping_midway :
    let engine : Engine :=
      { settings := { policy := { skipOnParseErrors := true } } }
    let invocations := (engine.read
      "loadCase(\"a\")\nsetTimeStep(caseId=4)\nloadCase(\"b\")").invocations
    let going := (engine.stopping false).runInvocations invocations
    let stopped := (engine.stopping true).runInvocations invocations
    let text := "loadCase(\"a\")\nloadCase(path=[)"
    going.1.executed.length = 3 ∧
      StopsAtError going.1.executed stopped.1.executed ∧
      stopped.1.executed.map (·.line) = [1, 2] ∧
      stopped.1.stopped = true ∧
      stopped.2 = (((engine.stopping false).runInvocations
        (invocations.take 2)).2.note .warn
          "stopping after error on line 2").stopping true ∧
      (engine.read text).errorCount ≠ 0 ∧
      engine.Notes (engine.runScript text).2 ∧
      (engine.runScript text).1.stoppedEarly = true := by
  intro engine invocations going stopped text
  obtain ⟨lines, count, errors, parsed⟩ :
      stopped.1.executed.map (·.line) = [1, 2] ∧ invocations.length = 3 ∧
        (engine.read text).errorCount ≠ 0 ∧
        (engine.read text).invocations.length = 2 := by
    decide +kernel
  obtain ⟨each, stops, left, early, skipped⟩ :=
    engine.runInvocations_stopping invocations
  have two : stopped.1.executed.length = 2 := by
    simpa using congrArg List.length lines
  have three : going.1.executed.length = 3 := by
    simpa [count] using congrArg List.length each
  have fewer : stopped.1.executed.length < invocations.length := by omega
  have isStopped : stopped.1.stopped = true := early.mpr fewer
  obtain ⟨notes, _, told⟩ := skipped text rfl errors
  refine ⟨three, stops, lines, isStopped, ?_, errors, notes, told.mpr ?_⟩
  · have last : lastLine stopped.1.executed = 2 := by
      rw [lastLine, ← List.getLast?_map, lines]
      rfl
    change stopped.2 = _ at left
    rw [left, isStopped, last, two]
    rfl
  · intro none
    rw [none] at parsed
    cases parsed

end Engine

end GridScript
