import GridScript.Builtin.Registry
import GridScript.Proofs.Prolonging
import GridScript.Proofs.Recovery
import GridScript.Proofs.Statements

/-!
# Scripts joined by a newline

A script that is read without errors has closed every argument list that it
opened, so nothing of what follows it can change how it is read.  Behind it the
next script is read as if it stood alone, only further down.
-/

namespace GridScript

namespace Cursor

/-- No error has been reported. -/
def Clean (c : Cursor) : Prop :=
  ∀ d ∈ c.diagnostics, d.isError = false

theorem Clean.of_reaches {before after : Cursor} (clean : after.Clean)
    (reached : before.Reaches after) : before.Clean :=
  fun d member => clean d (reached.reported.subset member)

theorem not_clean_errorAt (c : Cursor) (line : Nat) (problem : Problem) :
    ¬(c.errorAt line problem).Clean := by
  intro clean
  have found := clean ⟨.error, line, problem, c.command, c.argument⟩
    (by simp [errorAt, report])
  cases found

end Cursor

namespace Parser

open Cursor

/-- The argument list in a text that goes on with `more`. -/
def ArgumentList.extend (more : List Char) (state : ArgumentList) :
    ArgumentList :=
  { state with cursor := state.cursor.extend more }

section

variable (more : List Char)

@[simp] theorem checkSeparator_extend (c : Cursor) (dialect : Dialect)
    (equals : Bool) :
    checkSeparator dialect equals (c.extend more) =
      (checkSeparator dialect equals c).extend more := by
  simp only [checkSeparator, error_extend]
  split <;> rfl

theorem skipArgument_extend {c : Cursor}
    (unread : ')' ∈ (skipArgument c).rest) :
    skipArgument (c.extend more) = (skipArgument c).extend more := by
  have left : Skip.argument c.rest ≠ [] := by
    rw [rest_skipArgument] at unread
    exact List.ne_nil_of_mem unread
  rw [skipArgument, rest_extend, Skip.argument, value_append left]
  exact moveTo_extend more c _

theorem skipComma_extend {c : Cursor} (unread : c.rest ≠ []) :
    skipComma (c.extend more) = (skipComma c).extend more := by
  simp only [skipComma, peek?_extend more unread, next_extend more unread]
  split <;> rfl

theorem readField_extend (objects : ObjectTable) (field : Field) {c : Cursor}
    (state : ArgumentList)
    (unread : ')' ∈ (readField objects field c state).cursor.rest) :
    readField objects field (c.extend more) (state.extend more) =
      (readField objects field c state).extend more := by
  have left : ')' ∈ (c.readValue objects field.type).2.rest := by
    unfold readField at unread
    dsimp only at unread
    split at unread <;> exact unread
  simp only [readField, extends_readValue objects field.type more c left]
  split <;> rfl

theorem readNamed_extend (dialect : Dialect) (objects : ObjectTable)
    (found : ArgumentName) (c : Cursor) (state : ArgumentList)
    (unread : ')' ∈
      (readNamed dialect objects found c state).cursor.rest) :
    readNamed dialect objects found (c.extend more) (state.extend more) =
      (readNamed dialect objects found c state).extend more := by
  have invocation : (state.extend more).invocation = state.invocation := rfl
  unfold readNamed at unread ⊢
  simp only [inArgument_extend, checkSeparator_extend, warn_extend,
    error_extend, invocation] at unread ⊢
  split
  · rename_i unknown
    rw [unknown] at unread
    simp only [skipArgument_extend more unread]
    rfl
  · rename_i field known
    rw [known] at unread
    dsimp only at unread
    split
    · rename_i scriptable
      rw [if_pos scriptable] at unread
      split
      · rename_i repeated
        rw [if_pos repeated] at unread
        exact readField_extend more objects field state unread
      · rename_i first
        rw [if_neg first] at unread
        exact readField_extend more objects field state unread
    · rename_i internal
      rw [if_neg internal] at unread
      simp only [skipArgument_extend more unread]
      rfl

theorem readPositional_extend (dialect : Dialect) (objects : ObjectTable)
    (c : Cursor) (state : ArgumentList)
    (unread : ')' ∈
      (readPositional dialect objects c state).cursor.rest) :
    readPositional dialect objects (c.extend more) (state.extend more) =
      (readPositional dialect objects c state).extend more := by
  have same : positionalField? (state.extend more) =
      positionalField? state := rfl
  unfold readPositional at unread ⊢
  simp only [same, inArgument_extend, error_extend] at unread ⊢
  split
  · rename_i positional
    rw [if_pos positional] at unread
    split
    · rename_i field isNext
      rw [isNext] at unread
      exact readField_extend more objects field
        { state with passed := passedBy state field } unread
    · rename_i full
      rw [full] at unread
      simp only [skipArgument_extend more unread]
      rfl
  · rename_i named
    rw [if_neg named] at unread
    simp only [skipArgument_extend more unread]
    rfl

theorem readArgument_extend (dialect : Dialect) (objects : ObjectTable)
    (c : Cursor) (state : ArgumentList)
    (unread : ')' ∈ (readArgument dialect objects c state).cursor.rest) :
    readArgument dialect objects (c.extend more) (state.extend more) =
      (readArgument dialect objects c state).extend more := by
  have here := (reaches_readArgument dialect objects c state).suffix.mem unread
  have name := scan_append argumentName?_delimited here more
  unfold readArgument at unread ⊢
  rw [rest_extend, name]
  cases named : argumentName? c.rest with
  | none =>
      rw [named] at unread
      exact readPositional_extend more dialect objects c state unread
  | some found =>
      rw [named] at unread
      simp only [Option.map_some, moveTo_extend]
      exact readNamed_extend more dialect objects found.1 _ state unread

theorem recover_extend {c : Cursor} (unread : ')' ∈ (recover c).rest) :
    recover (c.extend more) = (recover c).extend more := by
  have whole := (reaches_recover c).suffix.mem unread
  obtain ⟨next, tail, shape⟩ := List.exists_cons_of_ne_nil
    (List.ne_nil_of_mem (mem_rest_skipBlanks whole))
  unfold recover at unread ⊢
  simp only [skipBlanks_extend more whole, rest_extend, shape,
    List.cons_append] at unread ⊢
  split
  · rfl
  · rename_i other
    rw [if_neg other] at unread
    rw [error_extend, skipArgument_extend more unread]

theorem finishArgument_extend {c : Cursor}
    (unread : ')' ∈ (finishArgument c).rest) :
    finishArgument (c.extend more) = (finishArgument c).extend more := by
  rw [finishArgument_eq] at unread ⊢
  have left := (reaches_skipComma (recover c)).suffix.mem unread
  rw [finishArgument_eq, recover_extend more left,
    skipComma_extend more (List.ne_nil_of_mem left), leaveArgument_extend]

/-- A step along an argument list, with the end of the list still to come. -/
theorem argumentStep_extend {dialect : Dialect} {objects : ObjectTable}
    {start : Nat} {state next : ArgumentList}
    (step : argumentStep dialect objects start state = .continued next)
    (unread : ')' ∈ next.cursor.rest) :
    argumentStep dialect objects start (state.extend more) =
      .continued (next.extend more) := by
  have forward := reaches_argumentStep dialect objects start state
  rw [step] at forward
  have whole := forward.suffix.mem unread
  have cursor : (state.extend more).cursor = state.cursor.extend more := rfl
  have some := List.ne_nil_of_mem (mem_rest_skipBlanks whole)
  obtain ⟨head, tail, shape⟩ := List.exists_cons_of_ne_nil some
  simp only [argumentStep, shape] at step
  simp only [argumentStep, cursor, skipBlanks_extend more whole, rest_extend,
    shape, List.cons_append, next_extend more some]
  by_cases close : head = ')'
  · rw [if_pos close] at step
    cases step
  · rw [if_neg close] at step ⊢
    by_cases comma : head = ','
    · rw [if_pos comma] at step ⊢
      cases step
      rfl
    · rw [if_neg comma] at step ⊢
      cases step
      have left := (reaches_finishArgument _).suffix.mem unread
      rw [readArgument_extend more dialect objects _ state left]
      congr 1
      simp only [ArgumentList.extend]
      rw [finishArgument_extend more unread]

/-- Without an error an argument list ends at its parenthesis. -/
theorem exists_close_of_finished {dialect : Dialect} {objects : ObjectTable}
    {start : Nat} {state : ArgumentList} {after : Cursor}
    (step : argumentStep dialect objects start state = .finished after)
    (clean : after.Clean) :
    ∃ tail, state.cursor.skipBlanks.rest = ')' :: tail := by
  unfold argumentStep at step
  dsimp only at step
  split at step
  · cases step
    exact absurd clean (not_clean_errorAt _ _ _)
  · rename_i next tail shape
    split at step
    · rename_i close
      exact ⟨tail, close ▸ shape⟩
    · split at step <;> cases step

theorem argumentStep_finished_extend {dialect : Dialect}
    {objects : ObjectTable} {start : Nat} {state : ArgumentList}
    {after : Cursor}
    (step : argumentStep dialect objects start state = .finished after)
    (clean : after.Clean) :
    argumentStep dialect objects start (state.extend more) =
      .finished (after.extend more) := by
  obtain ⟨tail, shape⟩ := exists_close_of_finished step clean
  have some : state.cursor.skipBlanks.rest ≠ [] := by
    rw [shape]
    exact List.cons_ne_nil _ _
  have whole : ')' ∈ state.cursor.rest := by
    apply state.cursor.reaches_skipBlanks.suffix.mem
    rw [shape]
    exact List.mem_cons_self
  have cursor : (state.extend more).cursor = state.cursor.extend more := rfl
  simp only [argumentStep, shape, if_true] at step
  cases step
  simp only [argumentStep, cursor, skipBlanks_extend more whole, rest_extend,
    shape, List.cons_append, if_true, next_extend more some]

theorem close_mem_of_clean {dialect : Dialect} {objects : ObjectTable}
    {start : Nat} (state : ArgumentList)
    (clean : (readArguments dialect objects start state).2.Clean) :
    ')' ∈ state.cursor.rest := by
  cases step : argumentStep dialect objects start state with
  | finished after =>
      rw [readArguments_of_finished step] at clean
      obtain ⟨tail, shape⟩ := exists_close_of_finished step clean
      apply state.cursor.reaches_skipBlanks.suffix.mem
      rw [shape]
      exact List.mem_cons_self
  | continued next =>
      have less := argumentStep_length_lt step
      have forward := reaches_argumentStep dialect objects start state
      rw [step] at forward
      rw [readArguments_of_continued step] at clean
      exact forward.suffix.mem (close_mem_of_clean next clean)
termination_by state.cursor.rest.length

/-- An argument list without errors is read the same in a longer text. -/
theorem readArguments_extend {dialect : Dialect} {objects : ObjectTable}
    {start : Nat} (state : ArgumentList)
    (clean : (readArguments dialect objects start state).2.Clean) :
    readArguments dialect objects start (state.extend more) =
      ((readArguments dialect objects start state).1,
        (readArguments dialect objects start state).2.extend more) := by
  cases step : argumentStep dialect objects start state with
  | finished after =>
      rw [readArguments_of_finished step] at clean ⊢
      rw [readArguments_of_finished
        (argumentStep_finished_extend more step clean)]
      rfl
  | continued next =>
      have less := argumentStep_length_lt step
      rw [readArguments_of_continued step] at clean ⊢
      have unread := close_mem_of_clean next clean
      rw [readArguments_of_continued (argumentStep_extend more step unread)]
      exact readArguments_extend next clean
termination_by state.cursor.rest.length

/-- Without an error there is an argument list, and it is closed. -/
theorem exists_open_of_clean {dialect : Dialect} {objects : ObjectTable}
    {invocation : Invocation} {c : Cursor}
    (clean : (readInvocation dialect objects invocation c).2.Clean) :
    c.skipBlanks.peek? = some '(' ∧ ')' ∈ c.rest := by
  unfold readInvocation at clean
  dsimp only at clean
  split at clean
  · rename_i opened
    have forward := c.reaches_skipBlanks.trans c.skipBlanks.reaches_next
    exact ⟨opened, forward.suffix.mem (close_mem_of_clean _ clean)⟩
  · exact absurd (clean.of_reaches (reaches_moveTo _ _))
      (not_clean_errorAt _ _ _)

theorem readInvocation_extend {dialect : Dialect} {objects : ObjectTable}
    {invocation : Invocation} {c : Cursor}
    (clean : (readInvocation dialect objects invocation c).2.Clean) :
    readInvocation dialect objects invocation (c.extend more) =
      ((readInvocation dialect objects invocation c).1,
        (readInvocation dialect objects invocation c).2.extend more) := by
  obtain ⟨opened, unread⟩ := exists_open_of_clean clean
  have some := List.ne_nil_of_mem (mem_rest_skipBlanks unread)
  simp only [readInvocation, opened, if_true] at clean
  have list := readArguments_extend more
    { cursor := c.skipBlanks.next, invocation } clean
  simp only [ArgumentList.extend] at list
  simp only [readInvocation, skipBlanks_extend more unread,
    peek?_extend more some, opened, if_true, next_extend more some,
    line_extend, list]

/-- A statement without errors is read the same in a longer text. -/
theorem readStatement_extend {registry : Registry} {dialect : Dialect}
    {objects : ObjectTable} {c : Cursor}
    (clean : (readStatement registry dialect objects c).2.Clean) :
    readStatement registry dialect objects (c.extend more) =
      ((readStatement registry dialect objects c).1,
        (readStatement registry dialect objects c).2.extend more) := by
  unfold readStatement at clean ⊢
  cases word : identifier? c.rest with
  | none =>
      rw [word] at clean
      exact absurd (clean.of_reaches (reaches_skipCommand _))
        (not_clean_errorAt _ _ _)
  | some found =>
      obtain ⟨letters, after⟩ := found
      simp only [word] at clean ⊢
      cases known : registry.create? (String.ofList letters) with
      | none =>
          simp only [known] at clean
          exact absurd (Clean.of_reaches clean ((reaches_skipCommand _).trans
            (reaches_leaveCommand _))) (not_clean_errorAt _ _ _)
      | some invocation =>
          simp only [known] at clean
          obtain ⟨_, unread⟩ := exists_open_of_clean
            (c := (c.moveTo after).inCommand (String.ofList letters)) clean
          have whole := (c.reaches_moveTo after).suffix.mem unread
          simp only [rest_extend, scan_append identifier?_delimited whole, word,
            Option.map_some, known, moveTo_extend, inCommand_extend,
            line_extend, readInvocation_extend more clean,
            leaveCommand_extend]

end

/-! ### Between statements -/

theorem afterNewline_of_mem {text : List Char} (broken : '\n' ∈ text)
    (more : List Char) :
    afterNewline (text ++ more) = afterNewline text ++ more := by
  induction text with
  | nil => cases broken
  | cons head text induction =>
      rw [List.cons_append, afterNewline, afterNewline]
      split
      · rfl
      · rename_i other
        rcases List.mem_cons.mp broken with same | later
        · exact absurd same.symm other
        · exact induction later

theorem afterNewline_of_not_mem {text : List Char} (single : '\n' ∉ text) :
    afterNewline text = [] := by
  induction text with
  | nil => rfl
  | cons head text induction =>
      rw [List.mem_cons, not_or] at single
      rw [afterNewline, if_neg (Ne.symm single.1), induction single.2]

theorem separators_nil (comment : Char) : Skip.separators comment [] = [] := by
  rw [Skip.separators.eq_def]

theorem separators_cons (comment c : Char) (rest : List Char) :
    Skip.separators comment (c :: rest) =
      if isBlank c || c == ';' then Skip.separators comment rest
      else if c = comment then Skip.separators comment (afterNewline rest)
      else c :: rest := by
  rw [Skip.separators.eq_def]

theorem separators_append {comment : Char} {text : List Char}
    (unread : Skip.separators comment text ≠ []) (more : List Char) :
    Skip.separators comment (text ++ more) =
      Skip.separators comment text ++ more := by
  fun_induction Skip.separators comment text with
  | case1 => exact absurd rfl unread
  | case2 head tail passed induction =>
      simp only [List.cons_append, separators_cons, passed, if_true]
      exact induction unread
  | case3 tail visible induction =>
      simp only [List.cons_append, separators_cons, visible,
        Bool.false_eq_true, if_false, if_true]
      by_cases broken : '\n' ∈ tail
      · rw [afterNewline_of_mem broken]
        exact induction unread
      · rw [afterNewline_of_not_mem broken] at unread
        exact absurd (separators_nil comment) unread
  | case4 head tail visible noComment =>
      simp only [List.cons_append, separators_cons, visible,
        noComment, Bool.false_eq_true, if_false]

/-- A text without statements may end in the middle of a comment, which the
newline ends. -/
theorem separators_newline {comment : Char} {text : List Char}
    (done : Skip.separators comment text = []) (rest : List Char) :
    Skip.separators comment (text ++ '\n' :: rest) =
      Skip.separators comment rest := by
  fun_induction Skip.separators comment text with
  | case1 =>
      have blank : isBlank '\n' = true := by decide
      rw [List.nil_append, Skip.separators.eq_def]
      simp [blank]
  | case2 head tail passed induction =>
      simp only [List.cons_append, separators_cons, passed, if_true]
      exact induction done
  | case3 tail visible induction =>
      simp only [List.cons_append, separators_cons, visible,
        Bool.false_eq_true, if_false, if_true]
      by_cases broken : '\n' ∈ tail
      · rw [afterNewline_of_mem broken]
        exact induction done
      · rw [afterNewline_append broken]
  | case4 => cases done

theorem skipSeparators_extend (dialect : Dialect) {c : Cursor}
    (unread : (skipSeparators dialect c).rest ≠ []) (more : List Char) :
    skipSeparators dialect (c.extend more) =
      (skipSeparators dialect c).extend more := by
  rw [rest_skipSeparators] at unread
  rw [skipSeparators, rest_extend, separators_append unread]
  exact moveTo_extend more c _

theorem reaches_skipSeparators (dialect : Dialect) (c : Cursor) :
    c.Reaches (skipSeparators dialect c) :=
  c.reaches_moveTo _

theorem reaches_readScript (registry : Registry) (dialect : Dialect)
    (objects : ObjectTable) (c : Cursor) :
    c.Reaches (readScript registry dialect objects c).2 := by
  have passed := reaches_skipSeparators dialect c
  rw [readScript]
  dsimp only
  split
  · exact passed
  · rename_i unread
    have less := script_length_lt registry dialect objects unread
    have read := reaches_readStatement registry dialect objects
      (skipSeparators dialect c)
    exact (passed.trans read).trans
      (reaches_readScript registry dialect objects _)
termination_by c.rest.length

/-- A script is read to its end. -/
theorem rest_readScript (registry : Registry) (dialect : Dialect)
    (objects : ObjectTable) (c : Cursor) :
    (readScript registry dialect objects c).2.rest = [] := by
  rw [readScript]
  dsimp only
  split
  · rename_i done
    exact done
  · rename_i unread
    have less := script_length_lt registry dialect objects unread
    exact rest_readScript registry dialect objects _
termination_by c.rest.length

/-- No statement leaves a command or an argument begun. -/
theorem readStatement_idle {registry : Registry} {dialect : Dialect}
    {objects : ObjectTable} {c : Cursor}
    (idle : c.command = none ∧ c.argument = none) :
    (readStatement registry dialect objects c).2.command = none ∧
      (readStatement registry dialect objects c).2.argument = none := by
  unfold readStatement
  split
  · exact idle
  · dsimp only
    split <;> exact ⟨rfl, rfl⟩

theorem readScript_ends_idle {registry : Registry} {dialect : Dialect}
    {objects : ObjectTable} (c : Cursor)
    (idle : c.command = none ∧ c.argument = none) :
    (readScript registry dialect objects c).2.command = none ∧
      (readScript registry dialect objects c).2.argument = none := by
  rw [readScript]
  dsimp only
  split
  · exact idle
  · rename_i unread
    have less := script_length_lt registry dialect objects unread
    exact readScript_ends_idle _ (readStatement_idle idle)
termination_by c.rest.length

/-- Behind a script without errors and a newline the next script is read. -/
theorem readScript_extend {registry : Registry} {dialect : Dialect}
    {objects : ObjectTable} (c : Cursor)
    (clean : (readScript registry dialect objects c).2.Clean)
    (second : List Char) :
    readScript registry dialect objects (c.extend ('\n' :: second)) =
      let one := readScript registry dialect objects c
      let two := readScript registry dialect objects
        (one.2.behind ['\n'] second)
      (one.1 ++ two.1, two.2) := by
  by_cases done : (skipSeparators dialect c).rest = []
  · have ended := readScript_done registry dialect objects done
    rw [rest_skipSeparators] at done
    have unread : (c.extend ('\n' :: second)).rest =
        (c.rest ++ ['\n']) ++ second := by simp
    have separate : Skip.separators dialect.comment
        ((c.rest ++ ['\n']) ++ second) =
          Skip.separators dialect.comment second := by
      rw [List.append_assoc]
      exact separators_newline done second
    have here : skipSeparators dialect c = c.behind c.rest [] := by
      rw [skipSeparators, done]
      exact moveTo_eq_behind (List.append_nil _).symm
    rw [readScript_separators registry dialect objects unread separate, ended,
      here]
    dsimp only
    rw [behind_behind]
    rfl
  · have less := script_length_lt registry dialect objects done
    have longer : (skipSeparators dialect
        (c.extend ('\n' :: second))).rest ≠ [] := by
      rw [skipSeparators_extend dialect done]
      simp
    rw [readScript_step registry dialect objects done] at clean ⊢
    have first := clean.of_reaches (reaches_readScript registry dialect
      objects _)
    rw [readScript_step registry dialect objects longer,
      skipSeparators_extend dialect done, readStatement_extend _ first]
    simp only [readScript_extend _ clean second, List.append_assoc]
termination_by c.rest.length

end Parser

theorem ParsedScript.hasErrors_eq_false_iff (parsed : ParsedScript) :
    parsed.hasErrors = false ↔
      ∀ d ∈ parsed.diagnostics, d.isError = false := by
  simp [hasErrors]

/-- Two scripts with a newline between them say what each of them says alone,
if the first one is read without errors; only the lines of the second one are
counted on. -/
theorem parseScript_append_newline {registry : Registry} {dialect : Dialect}
    {objects : ObjectTable} {first : String}
    (correct : (parseScript registry dialect objects first).hasErrors = false)
    (second : String) :
    let one := parseScript registry dialect objects first
    let two := parseScript registry dialect objects second
    let lines := 1 + first.toList.count '\n'
    parseScript registry dialect objects (first ++ "\n" ++ second) =
      ⟨one.invocations ++ two.invocations.map (Invocation.shift lines),
        one.diagnostics ++ two.diagnostics.map (Diagnostic.shift lines)⟩ := by
  have clean := (ParsedScript.hasErrors_eq_false_iff _).mp correct
  have start : Cursor.ofText (first ++ "\n" ++ second) =
      (Cursor.ofText first).extend ('\n' :: second.toList) := by
    simp [Cursor.ofText, Cursor.extend]
  have whole := Parser.readScript_extend (.ofText first) clean second.toList
  let ends := (Parser.readScript registry dialect objects (.ofText first)).2
  have idle : ends.command = none ∧ ends.argument = none :=
    Parser.readScript_ends_idle (.ofText first) ⟨rfl, rfl⟩
  have all : (Cursor.ofText first).rest = first.toList ++ ends.rest := by
    rw [Parser.rest_readScript, List.append_nil]
    rfl
  have counted := (Parser.reaches_readScript registry dialect objects
    (.ofText first)).line_eq all
  have line : (ends.behind ['\n'] second.toList).line =
      1 + (1 + first.toList.count '\n') := by
    rw [Cursor.line_behind, counted, Nat.add_comm 1 (1 + _)]
    rfl
  have further := Parser.readScript_idle registry dialect objects
    (c := ends.behind ['\n'] second.toList) idle line
    (Cursor.rest_behind _ _ _)
  dsimp only at whole
  rw [further] at whole
  simp only [parseScript, start, whole]
  rfl

/-- The first script ends in a comment and has a warning, the second one has
errors. -/
theorem parseScript_append_newline_commented :
    let first := "exportVisibleCells(view=View:7)\n# no view yet"
    let second := "loadCase(7)\nunheard()"
    let both := parseScript .builtin {} .empty (first ++ "\n" ++ second)
    both.invocations.map (fun read => (read.keyword, read.line)) =
        [("exportVisibleCells", 1), ("loadCase", 3)] ∧
      both.diagnostics.map (fun d => (d.isError, d.line)) =
        [(false, 1), (true, 3), (true, 4)] := by
  intro first second both
  have correct : (parseScript .builtin {} .empty first).hasErrors = false := by
    decide +kernel
  have joined : both = _ := parseScript_append_newline correct second
  rw [joined]
  decide +kernel

end GridScript
