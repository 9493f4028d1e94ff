import GridScript.Proofs.Stepping

/-!
# Reading further down

A text is read the same way wherever it stands.  `Cursor.shift` moves a cursor
some lines down, behind diagnostics of its own, and every reader commutes with
it: the same is read, and what is reported is reported that many lines later.
-/

namespace GridScript

/-- The diagnostic for a text that stands further down. -/
def Diagnostic.shift (lines : Nat) (d : Diagnostic) : Diagnostic :=
  { d with line := d.line + lines }

/-- The invocation in a text that stands further down. -/
def Invocation.shift (lines : Nat) (invocation : Invocation) : Invocation :=
  { invocation with line := invocation.line + lines }

namespace Cursor

/-- The cursor in a text that stands further down, behind `earlier`
diagnostics. -/
def shift (lines : Nat) (earlier : List Diagnostic) (c : Cursor) : Cursor :=
  { c with
    line := c.line + lines
    diagnostics := earlier ++ c.diagnostics.map (Diagnostic.shift lines) }

/-- Reading commutes with standing further down. -/
def Shifts {α : Type} (read : Cursor → α × Cursor) : Prop :=
  ∀ lines earlier c, read (shift lines earlier c) =
    ((read c).1, shift lines earlier (read c).2)

variable (lines : Nat) (earlier : List Diagnostic) (c : Cursor)

@[simp] theorem rest_shift : (shift lines earlier c).rest = c.rest := rfl

@[simp] theorem line_shift :
    (shift lines earlier c).line = c.line + lines := rfl

@[simp] theorem advance_shift (count : Nat) :
    (shift lines earlier c).advance count =
      shift lines earlier (c.advance count) := by
  simp [shift, advance, Nat.add_right_comm]

@[simp] theorem next_shift :
    (shift lines earlier c).next = shift lines earlier c.next :=
  advance_shift lines earlier c 1

@[simp] theorem moveTo_shift (remainder : List Char) :
    (shift lines earlier c).moveTo remainder =
      shift lines earlier (c.moveTo remainder) :=
  advance_shift lines earlier c _

@[simp] theorem skipWhile_shift (test : Char → Bool) :
    (shift lines earlier c).skipWhile test =
      shift lines earlier (c.skipWhile test) :=
  advance_shift lines earlier c _

@[simp] theorem skipBlanks_shift :
    (shift lines earlier c).skipBlanks = shift lines earlier c.skipBlanks :=
  skipWhile_shift lines earlier c isBlank

@[simp] theorem peek?_shift : (shift lines earlier c).peek? = c.peek? := rfl

@[simp] theorem inCommand_shift (keyword : String) :
    (shift lines earlier c).inCommand keyword =
      shift lines earlier (c.inCommand keyword) := rfl

@[simp] theorem inArgument_shift (name : String) :
    (shift lines earlier c).inArgument name =
      shift lines earlier (c.inArgument name) := rfl

@[simp] theorem leaveArgument_shift :
    (shift lines earlier c).leaveArgument =
      shift lines earlier c.leaveArgument := rfl

@[simp] theorem leaveCommand_shift :
    (shift lines earlier c).leaveCommand =
      shift lines earlier c.leaveCommand := rfl

@[simp] theorem errorAt_shift (line : Nat) (problem : Problem) :
    (shift lines earlier c).errorAt (line + lines) problem =
      shift lines earlier (c.errorAt line problem) := by
  simp [errorAt, report, shift, Diagnostic.shift]

@[simp] theorem error_shift (problem : Problem) :
    (shift lines earlier c).error problem =
      shift lines earlier (c.error problem) :=
  errorAt_shift lines earlier c c.line problem

@[simp] theorem warn_shift (problem : Problem) :
    (shift lines earlier c).warn problem =
      shift lines earlier (c.warn problem) := by
  simp [warn, report, shift, Diagnostic.shift]

/-! ### Values -/

theorem shifts_readBare (stop : Char → Bool) : Shifts (readBare stop) := by
  intro lines earlier c
  simp [readBare]

theorem shifts_readWord : Shifts readWord := by
  intro lines earlier c
  simp [readWord]

theorem shifts_readString : Shifts readString := by
  intro lines earlier c
  simp only [readString, skipBlanks_shift, rest_shift, line_shift]
  split
  · simp only [moveTo_shift, errorAt_shift]
    split <;> rfl
  · split
    · simp
    · rw [error_shift, shifts_readBare]

theorem shifts_readToken {bare : Cursor → String × Cursor}
    (shifts : Shifts bare) : Shifts (readToken bare) := by
  intro lines earlier c
  simp only [readToken, skipBlanks_shift, peek?_shift]
  split
  · exact shifts_readString lines earlier c.skipBlanks
  · exact shifts lines earlier c.skipBlanks

theorem shifts_readBool : Shifts readBool := by
  intro lines earlier c
  have token := shifts_readToken (shifts_readBare isTokenEndOrBlank) lines
    earlier c
  simp only [readBool, token]
  split
  · rfl
  · split
    · rfl
    · simp

theorem rejectNumber_shift (read : List Char) :
    (shift lines earlier c).rejectNumber read =
      shift lines earlier (c.rejectNumber read) := by
  have token := shifts_readBare isTokenEndOrBlank lines earlier c
  simp [rejectNumber, token]

theorem shifts_readNumeral : Shifts readNumeral := by
  intro lines earlier c
  simp only [readNumeral, skipBlanks_shift, rest_shift]
  split
  · rw [rejectNumber_shift]
  · have glued : ∀ c : Cursor,
        (shift lines earlier c).isGlued = c.isGlued := fun _ => rfl
    simp only [moveTo_shift, glued, rejectNumber_shift]
    split <;> rfl

theorem shifts_readInt : Shifts readInt := by
  intro lines earlier c
  rw [readInt, shifts_readNumeral, readInt]
  obtain ⟨numeral, after⟩ := c.readNumeral
  cases numeral with
  | none => rfl
  | some numeral =>
      dsimp only
      split
      · rfl
      · simp

theorem shifts_readDouble : Shifts readDouble := by
  intro lines earlier c
  rw [readDouble, shifts_readNumeral, readDouble]
  obtain ⟨numeral, after⟩ := c.readNumeral
  cases numeral with
  | none => rfl
  | some numeral => rfl

theorem shifts_readVariant (names : Enumeration) :
    Shifts (readVariant names) := by
  intro lines earlier c
  have token := shifts_readToken shifts_readWord lines earlier c
  simp only [readVariant, token]
  split
  · rfl
  · simp

theorem progress_shift (after : Cursor) :
    (shift lines earlier c).progress (shift lines earlier after) =
      shift lines earlier (c.progress after) := by
  by_cases less : after.rest.length < c.rest.length
  · simp [progress, less]
  · simp only [progress, rest_shift, less, if_false, next_shift]
    rfl

/-- The step in a text that stands further down. -/
def ListStep.shift {α : Type} : ListStep α → ListStep α
  | .finished after => .finished (after.shift lines earlier)
  | .continued item after => .continued item (after.shift lines earlier)

theorem listStep_shift {α : Type} {item : Cursor → Option α × Cursor}
    (shifts : Shifts item) :
    listStep item (shift lines earlier c) =
      (listStep item c).shift lines earlier := by
  simp only [listStep, skipBlanks_shift, rest_shift, line_shift, next_shift,
    errorAt_shift, shifts lines earlier, progress_shift]
  split
  · rfl
  · split
    · rfl
    · split
      · rfl
      · split <;> rfl

theorem shifts_readItems {α : Type} {item : Cursor → Option α × Cursor}
    (shifts : Shifts item) : Shifts (readItems item) := by
  intro lines earlier c
  have step := listStep_shift lines earlier c shifts
  cases found : listStep item c with
  | finished after =>
      rw [found] at step
      rw [readItems_of_finished found, readItems_of_finished step]
  | continued value after =>
      rw [found] at step
      have less := listStep_length_lt found
      have others := shifts_readItems shifts lines earlier after
      rw [readItems_of_continued found, readItems_of_continued step, others]
termination_by _ _ c => c.rest.length

theorem shifts_readList {α : Type} {item : Cursor → Option α × Cursor}
    (shifts : Shifts item) : Shifts (readList item) := by
  intro lines earlier c
  simp only [readList, skipBlanks_shift, peek?_shift, next_shift,
    shifts_readItems shifts lines earlier, error_shift]
  split <;> rfl

theorem shifts_readReferenceToken : Shifts readReferenceToken := by
  intro lines earlier c
  rw [readReferenceToken, skipBlanks_shift, shifts_readBare]
  rfl

theorem resolveReference_shift (objects : ObjectTable)
    (className token : String) :
    (shift lines earlier c).resolveReference objects className token =
      ((c.resolveReference objects className token).1,
        shift lines earlier
          (c.resolveReference objects className token).2) := by
  simp only [resolveReference, error_shift, warn_shift]
  split
  · rfl
  · split
    · rfl
    · split
      · rfl
      · split <;> rfl

theorem shifts_readReference (objects : ObjectTable) (className : String) :
    Shifts (readReference objects className) := by
  intro lines earlier c
  simp only [readReference, shifts_readReferenceToken lines earlier,
    resolveReference_shift]
  split <;> rfl

theorem shifts_readReferenceItem (objects : ObjectTable)
    (className : String) : Shifts (readReferenceItem objects className) := by
  intro lines earlier c
  simp only [readReferenceItem, shifts_readReferenceToken lines earlier,
    resolveReference_shift]
  split <;> rfl

theorem shifts_unlessEnd {α : Type} {read : Cursor → α × Cursor}
    (shifts : Shifts read) (value : α → Option Value) :
    Shifts (unlessEnd fun c => (read c).map value id) := by
  intro lines earlier c
  simp only [unlessEnd, skipBlanks_shift, rest_shift, error_shift,
    shifts lines earlier]
  split <;> rfl

theorem shifts_readValue (objects : ObjectTable) (type : ValueType) :
    Shifts (readValue objects type) := by
  induction type with
  | string => exact shifts_unlessEnd shifts_readString _
  | bool => exact shifts_unlessEnd shifts_readBool _
  | int => exact shifts_unlessEnd shifts_readInt _
  | double => exact shifts_unlessEnd shifts_readDouble _
  | enumeration names => exact shifts_unlessEnd (shifts_readVariant names) _
  | array element induction =>
      exact shifts_unlessEnd (shifts_readList induction) _
  | reference className =>
      exact shifts_unlessEnd (shifts_readReference objects className) _
  | references className =>
      exact shifts_unlessEnd
        (shifts_readList (shifts_readReferenceItem objects className)) _

end Cursor

namespace Parser

open Cursor

variable (lines : Nat) (earlier : List Diagnostic) (c : Cursor)

/-- The argument list in a text that stands further down. -/
def ArgumentList.shift (state : ArgumentList) : ArgumentList :=
  { state with
    cursor := state.cursor.shift lines earlier
    invocation := state.invocation.shift lines }

@[simp] theorem checkSeparator_shift (dialect : Dialect) (equals : Bool) :
    checkSeparator dialect equals (c.shift lines earlier) =
      (checkSeparator dialect equals c).shift lines earlier := by
  simp only [checkSeparator, error_shift]
  split <;> rfl

@[simp] theorem skipArgument_shift :
    skipArgument (c.shift lines earlier) =
      (skipArgument c).shift lines earlier := by
  simp [skipArgument]

@[simp] theorem skipComma_shift :
    skipComma (c.shift lines earlier) = (skipComma c).shift lines earlier := by
  simp only [skipComma, peek?_shift, next_shift]
  split <;> rfl

theorem readField_shift (objects : ObjectTable) (field : Field)
    (state : ArgumentList) :
    readField objects field (c.shift lines earlier)
        (state.shift lines earlier) =
      (readField objects field c state).shift lines earlier := by
  simp only [readField, shifts_readValue objects field.type lines earlier]
  split <;> rfl

theorem readNamed_shift (dialect : Dialect) (objects : ObjectTable)
    (found : ArgumentName) (state : ArgumentList) :
    readNamed dialect objects found (c.shift lines earlier)
        (state.shift lines earlier) =
      (readNamed dialect objects found c state).shift lines earlier := by
  have arguments : (state.shift lines earlier).invocation.arguments =
      state.invocation.arguments := rfl
  have fields : (state.shift lines earlier).invocation.fields =
      state.invocation.fields := rfl
  simp only [readNamed, inArgument_shift, checkSeparator_shift, warn_shift,
    error_shift, skipArgument_shift, readField_shift, arguments, fields]
  split
  · rfl
  · split
    · split <;> rfl
    · rfl

theorem readPositional_shift (dialect : Dialect) (objects : ObjectTable)
    (state : ArgumentList) :
    readPositional dialect objects (c.shift lines earlier)
        (state.shift lines earlier) =
      (readPositional dialect objects c state).shift lines earlier := by
  have same : positionalField? (state.shift lines earlier) =
      positionalField? state := rfl
  simp only [readPositional, same, inArgument_shift, error_shift,
    skipArgument_shift]
  split
  · split
    · rename_i field _
      exact readField_shift lines earlier (c.inArgument field.name) objects
        field { state with passed := passedBy state field }
    · rfl
  · rfl

theorem finishArgument_shift :
    finishArgument (c.shift lines earlier) =
      (finishArgument c).shift lines earlier := by
  simp only [finishArgument, skipBlanks_shift, rest_shift, next_shift,
    leaveArgument_shift, error_shift, skipArgument_shift, skipComma_shift]
  split
  · rfl
  · split
    · rfl
    · split <;> rfl

/-- The step in a text that stands further down. -/
def ArgumentStep.shift : ArgumentStep → ArgumentStep
  | .finished after => .finished (after.shift lines earlier)
  | .continued state => .continued (state.shift lines earlier)

theorem argumentStep_shift (dialect : Dialect) (objects : ObjectTable)
    (start : Nat) (state : ArgumentList) :
    argumentStep dialect objects (start + lines) (state.shift lines earlier) =
      (argumentStep dialect objects start state).shift lines earlier := by
  have cursor : (state.shift lines earlier).cursor =
      state.cursor.shift lines earlier := rfl
  have read : ∀ c : Cursor,
      readArgument dialect objects (c.shift lines earlier)
          (state.shift lines earlier) =
        (readArgument dialect objects c state).shift lines earlier := by
    intro c
    simp only [readArgument, rest_shift, moveTo_shift, readNamed_shift,
      readPositional_shift]
    split <;> rfl
  have finish : ∀ read : ArgumentList,
      finishArgument (read.shift lines earlier).cursor =
        (finishArgument read.cursor).shift lines earlier :=
    fun read => finishArgument_shift lines earlier read.cursor
  simp only [argumentStep, cursor, skipBlanks_shift, rest_shift, errorAt_shift,
    next_shift, read, finish]
  split
  · rfl
  · split
    · rfl
    · split
      · rfl
      · rfl

theorem readArguments_shift (dialect : Dialect) (objects : ObjectTable)
    (start : Nat) (state : ArgumentList) :
    readArguments dialect objects (start + lines)
        (state.shift lines earlier) =
      ((readArguments dialect objects start state).1.shift lines,
        (readArguments dialect objects start state).2.shift lines earlier) := by
  have step := argumentStep_shift lines earlier dialect objects start state
  cases found : argumentStep dialect objects start state with
  | finished after =>
      rw [found] at step
      rw [readArguments_of_finished found, readArguments_of_finished step]
      rfl
  | continued next =>
      rw [found] at step
      have less := argumentStep_length_lt found
      rw [readArguments_of_continued found, readArguments_of_continued step]
      exact readArguments_shift dialect objects start next
termination_by state.cursor.rest.length

theorem readInvocation_shift (dialect : Dialect) (objects : ObjectTable)
    (invocation : Invocation) :
    readInvocation dialect objects (invocation.shift lines)
        (c.shift lines earlier) =
      ((readInvocation dialect objects invocation c).1.map
          (Invocation.shift lines),
        (readInvocation dialect objects invocation c).2.shift lines
          earlier) := by
  have keyword : (invocation.shift lines).keyword = invocation.keyword := rfl
  have list := readArguments_shift lines earlier dialect objects
    c.skipBlanks.line { cursor := c.skipBlanks.next, invocation }
  simp only [ArgumentList.shift] at list
  simp only [readInvocation, skipBlanks_shift, peek?_shift, line_shift,
    next_shift, list, error_shift, keyword, rest_shift, moveTo_shift]
  split <;> rfl

theorem readStatement_shift (registry : Registry) (dialect : Dialect)
    (objects : ObjectTable) :
    readStatement registry dialect objects (c.shift lines earlier) =
      ((readStatement registry dialect objects c).1.map
          (Invocation.shift lines),
        (readStatement registry dialect objects c).2.shift lines earlier) := by
  have skip : ∀ c : Cursor, skipCommand (c.shift lines earlier) =
      (skipCommand c).shift lines earlier := by
    intro c
    simp [skipCommand]
  simp only [readStatement, rest_shift, error_shift, peek?_shift, moveTo_shift,
    inCommand_shift, leaveCommand_shift, line_shift, skip]
  split
  · rfl
  · split
    · rfl
    · rename_i invocation _
      have read := fun here : Cursor => readInvocation_shift lines earlier here
        dialect objects { invocation with line := c.line }
      simp only [Invocation.shift] at read
      simp only [read]
      rfl

/-- A script is read the same way further down, line for line. -/
theorem readScript_shift (registry : Registry) (dialect : Dialect)
    (objects : ObjectTable) (c : Cursor) :
    readScript registry dialect objects (c.shift lines earlier) =
      ((readScript registry dialect objects c).1.map (Invocation.shift lines),
        (readScript registry dialect objects c).2.shift lines earlier) := by
  have separators : skipSeparators dialect (c.shift lines earlier) =
      (skipSeparators dialect c).shift lines earlier := by
    simp [skipSeparators]
  rw [readScript, readScript]
  by_cases done : (skipSeparators dialect c).rest = []
  · simp [separators, done]
  · have statement := readStatement_shift lines earlier
      (skipSeparators dialect c) registry dialect objects
    have less := script_length_lt registry dialect objects done
    have others := readScript_shift registry dialect objects
      (readStatement registry dialect objects (skipSeparators dialect c)).2
    simp only [separators, rest_shift, done, dite_false, statement, others]
    simp [Option.toList_map]
termination_by c.rest.length
decreasing_by exact less

end Parser

end GridScript
