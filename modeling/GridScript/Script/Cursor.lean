import GridScript.Script.Diagnostic

/-!
# The cursor over a script

All reading goes through one cursor, so that lines are counted wherever a
newline is consumed.  The cursor only moves forward, by `advance`, and
diagnostics are only ever added at the end.  `Cursor.Reaches` says so of two
cursors.
-/

namespace GridScript

/-- A position in a script, with the diagnostics reported on the way there. -/
structure Cursor where
  /-- The text not read yet. -/
  rest : List Char
  line : Nat := 1
  /-- The command being read. -/
  command : Option String := none
  /-- The argument being read. -/
  argument : Option String := none
  diagnostics : List Diagnostic := []
  deriving DecidableEq, Repr

namespace Cursor

/-- The start of a text. -/
def ofText (text : String) : Cursor :=
  { rest := text.toList }

/-- The next character. -/
def peek? (c : Cursor) : Option Char :=
  c.rest.head?

/-- Moves over the given number of characters and counts the newlines among
them. -/
def advance (c : Cursor) (count : Nat) : Cursor :=
  { c with
    rest := c.rest.drop count
    line := c.line + (c.rest.take count).count '\n' }

/-- Moves over one character. -/
def next (c : Cursor) : Cursor :=
  c.advance 1

/-- Moves to where only `remainder`, the end of the unread text, is left. -/
def moveTo (c : Cursor) (remainder : List Char) : Cursor :=
  c.advance (c.rest.length - remainder.length)

/-- Moves over characters as long as they satisfy `test`. -/
def skipWhile (c : Cursor) (test : Char → Bool) : Cursor :=
  c.advance (c.rest.takeWhile test).length

/-- Moves over white space. -/
def skipBlanks (c : Cursor) : Cursor :=
  c.skipWhile isBlank

/-- What is left of a text after its first newline. -/
def afterNewline : List Char → List Char
  | [] => []
  | c :: rest => if c = '\n' then rest else afterNewline rest

/-- Moves behind the next newline. -/
def skipLine (c : Cursor) : Cursor :=
  c.moveTo (afterNewline c.rest)

/-- Begins a command; no argument of it is being read yet. -/
def inCommand (c : Cursor) (keyword : String) : Cursor :=
  { c with command := some keyword, argument := none }

/-- Begins an argument. -/
def inArgument (c : Cursor) (name : String) : Cursor :=
  { c with argument := some name }

/-- Ends the argument. -/
def leaveArgument (c : Cursor) : Cursor :=
  { c with argument := none }

/-- Ends the command. -/
def leaveCommand (c : Cursor) : Cursor :=
  { c with command := none, argument := none }

/-- Adds a diagnostic for the given line, with the command and argument being
read. -/
def report (c : Cursor) (severity : Severity) (line : Nat) (problem : Problem) :
    Cursor :=
  { c with
    diagnostics :=
      c.diagnostics ++ [⟨severity, line, problem, c.command, c.argument⟩] }

def warn (c : Cursor) (problem : Problem) : Cursor :=
  c.report .warning c.line problem

def error (c : Cursor) (problem : Problem) : Cursor :=
  c.report .error c.line problem

/-- Adds an error for an earlier line, such as the one where a token started. -/
def errorAt (c : Cursor) (line : Nat) (problem : Problem) : Cursor :=
  c.report .error line problem

/-- The second cursor is reached from the first by reading on: the text between
them is consumed, lines are counted along it, and diagnostics are added at the
end. -/
structure Reaches (before after : Cursor) : Prop where
  moved : ∃ count, after.rest = before.rest.drop count ∧
    after.line = before.line + (before.rest.take count).count '\n'
  reported : before.diagnostics <+: after.diagnostics

/-- The command and argument being read are the same. -/
def SamePlace (before after : Cursor) : Prop :=
  after.command = before.command ∧ after.argument = before.argument

theorem Reaches.refl (c : Cursor) : c.Reaches c :=
  ⟨⟨0, by simp⟩, List.prefix_rfl⟩

theorem Reaches.trans {first second third : Cursor}
    (left : first.Reaches second) (right : second.Reaches third) :
    first.Reaches third := by
  obtain ⟨⟨count, rest, line⟩, reported⟩ := left
  obtain ⟨⟨more, rest', line'⟩, reported'⟩ := right
  refine ⟨⟨count + more, ?_, ?_⟩, reported.trans reported'⟩
  · rw [rest', rest, List.drop_drop]
  · rw [line', line, rest, List.take_add, List.count_append, Nat.add_assoc]

theorem Reaches.length_le {before after : Cursor}
    (reached : before.Reaches after) :
    after.rest.length ≤ before.rest.length := by
  obtain ⟨⟨count, rest, _⟩, _⟩ := reached
  rw [rest, List.length_drop]
  omega

/-- A cursor that has not come nearer to the end has not moved. -/
theorem Reaches.rest_eq {before after : Cursor} (reached : before.Reaches after)
    (same : before.rest.length ≤ after.rest.length) :
    after.rest = before.rest := by
  obtain ⟨⟨count, rest, _⟩, _⟩ := reached
  rw [rest, List.length_drop] at same
  rw [rest]
  rcases Nat.eq_zero_or_pos count with none | some
  · simp [none]
  · have empty : before.rest = [] := by
      rw [← List.length_eq_zero_iff]
      omega
    simp [empty]

theorem reaches_advance (c : Cursor) (count : Nat) :
    c.Reaches (c.advance count) :=
  ⟨⟨count, rfl, rfl⟩, List.prefix_rfl⟩

theorem reaches_next (c : Cursor) : c.Reaches c.next :=
  c.reaches_advance 1

theorem reaches_moveTo (c : Cursor) (remainder : List Char) :
    c.Reaches (c.moveTo remainder) :=
  c.reaches_advance _

theorem reaches_skipWhile (c : Cursor) (test : Char → Bool) :
    c.Reaches (c.skipWhile test) :=
  c.reaches_advance _

theorem reaches_skipBlanks (c : Cursor) : c.Reaches c.skipBlanks :=
  c.reaches_skipWhile isBlank

theorem reaches_report (c : Cursor) (severity : Severity) (line : Nat)
    (problem : Problem) :
    c.Reaches (c.report severity line problem) :=
  ⟨⟨0, by simp [report]⟩, List.prefix_append _ _⟩

theorem reaches_warn (c : Cursor) (problem : Problem) :
    c.Reaches (c.warn problem) :=
  c.reaches_report _ _ _

theorem reaches_error (c : Cursor) (problem : Problem) :
    c.Reaches (c.error problem) :=
  c.reaches_report _ _ _

theorem reaches_errorAt (c : Cursor) (line : Nat) (problem : Problem) :
    c.Reaches (c.errorAt line problem) :=
  c.reaches_report _ _ _

theorem reaches_inCommand (c : Cursor) (keyword : String) :
    c.Reaches (c.inCommand keyword) :=
  ⟨⟨0, by simp [inCommand]⟩, List.prefix_rfl⟩

theorem reaches_inArgument (c : Cursor) (name : String) :
    c.Reaches (c.inArgument name) :=
  ⟨⟨0, by simp [inArgument]⟩, List.prefix_rfl⟩

theorem reaches_leaveArgument (c : Cursor) : c.Reaches c.leaveArgument :=
  ⟨⟨0, by simp [leaveArgument]⟩, List.prefix_rfl⟩

theorem reaches_leaveCommand (c : Cursor) : c.Reaches c.leaveCommand :=
  ⟨⟨0, by simp [leaveCommand]⟩, List.prefix_rfl⟩

@[simp] theorem rest_next (c : Cursor) : c.next.rest = c.rest.tail := by
  simp [next, advance]

@[simp] theorem rest_skipBlanks (c : Cursor) :
    c.skipBlanks.rest = c.rest.dropWhile isBlank := by
  simp only [skipBlanks, skipWhile, advance]
  induction c.rest with
  | nil => rfl
  | cons head tail hypothesis =>
    by_cases blank : isBlank head
    · simpa [List.takeWhile_cons, List.dropWhile_cons, blank] using hypothesis
    · simp [blank]

/-- Moving to an end of the unread text leaves exactly that end. -/
theorem rest_moveTo (c : Cursor) {remainder : List Char}
    (ends : remainder <:+ c.rest) :
    (c.moveTo remainder).rest = remainder :=
  (List.suffix_iff_eq_drop.mp ends).symm

/-- The cursor after `moveTo` has as much left as asked for, if there was as
much. -/
theorem length_moveTo (c : Cursor) {remainder : List Char}
    (fits : remainder.length ≤ c.rest.length) :
    (c.moveTo remainder).rest.length = remainder.length := by
  simp only [moveTo, advance, List.length_drop]
  omega

/-- Moving to the end of an unread text that begins with `lexeme` leaves what
follows it. -/
theorem moveTo_of_append {c : Cursor} {lexeme remainder : List Char}
    (split : c.rest = lexeme ++ remainder) :
    c.moveTo remainder =
      { c with rest := remainder, line := c.line + lexeme.count '\n' } := by
  have count : c.rest.length - remainder.length = lexeme.length := by
    rw [split, List.length_append, Nat.add_sub_cancel]
  rw [moveTo, count]
  simp [advance, split]

end Cursor

end GridScript
