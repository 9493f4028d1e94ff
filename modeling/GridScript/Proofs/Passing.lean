import GridScript.Proofs.Characters

/-!
# Passing over a lexeme

`Cursor.behind` is the cursor behind a lexeme at the front of the unread text.
`Cursor.Crosses` also says which errors are reported on the way, and when there
are no warnings; it composes along consecutive lexemes.  `Cursor.Passes` is the
case without errors.
-/

namespace GridScript

/-- The problems of the errors among diagnostics. -/
def errorsOf (diagnostics : List Diagnostic) : List Problem :=
  (diagnostics.filter Diagnostic.isError).map Diagnostic.problem

theorem errorsOf_append (left right : List Diagnostic) :
    errorsOf (left ++ right) = errorsOf left ++ errorsOf right := by
  rw [errorsOf, List.filter_append, List.map_append]
  rfl

namespace Cursor

theorem rest_ofText (text : String) : (ofText text).rest = text.toList := rfl

/-- The cursor behind `lexeme`, with `rest` left to read. -/
def behind (c : Cursor) (lexeme rest : List Char) : Cursor :=
  { c with rest, line := c.line + lexeme.count '\n' }

@[simp] theorem rest_behind (c : Cursor) (lexeme rest : List Char) :
    (c.behind lexeme rest).rest = rest := rfl

@[simp] theorem line_behind (c : Cursor) (lexeme rest : List Char) :
    (c.behind lexeme rest).line = c.line + lexeme.count '\n' := rfl

theorem behind_nil {c : Cursor} {rest : List Char} (unread : c.rest = rest) :
    c.behind [] rest = c := by
  subst unread
  rfl

theorem behind_behind (c : Cursor) (first second middle rest : List Char) :
    (c.behind first middle).behind second rest =
      c.behind (first ++ second) rest := by
  simp [behind, List.count_append, Nat.add_assoc]

theorem advance_eq_behind {c : Cursor} {lexeme rest : List Char}
    (unread : c.rest = lexeme ++ rest) :
    c.advance lexeme.length = c.behind lexeme rest := by
  simp [advance, behind, unread]

theorem moveTo_eq_behind {c : Cursor} {lexeme rest : List Char}
    (unread : c.rest = lexeme ++ rest) :
    c.moveTo rest = c.behind lexeme rest :=
  moveTo_of_append unread

theorem moveTo_eq_self {c : Cursor} {rest : List Char}
    (unread : c.rest = rest) : c.moveTo rest = c := by
  have split : c.rest = [] ++ rest := unread
  rw [moveTo_eq_behind split, behind_nil unread]

theorem next_eq_behind {c : Cursor} {head : Char} {rest : List Char}
    (unread : c.rest = head :: rest) : c.next = c.behind [head] rest := by
  have split : c.rest = [head] ++ rest := unread
  exact advance_eq_behind split

/-- Along a text that is passed, lines are counted. -/
theorem Reaches.line_eq {before after : Cursor} {lexeme : List Char}
    (reached : before.Reaches after)
    (passed : before.rest = lexeme ++ after.rest) :
    after.line = before.line + lexeme.count '\n' := by
  obtain ⟨⟨count, rest, line⟩, _⟩ := reached
  have lengths : after.rest.length = before.rest.length - count := by
    rw [rest, List.length_drop]
  have total := congrArg List.length passed
  rw [List.length_append] at total
  have taken : before.rest.take count = lexeme := by
    rcases Nat.lt_or_ge count before.rest.length with inside | all
    · have same : count = lexeme.length := by omega
      rw [same, passed, List.take_left]
    · have none : after.rest = [] := by
        rw [← List.length_eq_zero_iff]
        omega
      rw [List.take_of_length_le all, passed, none, List.append_nil]
  rw [line, taken]

/-- There is nothing to skip in front of a visible character. -/
theorem skipBlanks_eq_self {c : Cursor} {head : Char} {rest : List Char}
    (unread : c.rest = head :: rest) (visible : isBlank head = false) :
    c.skipBlanks = c := by
  simp [skipBlanks, skipWhile, unread, visible, advance]
  rw [← unread]

/-- White space is skipped up to the next visible character. -/
theorem skipBlanks_space {c : Cursor} {space : List Char} {head : Char}
    {rest : List Char} (isSpace : IsSpace space)
    (unread : c.rest = space ++ head :: rest) (visible : isBlank head = false) :
    c.skipBlanks = c.behind space (head :: rest) := by
  have taken : (space ++ head :: rest).takeWhile isBlank = space := by
    refine (takeWhile_token isSpace ?_).1
    intro c found
    cases found
    exact visible
  rw [skipBlanks, skipWhile, unread, taken, advance_eq_behind unread]

theorem skipBlanks_blanks {c : Cursor} {blanks : List Char} {head : Char}
    {rest : List Char} (areBlanks : IsBlanks blanks)
    (unread : c.rest = blanks ++ head :: rest)
    (visible : isBlank head = false) :
    c.skipBlanks = c.behind blanks (head :: rest) :=
  skipBlanks_space areBlanks.isSpace unread visible

/-- Behind the blanks stands a visible character. -/
theorem visible_of_skipBlanks {c : Cursor} {next : Char} {tail : List Char}
    (unread : c.skipBlanks.rest = next :: tail) : isBlank next = false := by
  rw [rest_skipBlanks] at unread
  have first := List.head?_dropWhile_not isBlank c.rest
  rw [unread] at first
  simpa using first

theorem skipBlanks_eq_behind (c : Cursor) :
    c.rest = c.rest.takeWhile isBlank ++ c.skipBlanks.rest ∧
      c.skipBlanks = c.behind (c.rest.takeWhile isBlank) c.skipBlanks.rest := by
  have split : c.rest = c.rest.takeWhile isBlank ++ c.skipBlanks.rest := by
    rw [rest_skipBlanks, List.takeWhile_append_dropWhile]
  exact ⟨split, advance_eq_behind split⟩

theorem skipBlanks_skipBlanks (c : Cursor) :
    c.skipBlanks.skipBlanks = c.skipBlanks := by
  obtain ⟨split, here⟩ := c.skipBlanks.skipBlanks_eq_behind
  have none : c.skipBlanks.rest.takeWhile isBlank = [] := by
    cases unread : c.skipBlanks.rest with
    | nil => rfl
    | cons head tail => simp [visible_of_skipBlanks unread]
  rw [none] at split here
  exact here.trans (behind_nil split)

/-- `after` stands behind `lexeme`.  Just these errors were reported on the way;
there may have been warnings too, none if the passage is quiet. -/
structure Crosses (before : Cursor) (lexeme : List Char)
    (errors : List Problem) (quiet : Prop) (after : Cursor) : Prop where
  rest : before.rest = lexeme ++ after.rest
  line : after.line = before.line + lexeme.count '\n'
  command : after.command = before.command
  argument : after.argument = before.argument
  reported : ∃ added, after.diagnostics = before.diagnostics ++ added ∧
    errorsOf added = errors ∧ (quiet → ∀ d ∈ added, d.isError = true)

/-- `after` stands behind `lexeme`.  Warnings may have been added on the way,
none if the passage is quiet. -/
abbrev Passes (before : Cursor) (lexeme : List Char) (quiet : Prop)
    (after : Cursor) : Prop :=
  before.Crosses lexeme [] quiet after

theorem passes_behind {c : Cursor} {lexeme rest : List Char}
    (unread : c.rest = lexeme ++ rest) (quiet : Prop) :
    c.Passes lexeme quiet (c.behind lexeme rest) :=
  ⟨unread, rfl, rfl, rfl, [], by simp [behind], rfl, by simp⟩

theorem Crosses.trans {first second third : Cursor}
    {left right : List Char} {errors others : List Problem} {quiet : Prop}
    (leftCrosses : first.Crosses left errors quiet second)
    (rightCrosses : second.Crosses right others quiet third) :
    first.Crosses (left ++ right) (errors ++ others) quiet third := by
  obtain ⟨leftRest, leftLine, leftCommand, leftArgument,
    leftAdded, leftEnds, leftErrors, leftQuiet⟩ := leftCrosses
  obtain ⟨rightRest, rightLine, rightCommand, rightArgument,
    rightAdded, rightEnds, rightErrors, rightQuiet⟩ := rightCrosses
  refine ⟨?_, ?_, rightCommand.trans leftCommand,
    rightArgument.trans leftArgument, leftAdded ++ rightAdded, ?_, ?_, ?_⟩
  · rw [leftRest, rightRest, List.append_assoc]
  · rw [rightLine, leftLine, List.count_append, Nat.add_assoc]
  · rw [rightEnds, leftEnds, List.append_assoc]
  · rw [errorsOf_append, leftErrors, rightErrors]
  · intro quiet d member
    rcases List.mem_append.mp member with inLeft | inRight
    · exact leftQuiet quiet d inLeft
    · exact rightQuiet quiet d inRight

theorem Crosses.errorsOf_eq {before after : Cursor} {lexeme : List Char}
    {errors : List Problem} {quiet : Prop}
    (crosses : before.Crosses lexeme errors quiet after) :
    errorsOf after.diagnostics = errorsOf before.diagnostics ++ errors := by
  obtain ⟨added, ends, same, _⟩ := crosses.reported
  rw [ends, errorsOf_append, same]

theorem Crosses.mono {before after : Cursor} {lexeme : List Char}
    {errors : List Problem} {quiet quieter : Prop}
    (crosses : before.Crosses lexeme errors quiet after)
    (implied : quieter → quiet) :
    before.Crosses lexeme errors quieter after := by
  obtain ⟨rest, line, command, argument, added, ends, same, none⟩ := crosses
  exact ⟨rest, line, command, argument, added, ends, same,
    fun quieter => none (implied quieter)⟩

/-- A warning keeps a passage that is not quiet as it is. -/
theorem Crosses.warn {before c : Cursor} {lexeme : List Char}
    {errors : List Problem} {quiet : Prop}
    (crosses : before.Crosses lexeme errors quiet c) (problem : Problem)
    (loud : ¬quiet) : before.Crosses lexeme errors quiet (c.warn problem) := by
  obtain ⟨rest, line, command, argument, added, ends, same, _⟩ := crosses
  let warning : Diagnostic :=
    ⟨.warning, c.line, problem, c.command, c.argument⟩
  refine ⟨rest, line, command, argument, added ++ [warning], ?_, ?_, ?_⟩
  · change c.diagnostics ++ [warning] = _
    rw [ends, List.append_assoc]
  · rw [errorsOf_append, same]
    exact List.append_nil _
  · intro quiet
    exact absurd quiet loud

/-- An error is reported behind those before it. -/
theorem Crosses.error {before c : Cursor} {lexeme : List Char}
    {errors : List Problem} {quiet : Prop}
    (crosses : before.Crosses lexeme errors quiet c) (problem : Problem) :
    before.Crosses lexeme (errors ++ [problem]) quiet (c.error problem) := by
  obtain ⟨rest, line, command, argument, added, ends, same, none⟩ := crosses
  let error : Diagnostic := ⟨.error, c.line, problem, c.command, c.argument⟩
  refine ⟨rest, line, command, argument, added ++ [error], ?_, ?_, ?_⟩
  · change c.diagnostics ++ [error] = _
    rw [ends, List.append_assoc]
  · rw [errorsOf_append, same]
    rfl
  · intro quiet d member
    rcases List.mem_append.mp member with earlier | last
    · exact none quiet d earlier
    · rw [List.mem_singleton.mp last]
      rfl

/-- A quiet passage leads to exactly one cursor. -/
theorem Passes.eq_behind {before after : Cursor} {lexeme : List Char}
    {quiet : Prop} (passes : before.Passes lexeme quiet after)
    (isQuiet : quiet) : after = before.behind lexeme after.rest := by
  obtain ⟨_, line, command, argument, added, ends, same, none⟩ := passes
  have empty : added = [] := by
    rw [errorsOf, List.map_eq_nil_iff,
      List.filter_eq_self.mpr (none isQuiet)] at same
    exact same
  obtain ⟨rest', line', command', argument', diagnostics'⟩ := after
  rw [empty, List.append_nil] at ends
  dsimp only at line command argument ends
  rw [line, command, argument, ends]
  rfl

end Cursor

end GridScript
