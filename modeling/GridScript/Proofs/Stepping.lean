import GridScript.Script.Parser

/-!
# Loops step by step

Items and arguments are read until a step says that the list ends.  What every
step keeps, the loop keeps.
-/

namespace GridScript

namespace Cursor

theorem listStep_of_cons {α : Type} (item : Cursor → Option α × Cursor)
    {c : Cursor} {next : Char} {tail : List Char}
    (unread : c.skipBlanks.rest = next :: tail) :
    listStep item c =
      if next = ']' then .finished c.skipBlanks.next
      else if next = ',' then .continued none c.skipBlanks.next
      else if next = ')' ∨ next = ';' then
        .finished (c.skipBlanks.errorAt c.line .missingArrayEnd)
      else
        .continued (item c.skipBlanks).1
          (c.skipBlanks.progress (item c.skipBlanks).2) := by
  simp only [listStep, unread]

theorem readItems_of_finished {α : Type} {item : Cursor → Option α × Cursor}
    {c after : Cursor} (step : listStep item c = .finished after) :
    readItems item c = ([], after) := by
  rw [readItems]
  split
  · rename_i found
    rw [step] at found
    cases found
    rfl
  · rename_i found
    rw [step] at found
    cases found

theorem readItems_of_continued {α : Type} {item : Cursor → Option α × Cursor}
    {c after : Cursor} {value : Option α}
    (step : listStep item c = .continued value after) :
    readItems item c =
      (value.toList ++ (readItems item after).1, (readItems item after).2) := by
  rw [readItems]
  split
  · rename_i found
    rw [step] at found
    cases found
  · rename_i found
    rw [step] at found
    cases found
    rfl

end Cursor

namespace Parser

theorem readArguments_of_finished {dialect : Dialect} {objects : ObjectTable}
    {start : Nat} {state : ArgumentList} {after : Cursor}
    (step : argumentStep dialect objects start state = .finished after) :
    readArguments dialect objects start state = (state.invocation, after) := by
  rw [readArguments]
  split
  · rename_i found
    rw [step] at found
    cases found
    rfl
  · rename_i found
    rw [step] at found
    cases found

theorem readArguments_of_continued {dialect : Dialect} {objects : ObjectTable}
    {start : Nat} {state next : ArgumentList}
    (step : argumentStep dialect objects start state = .continued next) :
    readArguments dialect objects start state =
      readArguments dialect objects start next := by
  rw [readArguments]
  split
  · rename_i found
    rw [step] at found
    cases found
  · rename_i found
    rw [step] at found
    cases found
    rfl

/-- Reading changes an invocation by setting one field, which scripts may set,
to a value that is read for it further on in the text. -/
def Sets (objects : ObjectTable) (c : Cursor) (before after : Invocation) :
    Prop :=
  ∃ field ∈ before.fields, field.scriptable = true ∧
    ∃ start value, c.Reaches start ∧
      (start.readValue objects field.type).1 = some value ∧
      after = before.set field.name value

theorem readField_invocation {objects : ObjectTable} {field : Field}
    {start c : Cursor} {state : ArgumentList}
    (member : field ∈ state.invocation.fields)
    (scriptable : field.scriptable = true) (reached : start.Reaches c) :
    (readField objects field c state).invocation = state.invocation ∨
      Sets objects start state.invocation
        (readField objects field c state).invocation := by
  cases read : (c.readValue objects field.type).1 with
  | none => exact .inl (by simp [readField, read])
  | some value =>
      exact .inr ⟨field, member, scriptable, c, value, reached, read,
        by simp [readField, read]⟩

theorem readNamed_invocation (dialect : Dialect) (objects : ObjectTable)
    (found : ArgumentName) (c : Cursor) (state : ArgumentList) :
    (readNamed dialect objects found c state).invocation = state.invocation ∨
      Sets objects c state.invocation
        (readNamed dialect objects found c state).invocation := by
  have named := (c.reaches_inArgument found.name).trans
    (reaches_checkSeparator dialect found.equals _)
  unfold readNamed
  dsimp only
  split
  · exact .inl rfl
  · rename_i field isFound
    have member := List.mem_of_find?_eq_some isFound
    split
    · rename_i scriptable
      split
      · exact readField_invocation member scriptable
          (named.trans (Cursor.reaches_warn _ _))
      · exact readField_invocation member scriptable named
    · exact .inl rfl

theorem readPositional_invocation (dialect : Dialect) (objects : ObjectTable)
    (c : Cursor) (state : ArgumentList) :
    (readPositional dialect objects c state).invocation = state.invocation ∨
      Sets objects c state.invocation
        (readPositional dialect objects c state).invocation := by
  unfold readPositional
  split
  · split
    · rename_i field isFound
      have inRest := List.mem_of_find?_eq_some isFound
      have inFields := List.mem_filter.mp (List.mem_of_mem_drop inRest)
      exact readField_invocation inFields.1 inFields.2
        (c.reaches_inArgument field.name)
    · exact .inl rfl
  · exact .inl rfl

/-- What a step along an argument list can do to the invocation. -/
theorem argumentStep_invocation {dialect : Dialect} {objects : ObjectTable}
    {start : Nat} {state next : ArgumentList}
    (step : argumentStep dialect objects start state = .continued next) :
    next.invocation = state.invocation ∨
      Sets objects state.cursor state.invocation next.invocation := by
  have blanks := state.cursor.reaches_skipBlanks
  have onwards : ∀ {after : Invocation},
      Sets objects state.cursor.skipBlanks state.invocation after →
        Sets objects state.cursor state.invocation after := by
    rintro after ⟨field, member, scriptable, c, value, reached, rest⟩
    exact ⟨field, member, scriptable, c, value, blanks.trans reached, rest⟩
  unfold argumentStep at step
  dsimp only at step
  split at step
  · cases step
  · split at step
    · cases step
    · split at step
      · cases step
        exact .inl rfl
      · cases step
        dsimp only
        unfold readArgument
        split
        · rename_i found after _
          rcases readNamed_invocation dialect objects found
            (state.cursor.skipBlanks.moveTo after) state with same | sets
          · exact .inl same
          · obtain ⟨field, member, scriptable, c, value, reached, rest⟩ := sets
            exact .inr (onwards ⟨field, member, scriptable, c, value,
              (Cursor.reaches_moveTo _ _).trans reached, rest⟩)
        · exact (readPositional_invocation dialect objects
            state.cursor.skipBlanks state).imp_right onwards

/-- What holds of an invocation and is kept by every value that is read from
the text holds at the end of the argument list. -/
theorem readArguments_keeps {dialect : Dialect} {objects : ObjectTable}
    {start : Nat} {Holds : Invocation → Prop} (state : ArgumentList)
    (kept : ∀ c before after, state.cursor.Reaches c → Holds before →
      Sets objects c before after → Holds after)
    (holds : Holds state.invocation) :
    Holds (readArguments dialect objects start state).1 := by
  cases step : argumentStep dialect objects start state with
  | finished after =>
      rw [readArguments_of_finished step]
      exact holds
  | continued next =>
      have less := argumentStep_length_lt step
      have forward := reaches_argumentStep dialect objects start state
      rw [step] at forward
      rw [readArguments_of_continued step]
      refine readArguments_keeps next ?_ ?_
      · intro c before after reached
        exact kept c before after (forward.trans reached)
      · rcases argumentStep_invocation step with same | sets
        · rw [same]
          exact holds
        · exact kept state.cursor _ _ (.refl _) holds sets
termination_by state.cursor.rest.length

/-- Reading an argument list comes from the one state to the other. -/
inductive ComesTo (dialect : Dialect) (objects : ObjectTable) :
    ArgumentList → ArgumentList → Prop where
  | here (state : ArgumentList) : ComesTo dialect objects state state
  | step {start : Nat} {state next last : ArgumentList}
      (stepped : argumentStep dialect objects start state = .continued next)
      (later : ComesTo dialect objects next last) :
      ComesTo dialect objects state last

theorem ComesTo.trans {dialect : Dialect} {objects : ObjectTable}
    {first second third : ArgumentList}
    (left : ComesTo dialect objects first second)
    (right : ComesTo dialect objects second third) :
    ComesTo dialect objects first third := by
  induction left with
  | here => exact right
  | step stepped _ induction => exact .step stepped (induction right)

/-- Where the list was opened matters only for what is said at its end. -/
theorem argumentStep_start {dialect : Dialect} {objects : ObjectTable}
    {start : Nat} {state next : ArgumentList}
    (step : argumentStep dialect objects start state = .continued next)
    (other : Nat) :
    argumentStep dialect objects other state = .continued next := by
  unfold argumentStep at step ⊢
  dsimp only at step ⊢
  split at step
  · cases step
  · exact step

theorem ComesTo.readArguments_eq {dialect : Dialect} {objects : ObjectTable}
    {state last : ArgumentList} (comes : ComesTo dialect objects state last)
    (start : Nat) :
    readArguments dialect objects start state =
      readArguments dialect objects start last := by
  induction comes with
  | here => rfl
  | step stepped _ induction =>
      rw [readArguments_of_continued (argumentStep_start stepped start)]
      exact induction

/-- What every value that is read keeps still holds further on. -/
theorem ComesTo.keeps {dialect : Dialect} {objects : ObjectTable}
    (Holds : Invocation → Prop)
    (kept : ∀ c before after, Holds before → Sets objects c before after →
      Holds after)
    {state last : ArgumentList} (comes : ComesTo dialect objects state last)
    (holds : Holds state.invocation) : Holds last.invocation := by
  induction comes with
  | here => exact holds
  | step stepped _ induction =>
      apply induction
      rcases argumentStep_invocation stepped with same | sets
      · rw [same]
        exact holds
      · exact kept _ _ _ holds sets

theorem ComesTo.reaches {dialect : Dialect} {objects : ObjectTable}
    {state last : ArgumentList} (comes : ComesTo dialect objects state last) :
    state.cursor.Reaches last.cursor := by
  induction comes with
  | here state => exact .refl _
  | @step start state next last stepped _ induction =>
      have first := reaches_argumentStep dialect objects start state
      rw [stepped] at first
      exact first.trans induction

/-- A script gets shorter with every statement. -/
theorem script_length_lt (registry : Registry) (dialect : Dialect)
    (objects : ObjectTable) {c : Cursor}
    (unread : (skipSeparators dialect c).rest ≠ []) :
    (readStatement registry dialect objects
      (skipSeparators dialect c)).2.rest.length < c.rest.length := by
  obtain ⟨head, tail, found⟩ := List.exists_cons_of_ne_nil unread
  have begins := separators_eq_cons
    ((rest_skipSeparators dialect c).symm.trans found)
  have less := readStatement_length_lt registry dialect objects found
    begins.2 begins.1
  have shorter := (c.reaches_moveTo
    (Skip.separators dialect.comment c.rest)).length_le
  exact Nat.lt_of_lt_of_le less shorter

end Parser

end GridScript
