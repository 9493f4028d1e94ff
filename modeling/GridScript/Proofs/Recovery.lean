import GridScript.Proofs.Locality

/-!
# Where reading resumes

Behind the value of an argument reading goes on at a comma or a parenthesis;
anything else is passed over.  `resumes` asks whether the text of a value,
read as some type, is left exactly at its end.  The answer is found in front of
one particular delimiter, and it holds in front of every delimiter.
-/

namespace GridScript

namespace Parser

/-- Moves on to what may follow an argument. -/
def recover (c : Cursor) : Cursor :=
  let here := c.skipBlanks
  match here.rest with
  | [] => here
  | next :: _ =>
    if next = ',' ∨ next = ')' then here
    else skipArgument (here.error (.unexpectedAfterValue next))

/-- The cursor where reading goes on once a value was read. -/
def resume (objects : ObjectTable) (type : ValueType) (c : Cursor) : Cursor :=
  recover (c.readValue objects type).2

/-- Whether the text of the value, read as the type, is left at its end. -/
def resumes (type : ValueType) (value : Value) : Bool :=
  (resume .empty type { rest := value.encodeChars ++ [',', ')'] }).rest ==
    [',', ')']

theorem rest_skipComma_comma {c : Cursor} {tail : List Char}
    (unread : c.rest = ',' :: tail) : (skipComma c).rest = tail := by
  simp [skipComma, Cursor.peek?, unread]

theorem rest_skipComma_nil {c : Cursor} (unread : c.rest = []) :
    (skipComma c).rest = [] := by
  simp [skipComma, Cursor.peek?, unread]

theorem rest_skipComma_close {c : Cursor} {tail : List Char}
    (unread : c.rest = ')' :: tail) : (skipComma c).rest = ')' :: tail := by
  simp [skipComma, Cursor.peek?, unread]

theorem finishArgument_eq (c : Cursor) :
    finishArgument c = (skipComma (recover c)).leaveArgument := by
  unfold finishArgument recover
  generalize c.skipBlanks = here
  cases unread : here.rest with
  | nil => simp [skipComma, Cursor.peek?, unread]
  | cons next tail =>
      by_cases comma : next = ','
      · simp [skipComma, Cursor.peek?, unread, comma]
      · by_cases close : next = ')'
        · simp [skipComma, Cursor.peek?, unread, close]
        · simp [unread, comma, close]

theorem reaches_recover (c : Cursor) : c.Reaches (recover c) := by
  refine c.reaches_skipBlanks.trans ?_
  unfold recover
  dsimp only
  split
  · exact .refl _
  · split
    · exact .refl _
    · exact (Cursor.reaches_error _ _).trans (reaches_skipArgument _)

theorem reaches_resume (objects : ObjectTable) (type : ValueType)
    (c : Cursor) : c.Reaches (resume objects type c) :=
  (c.reaches_readValue objects type).trans (reaches_recover _)

theorem rest_skipArgument (c : Cursor) :
    (skipArgument c).rest = Skip.argument c.rest :=
  c.rest_moveTo (value_suffix 0 false c.rest)

/-- Reading resumes at the end of the text or at a delimiter. -/
theorem recover_stops (c : Cursor) :
    (recover c).rest = [] ∨ Delimited (recover c).rest := by
  unfold recover
  dsimp only
  split
  · rename_i done
    exact .inl done
  · rename_i next tail unread
    split
    · rename_i isMark
      exact .inr ⟨next, tail, unread, isMark⟩
    · rw [rest_skipArgument]
      exact value_stops 0 false _

theorem resume_stops (objects : ObjectTable) (type : ValueType) (c : Cursor) :
    (resume objects type c).rest = [] ∨
      Delimited (resume objects type c).rest :=
  recover_stops _

theorem lockstep_recover {behind far : List Char}
    (delimited : Delimited far) :
    Cursor.Lockstep behind far recover recover := by
  intro left right abreast
  obtain ⟨text, unread, unread'⟩ := abreast.skipBlanks delimited
  unfold recover
  dsimp only
  cases text with
  | nil =>
      obtain ⟨mark, tail, rfl, isMark⟩ := delimited
      simp only [unread, unread', List.nil_append, isMark, true_or, if_true]
      exact .inl ⟨[], unread, unread'⟩
  | cons next text =>
      simp only [unread, unread', List.cons_append]
      split
      · exact .inl ⟨next :: text, unread, unread'⟩
      · unfold Cursor.Abreast
        rw [rest_skipArgument, rest_skipArgument]
        change (∃ text, Skip.argument left.skipBlanks.rest = _ ∧
          Skip.argument right.skipBlanks.rest = _) ∨
            (Skip.argument left.skipBlanks.rest).length ≤ _
        rw [unread, unread']
        rcases value_leavesAbreast delimited 0 false (next :: text)
          with still | passed
        · exact .inl still
        · exact .inr (Nat.le_of_lt_succ passed)

theorem lockstep_resume {behind far : List Char}
    (objects objects' : ObjectTable) (type : ValueType)
    (delimited : Delimited far) :
    Cursor.Lockstep behind far (resume objects type)
      (resume objects' type) := by
  intro left right abreast
  rcases Cursor.lockstep_readValue objects objects' type delimited left right
    abreast with still | passed
  · exact lockstep_recover delimited _ _ still
  · exact .inr (Nat.le_trans (reaches_recover _).length_le passed)

/-- Where the text of a value resumes, it does so in front of every
delimiter. -/
theorem resume_of_resumes {type : ValueType} {value : Value}
    (resumed : resumes type value = true) (objects : ObjectTable) {c : Cursor}
    {rest : List Char} (delimited : Delimited rest)
    (unread : c.rest = value.encodeChars ++ rest) :
    (resume objects type c).rest = rest := by
  rcases lockstep_resume .empty objects type delimited
    { rest := value.encodeChars ++ [',', ')'] } c
    ⟨value.encodeChars, rfl, unread⟩ with ⟨text, left, right⟩ | passed
  · have none : text = [] := by
      rw [beq_iff_eq.mp resumed] at left
      exact List.append_left_eq_self.mp left.symm
    rw [right, none, List.nil_append]
  · rw [beq_iff_eq.mp resumed] at passed
    exact absurd passed (by decide)

/-- Where it does not, something of the text is left in front of a comma, or
the comma is passed. -/
theorem resume_of_not_resumes {type : ValueType} {value : Value}
    (unresumed : resumes type value = false) (objects : ObjectTable)
    {c : Cursor} {behind : List Char}
    (unread : c.rest = value.encodeChars ++ ',' :: behind) :
    (∃ head tail, (resume objects type c).rest =
        head :: tail ++ ',' :: behind) ∨
      (resume objects type c).rest.length ≤ behind.length := by
  rcases lockstep_resume objects .empty type (delimited_comma [')']) c
    { rest := value.encodeChars ++ [',', ')'] }
    ⟨value.encodeChars, unread, rfl⟩ with ⟨text, left, right⟩ | passed
  · cases text with
    | nil =>
        have resumed : resumes type value = true := beq_iff_eq.mpr right
        rw [unresumed] at resumed
        cases resumed
    | cons head tail => exact .inl ⟨head, tail, left⟩
  · exact .inr passed

end Parser

end GridScript
