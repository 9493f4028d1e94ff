import GridScript.Proofs.Characters
import GridScript.Proofs.Passing
import GridScript.Proofs.Shifting

/-!
# Statements one after another

A script is read statement by statement, and what is left between two
statements is read like a script of its own.
-/

namespace GridScript

namespace Parser

theorem readScript_done (registry : Registry) (dialect : Dialect)
    (objects : ObjectTable) {c : Cursor}
    (done : (skipSeparators dialect c).rest = []) :
    readScript registry dialect objects c =
      ([], skipSeparators dialect c) := by
  rw [readScript]
  simp only [done, dite_true]

/-- Behind the separators stands a statement, and then the rest of the
script. -/
theorem readScript_step (registry : Registry) (dialect : Dialect)
    (objects : ObjectTable) {c : Cursor}
    (unread : (skipSeparators dialect c).rest ≠ []) :
    readScript registry dialect objects c =
      let statement := readStatement registry dialect objects
        (skipSeparators dialect c)
      let others := readScript registry dialect objects statement.2
      (statement.1.toList ++ others.1, others.2) := by
  rw [readScript]
  simp only [unread, dite_false]

theorem readScript_end (registry : Registry) (dialect : Dialect)
    (objects : ObjectTable) {c : Cursor} (done : c.rest = []) :
    readScript registry dialect objects c = ([], c) := by
  have separators : Skip.separators dialect.comment [] = [] := by
    unfold Skip.separators
    rfl
  have here : skipSeparators dialect c = c := by
    rw [skipSeparators, done, separators, Cursor.moveTo_eq_self done]
  rw [readScript]
  simp [here, done]

/-- There is nothing to skip in front of a character that separates nothing. -/
theorem skipSeparators_eq_self {dialect : Dialect} {c : Cursor} {head : Char}
    {tail : List Char} (unread : c.rest = head :: tail)
    (visible : isBlank head = false) (opens : head ≠ ';')
    (noComment : head ≠ dialect.comment) : skipSeparators dialect c = c := by
  have separators : Skip.separators dialect.comment c.rest = head :: tail := by
    unfold Skip.separators
    simp [unread, visible, opens, noComment]
  rw [skipSeparators, separators, Cursor.moveTo_eq_self unread]

/-- A script that begins with a word begins with a statement, where comments
begin with no word. -/
theorem readScript_word (registry : Registry) {dialect : Dialect}
    (plain : isWord dialect.comment = false) (objects : ObjectTable)
    {c : Cursor} {head : Char} {tail : List Char}
    (unread : c.rest = head :: tail) (starts : isWordStart head = true) :
    readScript registry dialect objects c =
      let statement := readStatement registry dialect objects c
      let others := readScript registry dialect objects statement.2
      (statement.1.toList ++ others.1, others.2) := by
  have word := isWord_of_isWordStart starts
  have here : skipSeparators dialect c = c :=
    skipSeparators_eq_self unread (isBlank_eq_false_of_isWord word)
      (ne_of_isWord word (by decide)) (ne_of_isWord word plain)
  rw [readScript]
  simp [here, unread]

theorem readScript_statement (registry : Registry) (objects : ObjectTable)
    {c : Cursor} {head : Char} {tail : List Char}
    (unread : c.rest = head :: tail) (starts : isWordStart head = true) :
    readScript registry {} objects c =
      let statement := readStatement registry {} objects c
      let others := readScript registry {} objects statement.2
      (statement.1.toList ++ others.1, others.2) :=
  readScript_word registry (by decide) objects unread starts

/-- Separators at the front make no difference but for the lines that they
take. -/
theorem readScript_separators (registry : Registry) (dialect : Dialect)
    (objects : ObjectTable) {c : Cursor} {passed rest : List Char}
    (unread : c.rest = passed ++ rest)
    (separate : Skip.separators dialect.comment (passed ++ rest) =
      Skip.separators dialect.comment rest) :
    readScript registry dialect objects c =
      readScript registry dialect objects (c.behind passed rest) := by
  obtain ⟨more, split⟩ := separators_suffix dialect.comment rest
  have whole : c.rest = (passed ++ more) ++
      Skip.separators dialect.comment rest := by
    rw [unread, List.append_assoc, split]
  have same : skipSeparators dialect c =
      skipSeparators dialect (c.behind passed rest) := by
    rw [skipSeparators, skipSeparators, unread, separate,
      Cursor.moveTo_eq_behind whole, Cursor.rest_behind,
      Cursor.moveTo_eq_behind split.symm, Cursor.behind_behind]
  unfold readScript
  rw [same]

theorem readScript_newline (registry : Registry) (dialect : Dialect)
    (objects : ObjectTable) {c : Cursor} {rest : List Char}
    (unread : c.rest = '\n' :: rest) :
    readScript registry dialect objects c =
      readScript registry dialect objects (c.behind ['\n'] rest) := by
  have blank : isBlank '\n' = true := by decide
  have separate : Skip.separators dialect.comment ('\n' :: rest) =
      Skip.separators dialect.comment rest := by
    rw [Skip.separators.eq_def]
    simp [blank]
  exact readScript_separators registry dialect objects unread separate

theorem afterNewline_append {line : List Char} (single : '\n' ∉ line)
    (rest : List Char) :
    Cursor.afterNewline (line ++ '\n' :: rest) = rest := by
  induction line with
  | nil => simp [Cursor.afterNewline]
  | cons head line induction =>
      rw [List.mem_cons, not_or] at single
      rw [List.cons_append, Cursor.afterNewline,
        if_neg (Ne.symm single.1), induction single.2]

/-- A comment line at the front is passed over. -/
theorem readScript_comment (registry : Registry) {dialect : Dialect}
    (visible : isBlank dialect.comment = false) (opens : dialect.comment ≠ ';')
    (objects : ObjectTable) {c : Cursor} {line rest : List Char}
    (single : '\n' ∉ line)
    (unread : c.rest = dialect.comment :: line ++ '\n' :: rest) :
    readScript registry dialect objects c =
      readScript registry dialect objects
        (c.behind (dialect.comment :: line ++ ['\n']) rest) := by
  have separate : Skip.separators dialect.comment
      ((dialect.comment :: line ++ ['\n']) ++ rest) =
        Skip.separators dialect.comment rest := by
    rw [List.append_assoc, List.cons_append, Skip.separators.eq_def]
    simp [visible, opens, afterNewline_append single]
  refine readScript_separators registry dialect objects ?_ separate
  simp [unread]

theorem statementFrom_line {line : List Char}
    (plain : ∀ c ∈ line, c ≠ ';' ∧ c ≠ '\n' ∧ c ≠ '"') (rest : List Char) :
    Skip.statementFrom false (line ++ '\n' :: rest) = rest := by
  induction line with
  | nil => simp [Skip.statementFrom]
  | cons head line induction =>
      obtain ⟨noSemicolon, noNewline, noQuote⟩ := plain head List.mem_cons_self
      have unquoted : (head == '"') = false := beq_eq_false_iff_ne.mpr noQuote
      have later := induction fun c member =>
        plain c (List.mem_cons_of_mem _ member)
      simp [Skip.statementFrom, noSemicolon, noNewline, unquoted, later]

/-- A line that begins with no word, no comment and no separator is passed over
with an error. -/
theorem readScript_stray (registry : Registry) {dialect : Dialect}
    (objects : ObjectTable) {c : Cursor} {head : Char} {line rest : List Char}
    (visible : isBlank head = false) (noComment : head ≠ dialect.comment)
    (noWord : isWordStart head = false) (noList : head ≠ '(')
    (plain : ∀ c ∈ head :: line, c ≠ ';' ∧ c ≠ '\n' ∧ c ≠ '"')
    (unread : c.rest = (head :: line ++ ['\n']) ++ rest) :
    readScript registry dialect objects c =
      readScript registry dialect objects
        ((c.error (.missingKeyword head)).behind (head :: line ++ ['\n'])
          rest) := by
  have first : c.rest = head :: (line ++ '\n' :: rest) := by simp [unread]
  have here : skipSeparators dialect c = c :=
    skipSeparators_eq_self first visible (plain head List.mem_cons_self).1
      noComment
  have inline : Skip.isInlineBlank head = false := by
    cases found : Skip.isInlineBlank head with
    | false => rfl
    | true =>
        rcases (by simpa [Skip.isInlineBlank] using found :
          head = ' ' ∨ head = '\t') with rfl | rfl
        · exact absurd visible (by decide)
        · exact absurd visible (by decide)
  have skipped : Skip.command (head :: (line ++ '\n' :: rest)) = rest := by
    unfold Skip.command
    rw [List.dropWhile_cons_of_neg (by simp [inline])]
    split
    · rename_i same
      injection same with isList _
      exact absurd isList noList
    · exact statementFrom_line plain rest
  have statement : readStatement registry dialect objects c =
      (none, (c.error (.missingKeyword head)).behind (head :: line ++ ['\n'])
        rest) := by
    have reported : (c.error (.missingKeyword head)).rest =
        (head :: line ++ ['\n']) ++ rest := unread
    have none : identifier? c.rest = none := by
      simp [first, identifier?, noWord]
    rw [readStatement, none, Cursor.peek?, first]
    simp only [List.head?_cons, Option.getD_some, skipCommand]
    rw [← Cursor.moveTo_eq_behind reported, reported]
    rw [show (head :: line ++ ['\n']) ++ rest = head :: (line ++ '\n' :: rest)
      by simp, skipped]
  rw [readScript]
  simp [here, first, statement]

/-- What is left of a script between two statements is read like a script of
its own, further down. -/
theorem readScript_idle (registry : Registry) (dialect : Dialect)
    (objects : ObjectTable) {c : Cursor} {lines : Nat} {text : String}
    (idle : c.command = none ∧ c.argument = none)
    (line : c.line = 1 + lines) (unread : c.rest = text.toList) :
    readScript registry dialect objects c =
      ((parseScript registry dialect objects text).invocations.map
          (Invocation.shift lines),
        (readScript registry dialect objects (.ofText text)).2.shift lines
          c.diagnostics) := by
  have shifted : c = Cursor.shift lines c.diagnostics (.ofText text) := by
    obtain ⟨rest, here, command, argument, diagnostics⟩ := c
    dsimp only at idle line unread
    simp [Cursor.shift, Cursor.ofText, idle, line, unread]
  exact (congrArg (readScript registry dialect objects) shifted).trans
    (readScript_shift lines c.diagnostics registry dialect objects
      (.ofText text))

theorem reaches_readStatement (registry : Registry) (dialect : Dialect)
    (objects : ObjectTable) (c : Cursor) :
    c.Reaches (readStatement registry dialect objects c).2 := by
  unfold readStatement
  split
  · exact (c.reaches_error _).trans (reaches_skipCommand _)
  · have begun := fun after keyword => (c.reaches_moveTo after).trans
      (Cursor.reaches_inCommand _ keyword)
    dsimp only
    split
    · exact (begun _ _).trans <| (Cursor.reaches_error _ _).trans <|
        (reaches_skipCommand _).trans (Cursor.reaches_leaveCommand _)
    · exact (begun _ _).trans <| (reaches_readInvocation _ _ _ _).trans
        (Cursor.reaches_leaveCommand _)

end Parser

end GridScript
