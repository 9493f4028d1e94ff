import GridScript.Engine.Recorder
import GridScript.Proofs.RoundTrip
import GridScript.Proofs.Vocabulary

/-!
# Reading a record

A record is a comment line and the text of one invocation on each line after
it.  Read as a script, it gives these invocations back in order, as far as their
objects are known.
-/

namespace GridScript

/-- What the dialect reports of the first line of a record. -/
def Dialect.openingErrors (dialect : Dialect) : List Problem :=
  if dialect.comment = '#' then [] else [.missingKeyword '#']

namespace Invocation

/-- The lines of a record. -/
def recordLines (invocations : List Invocation) : String :=
  String.join (invocations.map fun invocation => invocation.toScript ++ "\n")

/-- The invocations as they are read from a record, the first one from the
given line. -/
def replayed (objects : ObjectTable) : Nat → List Invocation → List Invocation
  | _, [] => []
  | line, invocation :: more =>
      (invocation.restated line).resolved objects ::
        replayed objects (line + invocation.toScript.toList.count '\n' + 1) more

theorem keyword_of_mem_replayed {objects : ObjectTable} {line : Nat}
    {invocations : List Invocation} {invocation : Invocation}
    (member : invocation ∈ replayed objects line invocations) :
    invocation.keyword = invocation.name := by
  induction invocations generalizing line with
  | nil => cases member
  | cons first more induction =>
      rcases List.mem_cons.mp member with rfl | later
      · rfl
      · exact induction later

/-- Script text can spell the invocation of a built-in command, with whatever
objects it was read. -/
def Recordable (invocation : Invocation) : Prop :=
  ∃ shape, invocation.IsBuiltin shape ∧
    ∀ slot ∈ invocation.arguments.slots, slot.value.Exact

theorem recordLines_nil : recordLines [] = "" := by
  simp [recordLines]

theorem recordLines_cons (invocation : Invocation) (more : List Invocation) :
    recordLines (invocation :: more) =
      invocation.toScript ++ "\n" ++ recordLines more := by
  simp [recordLines]

theorem recordLines_append (left right : List Invocation) :
    recordLines (left ++ right) = recordLines left ++ recordLines right := by
  simp [recordLines]

/-- The lines of a record are read as its invocations, one after another. -/
theorem readScript_recordLines {dialect : Dialect}
    (plain : isWord dialect.comment = false) (objects : ObjectTable)
    (invocations : List Invocation)
    (recordable : ∀ invocation ∈ invocations, invocation.Recordable)
    {c : Cursor} (idle : c.command = none ∧ c.argument = none)
    (unread : c.rest = (recordLines invocations).toList) :
    let read := Parser.readScript .builtin dialect objects c
    read.1 = replayed objects c.line invocations ∧
      errorsOf read.2.diagnostics = errorsOf c.diagnostics ++
        invocations.flatMap (readErrors dialect) := by
  induction invocations generalizing c with
  | nil =>
      rw [recordLines_nil] at unread
      rw [Parser.readScript_end _ _ _ unread, replayed, List.flatMap_nil,
        List.append_nil]
      exact ⟨rfl, rfl⟩
  | cons invocation more induction =>
      obtain ⟨shape, builtin, exact⟩ :=
        recordable invocation List.mem_cons_self
      have named := Builtin.wellNamed builtin.command
      have wellFormed := builtin.wellFormed exact
      rw [recordLines_cons, String.toList_append, String.toList_append,
        List.append_assoc] at unread
      obtain ⟨head, tail, first, starts⟩ := exists_cons_toScript named
        ('\n' :: (recordLines more).toList)
      obtain ⟨read, crosses⟩ := readStatement_heard
        (Registry.get?_builtin builtin.command) named wellFormed.spelled
        dialect objects idle unread
      have newline : (Parser.readStatement .builtin dialect objects c).2.rest =
          '\n' :: (recordLines more).toList :=
        List.append_cancel_left (crosses.rest.symm.trans unread)
      rw [Parser.readScript_word _ plain _ (unread.trans first) starts]
      dsimp only
      have others := induction
        (fun other member => recordable other (List.mem_cons_of_mem _ member))
        (c := (Parser.readStatement .builtin dialect objects c).2.behind ['\n']
          (recordLines more).toList)
        ⟨crosses.command.trans idle.1, crosses.argument.trans idle.2⟩ rfl
      rw [Parser.readScript_newline _ _ _ newline]
      constructor
      · rw [others.1, read, wellFormed.heard_eq named, Cursor.line_behind,
          crosses.line]
        rfl
      · rw [others.2, List.flatMap_cons, ← List.append_assoc]
        exact congrArg (· ++ _) crosses.errorsOf_eq

/-- A whole record is read as its invocations, in every dialect whose comments
are told from words and separators. -/
theorem parseScript_record {dialect : Dialect}
    (noWord : isWord dialect.comment = false)
    (noBlank : isBlank dialect.comment = false)
    (noSeparator : dialect.comment ≠ ';') (objects : ObjectTable)
    {invocations : List Invocation}
    (recordable : ∀ invocation ∈ invocations, invocation.Recordable) :
    let parsed := parseScript .builtin dialect objects
      (RecordFormat.script.opening ++ recordLines invocations)
    parsed.invocations = replayed objects 2 invocations ∧
      errorsOf parsed.diagnostics = dialect.openingErrors ++
        invocations.flatMap (readErrors dialect) := by
  let c := Cursor.ofText (RecordFormat.script.opening ++
    recordLines invocations)
  let line := '#' :: " command log".toList ++ ['\n']
  have unread : c.rest = line ++ (recordLines invocations).toList := by
    dsimp only [c]
    rw [Cursor.ofText, String.toList_append]
    rfl
  rw [parseScript, Dialect.openingErrors]
  by_cases comments : dialect.comment = '#'
  · have passed : c.rest = dialect.comment :: " command log".toList ++
        '\n' :: (recordLines invocations).toList := by
      rw [unread, comments, List.append_assoc]
      rfl
    -- Only now is it known that the comment sign itself begins no new line.
    rw [Parser.readScript_comment _ noBlank noSeparator _ (by decide) passed,
      if_pos comments, comments]
    exact readScript_recordLines noWord objects invocations recordable
      (c := c.behind line (recordLines invocations).toList) ⟨rfl, rfl⟩ rfl
  · have plain : ∀ c ∈ '#' :: " command log".toList,
        c ≠ ';' ∧ c ≠ '\n' ∧ c ≠ '"' := by
      simp
    rw [Parser.readScript_stray _ _ (by decide) (Ne.symm comments) (by decide)
      (by decide) plain unread, if_neg comments]
    exact readScript_recordLines noWord objects invocations recordable
      (c := (c.error (.missingKeyword '#')).behind line
        (recordLines invocations).toList) ⟨rfl, rfl⟩ rfl

theorem invocations_parseScript_record (objects : ObjectTable)
    {invocations : List Invocation}
    (recordable : ∀ invocation ∈ invocations, invocation.Recordable) :
    (parseScript .builtin {} objects
      (RecordFormat.script.opening ++ recordLines invocations)).invocations =
        replayed objects 2 invocations :=
  (parseScript_record (by decide) (by decide) (by decide) objects recordable).1

end Invocation

end GridScript
