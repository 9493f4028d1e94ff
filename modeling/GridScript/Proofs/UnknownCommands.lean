import GridScript.Proofs.Places
import GridScript.Proofs.Silence

/-!
# Scripts with an unknown command

A command with an unknown keyword is reported and passed over.  In a script that
is otherwise read in silence this takes exactly the argument list of the
command, so that all the other commands are read as before.
-/

namespace GridScript

/-- The text with the word at a place replaced by another one. -/
def replaceWord (text : String) (place : Nat) (word : String) : String :=
  String.ofList (text.toList.take place ++
    (word.toList ++ (text.toList.drop place).dropWhile isWord))

/-- Nothing but spaces and tabs separates the word at the front of the text
from an opening parenthesis. -/
def OpensInline (text : List Char) : Prop :=
  ((text.dropWhile isWord).dropWhile Skip.isInlineBlank).head? = some '('

instance (text : List Char) : Decidable (OpensInline text) :=
  inferInstanceAs (Decidable (_ = _))

theorem Registry.mem_of_create? {registry : Registry} {keyword : String}
    {invocation : Invocation}
    (created : registry.create? keyword = some invocation) :
    invocation.command ∈ registry.commands := by
  obtain ⟨command, found, rfl⟩ := Option.map_eq_some_iff.mp created
  unfold get? at found
  cases named : registry.named? keyword with
  | some other =>
      rw [named] at found
      cases found
      exact List.mem_of_find?_eq_some named
  | none =>
      rw [named] at found
      obtain ⟨name, _, aliased⟩ := Option.bind_eq_some_iff.mp found
      exact List.mem_of_find?_eq_some aliased

namespace Parser

open Cursor

/-- An identifier reaches as far as there are word characters. -/
theorem identifier?_eq_some {text word after : List Char}
    (found : identifier? text = some (word, after)) :
    text = word ++ after ∧ after = text.dropWhile isWord ∧
      ∀ c ∈ word, isWord c = true := by
  unfold identifier? at found
  split at found
  · cases found
  · rename_i head tail
    split at found
    · rename_i starts
      cases found
      have first := isWord_of_isWordStart starts
      refine ⟨?_, ?_, ?_⟩
      · rw [List.cons_append, List.takeWhile_append_dropWhile]
      · rw [List.dropWhile_cons_of_pos first]
      · intro c member
        rcases List.mem_cons.mp member with rfl | later
        · exact first
        · exact List.all_eq_true.mp List.all_takeWhile c later
    · cases found

theorem count_newline_of_isWord {word : List Char}
    (letters : ∀ c ∈ word, isWord c = true) : word.count '\n' = 0 := by
  rw [List.count_eq_zero]
  intro member
  exact absurd (letters _ member) (by decide)

/-- White space that consists of spaces and tabs is passed by both ways of
reading a command. -/
theorem dropWhile_isBlank_of_inline {text rest : List Char}
    (opened : text.dropWhile Skip.isInlineBlank = '(' :: rest) :
    text.dropWhile isBlank = '(' :: rest := by
  have split := @List.takeWhile_append_dropWhile _ Skip.isInlineBlank text
  rw [opened] at split
  have blanks : ∀ c ∈ text.takeWhile Skip.isInlineBlank, isBlank c = true := by
    intro c member
    have inline := List.all_eq_true.mp List.all_takeWhile c member
    rcases (by simpa [Skip.isInlineBlank] using inline : c = ' ' ∨ c = '\t')
      with rfl | rfl <;> decide
  rw [← split, List.dropWhile_append_of_pos blanks,
    List.dropWhile_cons_of_neg (by decide)]

/-- A statement without anything to report is the keyword of a command and its
argument list. -/
theorem readStatement_of_silent {registry : Registry} {dialect : Dialect}
    {objects : ObjectTable} {c : Cursor}
    (silent : c.Silent (readStatement registry dialect objects c).2) :
    ∃ word after created,
      identifier? c.rest = some (word, after) ∧
      registry.create? (String.ofList word) = some created ∧
      let here := ((c.moveTo after).inCommand (String.ofList word)).skipBlanks
      let list := readArguments dialect objects here.line
        { cursor := here.next, invocation := { created with line := c.line } }
      here.peek? = some '(' ∧
        readStatement registry dialect objects c =
          (some list.1, list.2.leaveCommand) := by
  unfold readStatement at silent ⊢
  cases word : identifier? c.rest with
  | none =>
      rw [word] at silent
      exact absurd silent
        (not_silent_report (.refl c) (reaches_skipCommand _))
  | some found =>
      obtain ⟨letters, after⟩ := found
      have begun := (c.reaches_moveTo after).trans
        (reaches_inCommand _ (String.ofList letters))
      simp only [word] at silent ⊢
      cases known : registry.create? (String.ofList letters) with
      | none =>
          simp only [known] at silent
          exact absurd silent (not_silent_report begun
            ((reaches_skipCommand _).trans (reaches_leaveCommand _)))
      | some created =>
          simp only [known] at silent ⊢
          refine ⟨letters, after, created, rfl, known, ?_⟩
          unfold readInvocation at silent ⊢
          dsimp only at silent ⊢
          split at silent
          · rename_i opened
            rw [if_pos opened]
            exact ⟨opened, rfl⟩
          · exact absurd silent (not_silent_report
              (begun.trans (reaches_skipBlanks _))
              ((reaches_moveTo _ _).trans (reaches_leaveCommand _)))

/-- What follows the keyword of a statement that is read in silence is passed
over to the end of the statement. -/
theorem command_of_silent {registry : Registry} {dialect : Dialect}
    {objects : ObjectTable} {c : Cursor}
    (words : ∀ command ∈ registry.commands, ∀ field ∈ command.fields,
      field.type.hasWords = true)
    (silent : c.Silent (readStatement registry dialect objects c).2)
    (inline : OpensInline c.rest) :
    let ends := (readStatement registry dialect objects c).2
    Skip.command (c.rest.dropWhile isWord) = ends.rest ∧
      ∃ lexeme, c.rest.dropWhile isWord = lexeme ++ ends.rest ∧
        ends.line = c.line + lexeme.count '\n' := by
  have reached := reaches_readStatement registry dialect objects c
  obtain ⟨keyword, after, created, isKeyword, known, opened, read⟩ :=
    readStatement_of_silent silent
  rw [read] at silent reached ⊢
  obtain ⟨split, isAfter, letters⟩ := identifier?_eq_some isKeyword
  rw [OpensInline, ← isAfter] at inline
  rw [← isAfter]
  obtain ⟨body, inBrackets⟩ := List.head?_eq_some_iff.mp inline
  let here := ((c.moveTo after).inCommand (String.ofList keyword)).skipBlanks
  let list : ArgumentList :=
    { cursor := here.next, invocation := { created with line := c.line } }
  let ends := (readArguments dialect objects here.line list).2
  have opening : here.next.rest = body := by
    have blanks : here.rest = (c.moveTo after).rest.dropWhile isBlank :=
      rest_skipBlanks _
    rw [rest_next, blanks, c.rest_moveTo ⟨keyword, split.symm⟩,
      dropWhile_isBlank_of_inline inBrackets, List.tail_cons]
  have passed : Skip.arguments here.next.rest = ends.rest :=
    arguments_readArguments list
      (words created.command (Registry.mem_of_create? known)) silent
  have inside : ends.rest <:+ here.next.rest :=
    (reaches_readArguments dialect objects here.line list).suffix
  rw [opening] at passed inside
  constructor
  · rw [Skip.command, inBrackets]
    exact passed
  · obtain ⟨lexeme, shape⟩ : ends.rest <:+ after := by
      refine (inside.trans (List.suffix_cons '(' body)).trans ?_
      rw [← inBrackets]
      exact List.dropWhile_suffix _
    refine ⟨lexeme, shape.symm, ?_⟩
    have whole : c.rest = (keyword ++ lexeme) ++ ends.rest := by
      rw [List.append_assoc, shape]
      exact split
    rw [reached.line_eq whole, List.count_append,
      count_newline_of_isWord letters, Nat.zero_add]

/-- An unknown keyword in the place of a known one is reported, and the
statement ends where it ended. -/
theorem readStatement_unknown {registry : Registry} {dialect : Dialect}
    {objects : ObjectTable} {c : Cursor}
    (words : ∀ command ∈ registry.commands, ∀ field ∈ command.fields,
      field.type.hasWords = true)
    (silent : c.Silent (readStatement registry dialect objects c).2)
    (inline : OpensInline c.rest) {other : String}
    (word : IsIdentifier other) (unknown : registry.get? other = none) :
    readStatement registry dialect objects
        { c with rest := other.toList ++ c.rest.dropWhile isWord } =
      (none, { (readStatement registry dialect objects c).2 with
        diagnostics := c.diagnostics ++
          [⟨.error, c.line, .unknownCommand other, some other, none⟩] }) := by
  obtain ⟨passed, lexeme, shape, line⟩ := command_of_silent words silent inline
  obtain ⟨idle, idle'⟩ : (readStatement registry dialect objects c).2.command =
      none ∧ (readStatement registry dialect objects c).2.argument = none := by
    obtain ⟨_, _, _, _, _, _, read⟩ := readStatement_of_silent silent
    rw [read]
    exact ⟨rfl, rfl⟩
  have stops : ∀ letter, (c.rest.dropWhile isWord).head? = some letter →
      isWord letter = false := by
    intro letter first
    have refused := List.head?_dropWhile_not isWord c.rest
    rw [first] at refused
    simpa using refused
  have letters : ∀ letter ∈ other.toList, isWord letter = true :=
    (identifier?_eq_some (identifier?_append word stops)).2.2
  generalize readStatement registry dialect objects c = read at *
  have created : registry.create? other = none := by
    rw [Registry.create?, unknown]
    rfl
  rw [readStatement, identifier?_append word stops]
  simp only [String.ofList_toList, created]
  let begun :=
    ((behind { c with rest := other.toList ++ c.rest.dropWhile isWord }
      other.toList (c.rest.dropWhile isWord)).inCommand other).error
        (.unknownCommand other)
  have unread : begun.rest = lexeme ++ read.2.rest := shape
  have skipped : Skip.command begun.rest = read.2.rest := passed
  have same : c.line + other.toList.count '\n' = c.line := by
    rw [count_newline_of_isWord letters, Nat.add_zero]
  rw [moveTo_eq_behind rfl]
  change (none, (begun.moveTo (Skip.command begun.rest)).leaveCommand) = _
  rw [skipped, moveTo_eq_behind unread]
  simp only [begun, behind, leaveCommand, error, report, inCommand, same,
    ← line, idle, idle']

theorem afterNewline_length_lt {line text : List Char} (single : '\n' ∉ line)
    (some : text ≠ []) :
    (afterNewline (line ++ text)).length < text.length := by
  induction line with
  | nil =>
      obtain ⟨head, tail, rfl⟩ := List.exists_cons_of_ne_nil some
      have shorter := (Skip.afterNewline_suffix tail).length_le
      rw [List.nil_append, afterNewline]
      split
      · exact Nat.lt_succ_self _
      · exact Nat.lt_succ_of_le shorter
  | cons head line induction =>
      rw [List.mem_cons, not_or] at single
      rw [List.cons_append, afterNewline, if_neg (Ne.symm single.1)]
      exact induction single.2

/-- Separators end at any other statement as well. -/
theorem separators_elsewhere {comment : Char} {gap text : List Char}
    (passed : Skip.separators comment (gap ++ text) = text) (some : text ≠ [])
    {head : Char} (visible : isBlank head = false) (noEnd : head ≠ ';')
    (noComment : head ≠ comment) (tail : List Char) :
    Skip.separators comment (gap ++ head :: tail) = head :: tail := by
  cases gap with
  | nil =>
      rw [List.nil_append, separators_cons]
      simp [visible, noEnd, noComment]
  | cons first gap =>
      rw [List.cons_append, separators_cons] at passed ⊢
      split
      · rename_i blank
        rw [if_pos blank] at passed
        exact separators_elsewhere passed some visible noEnd noComment tail
      · rename_i noBlank
        rw [if_neg noBlank] at passed
        split
        · rename_i isComment
          rw [if_pos isComment] at passed
          -- The comment ends in front of the statement.
          have broken : '\n' ∈ gap := by
            refine Decidable.byContradiction fun single => ?_
            have less := afterNewline_length_lt single some
            have shorter := (separators_suffix comment
              (afterNewline (gap ++ text))).length_le
            rw [passed] at shorter
            omega
          have less := (Skip.afterNewline_suffix gap).length_le
          rw [afterNewline_of_mem broken] at passed ⊢
          exact separators_elsewhere passed some visible noEnd noComment tail
        · rename_i other
          rw [if_neg other] at passed
          have lengths := congrArg List.length passed
          simp only [List.length_cons, List.length_append] at lengths
          omega
termination_by gap.length
decreasing_by
  · subst_vars
    exact Nat.lt_succ_of_le less
  · subst_vars
    exact Nat.lt_succ_self _

theorem skipSeparators_elsewhere {dialect : Dialect} {c : Cursor}
    {gap : List Char} (split : c.rest = gap ++ (skipSeparators dialect c).rest)
    (some : (skipSeparators dialect c).rest ≠ []) {head : Char}
    (visible : isBlank head = false) (noEnd : head ≠ ';')
    (noComment : head ≠ dialect.comment) (tail : List Char) :
    skipSeparators dialect { c with rest := gap ++ head :: tail } =
      { skipSeparators dialect c with rest := head :: tail } := by
  have passed := rest_skipSeparators dialect c
  have here : skipSeparators dialect c =
      c.behind gap (skipSeparators dialect c).rest :=
    (congrArg c.moveTo passed.symm).trans (moveTo_eq_behind split)
  rw [split] at passed
  have other := separators_elsewhere passed.symm some visible noEnd noComment
    tail
  rw [here, skipSeparators, other]
  exact moveTo_eq_behind rfl

/-- Where a word begins, separators end. -/
theorem skipSeparators_word {c : Cursor} {gap : List Char}
    (split : c.rest = gap ++ (skipSeparators {} c).rest)
    (some : (skipSeparators {} c).rest ≠ []) {head : Char}
    (starts : isWordStart head = true) (tail : List Char) :
    skipSeparators {} { c with rest := gap ++ head :: tail } =
      { skipSeparators {} c with rest := head :: tail } := by
  have letter := isWord_of_isWordStart starts
  exact skipSeparators_elsewhere split some (isBlank_eq_false_of_isWord letter)
    (ne_of_isWord letter (by decide)) (ne_of_isWord letter (by decide)) tail

theorem exists_wordStart {text : List Char} {found : List Char × List Char}
    (isWord : identifier? text = some found) :
    ∃ head tail, text = head :: tail ∧ isWordStart head = true := by
  unfold identifier? at isWord
  split at isWord
  · cases isWord
  · rename_i head tail
    split at isWord
    · exact ⟨head, tail, rfl, ‹_›⟩
    · cases isWord

theorem shift_zero {c : Cursor} (fresh : c.diagnostics = [])
    (earlier : List Diagnostic) :
    c.shift 0 earlier = { c with diagnostics := earlier } := by
  simp [shift, fresh]

/-- Behind other diagnostics a script is read the same. -/
theorem readScript_told (registry : Registry) (dialect : Dialect)
    (objects : ObjectTable) {c : Cursor} (fresh : c.diagnostics = [])
    (silent : c.Silent (readScript registry dialect objects c).2)
    (earlier : List Diagnostic) :
    readScript registry dialect objects { c with diagnostics := earlier } =
      ((readScript registry dialect objects c).1,
        { (readScript registry dialect objects c).2 with
          diagnostics := earlier }) := by
  have invocations : (readScript registry dialect objects c).1.map
      (Invocation.shift 0) = (readScript registry dialect objects c).1 :=
    List.map_id _
  rw [← shift_zero fresh, readScript_shift, invocations,
    shift_zero (silent.trans fresh)]

section

variable {registry : Registry} {objects : ObjectTable} {c here : Cursor}
  (isHere : skipSeparators {} c = here) (unread : here.rest ≠ [])
  (fresh : c.diagnostics = [])
  (silent : c.Silent (readStatement registry {} objects here).2)
  {gap : List Char} (isGap : gap ++ here.rest = c.rest)

include isHere unread fresh silent isGap

/-- The first statement is read the same, whatever the text behind it. -/
theorem readScript_elsewhere {text : List Char}
    (isText : text ++ (readStatement registry {} objects here).2.rest =
      here.rest) (other : List Char) :
    readScript registry {} objects { c with rest := gap ++ (text ++ other) } =
      let others := readScript registry {} objects
        { (readStatement registry {} objects here).2 with rest := other }
      ((readStatement registry {} objects here).1.toList ++ others.1,
        others.2) := by
  subst isHere
  obtain ⟨_, within⟩ := silent.halves (reaches_skipSeparators {} c)
    (reaches_readStatement registry {} objects _)
  obtain ⟨_, _, _, isKeyword, _⟩ := readStatement_of_silent within
  obtain ⟨head, tail, shape, starts⟩ := exists_wordStart isKeyword
  have clean : (readStatement registry {} objects
      (skipSeparators {} c)).2.Clean := by
    intro d member
    rw [silent.trans fresh] at member
    cases member
  have letter := isWord_of_isWordStart starts
  have shorter := readStatement_length_lt registry {} objects shape
    (ne_of_isWord letter (by decide)) (isBlank_eq_false_of_isWord letter)
  obtain ⟨rest, rfl⟩ : ∃ rest, text = head :: rest := by
    cases text with
    | nil =>
        rw [List.nil_append] at isText
        rw [isText] at shorter
        exact absurd shorter (Nat.lt_irrefl _)
    | cons first rest =>
        rw [shape, List.cons_append] at isText
        injection isText with same
        exact ⟨rest, by rw [same]⟩
  have there := skipSeparators_word isGap.symm unread starts (rest ++ other)
  rw [List.cons_append,
    readScript_step registry {} objects (by rw [there]; simp), there,
    ← List.cons_append, readStatement_elsewhere clean isText.symm]

/-- If its keyword is unknown the first statement is reported and passed
over. -/
theorem readScript_unknown_first
    (words : ∀ command ∈ registry.commands, ∀ field ∈ command.fields,
      field.type.hasWords = true)
    (inline : OpensInline here.rest) {other : String}
    (word : IsIdentifier other) (unknown : registry.get? other = none) :
    readScript registry {} objects { c with
        rest := gap ++ (other.toList ++ here.rest.dropWhile isWord) } =
      readScript registry {} objects
        { (readStatement registry {} objects here).2 with
          diagnostics :=
            [⟨.error, here.line, .unknownCommand other, some other,
              none⟩] } := by
  subst isHere
  obtain ⟨quiet, within⟩ := silent.halves (reaches_skipSeparators {} c)
    (reaches_readStatement registry {} objects _)
  obtain ⟨first, rest, letters, begins, _⟩ := exists_cons_of_isIdentifier word
  have there := skipSeparators_word isGap.symm unread begins
    (rest ++ (skipSeparators {} c).rest.dropWhile isWord)
  rw [← List.cons_append, ← letters] at there
  have nothing : (skipSeparators {} c).diagnostics = [] := quiet.trans fresh
  rw [readScript_step registry {} objects (by rw [there, letters]; simp), there,
    readStatement_unknown words within inline word unknown, nothing]
  rfl

end

/-- One unknown keyword costs its own command, and is all that is reported. -/
theorem readScript_unknown {registry : Registry} {objects : ObjectTable}
    (words : ∀ command ∈ registry.commands, ∀ field ∈ command.fields,
      field.type.hasWords = true)
    {other : String} (word : IsIdentifier other)
    (unknown : registry.get? other = none) (c : Cursor)
    (fresh : c.diagnostics = [])
    (silent : c.Silent (readScript registry {} objects c).2) {i : Nat}
    {start : Cursor}
    (nth : (invocationStarts registry {} objects c)[i]? = some start)
    (inline : OpensInline start.rest) {front : List Char}
    (split : c.rest = front ++ start.rest) :
    readScript registry {} objects { c with
        rest := front ++ (other.toList ++ start.rest.dropWhile isWord) } =
      ((readScript registry {} objects c).1.eraseIdx i,
        { (readScript registry {} objects c).2 with
          diagnostics :=
            [⟨.error, start.line, .unknownCommand other, some other,
              none⟩] }) := by
  have unread : (skipSeparators {} c).rest ≠ [] := by
    intro done
    rw [invocationStarts_done registry {} objects done] at nth
    cases nth
  have less := script_length_lt registry {} objects unread
  have passed := reaches_skipSeparators {} c
  rw [readScript_step registry {} objects unread] at silent ⊢
  rw [invocationStarts_step registry {} objects unread] at nth
  dsimp only at silent nth ⊢
  generalize isHere : skipSeparators {} c = here at *
  have forward := reaches_readStatement registry {} objects here
  obtain ⟨begun, later⟩ := silent.halves (passed.trans forward)
    (reaches_readScript registry {} objects _)
  have told : (readStatement registry {} objects here).2.diagnostics = [] :=
    begun.trans fresh
  obtain ⟨invocation, given⟩ : ∃ invocation,
      (readStatement registry {} objects here).1 = some invocation := by
    obtain ⟨_, _, _, _, _, _, read⟩ :=
      readStatement_of_silent (begun.halves passed forward).2
    exact ⟨_, congrArg Prod.fst read⟩
  obtain ⟨gap, isGap⟩ := passed.suffix
  cases i with
  | zero =>
      obtain rfl : here = start := by simpa [given] using nth
      obtain rfl : gap = front := List.append_cancel_right (isGap.trans split)
      rw [readScript_unknown_first isHere unread fresh begun isGap words inline
        word unknown, readScript_told registry {} objects told later, given]
      rfl
  | succ i =>
      have later' : (invocationStarts registry {} objects
          (readStatement registry {} objects here).2)[i]? = some start := by
        simpa [given] using nth
      obtain ⟨between, isBetween⟩ := (reaches_of_mem_invocationStarts registry
        {} objects (List.mem_of_getElem? later')).suffix
      obtain ⟨text, isText⟩ := forward.suffix
      obtain rfl : gap ++ (text ++ between) = front := by
        apply List.append_cancel_right
        rw [← split, ← isGap, ← isText, ← isBetween]
        simp only [List.append_assoc]
      rw [List.append_assoc, List.append_assoc,
        readScript_elsewhere isHere unread fresh begun isGap isText,
        readScript_unknown words word unknown _ told later later' inline
          isBetween.symm, given]
      rfl
termination_by c.rest.length

end Parser

/-- A script may be read in silence, with only spaces and tabs in front of each
argument list.  If one of its keywords is replaced by an identifier that is no
keyword, this is reported for the line of the command, and all the other
commands are read as before. -/
theorem parseScript_replaceWord {registry : Registry}
    (words : ∀ command ∈ registry.commands, ∀ field ∈ command.fields,
      field.type.hasWords = true)
    {objects : ObjectTable} {text : String}
    (silent : (parseScript registry {} objects text).diagnostics = [])
    (inline : ∀ place ∈ keywordPlaces registry {} objects text,
      OpensInline (text.toList.drop place))
    {i place : Nat}
    (isPlace : (keywordPlaces registry {} objects text)[i]? = some place)
    {other : String} (word : IsIdentifier other)
    (unknown : registry.get? other = none) :
    let parsed := parseScript registry {} objects text
    ∃ invocation, parsed.invocations[i]? = some invocation ∧
      KeywordAt text place invocation ∧
      parseScript registry {} objects (replaceWord text place other) =
        ⟨parsed.invocations.eraseIdx i,
          [⟨.error, invocation.line, .unknownCommand other, some other,
            none⟩]⟩ := by
  intro parsed
  obtain ⟨start, invocation, isStart, isInvocation, reached, read, rfl⟩ :=
    exists_start_at_place isPlace
  refine ⟨invocation, isInvocation, keywordAt_start reached read, ?_⟩
  have unread : start.rest =
      text.toList.drop (text.toList.length - start.rest.length) :=
    List.suffix_iff_eq_drop.mp reached.suffix
  have opened := inline _ (List.mem_of_getElem? isPlace)
  have passed := (List.take_append_drop
    (text.toList.length - start.rest.length) text.toList).symm
  rw [← unread] at passed opened
  have parsing := Parser.readScript_unknown words word unknown (.ofText text)
    rfl silent isStart opened passed
  rw [← (Parser.readStatement_eq_some read).2] at parsing
  have replaced : Cursor.ofText (replaceWord text
      (text.toList.length - start.rest.length) other) =
      { Cursor.ofText text with
        rest := text.toList.take (text.toList.length - start.rest.length) ++
          (other.toList ++ start.rest.dropWhile isWord) } := by
    rw [Cursor.ofText, replaceWord, String.toList_ofList, ← unread]
    rfl
  rw [parseScript, replaced, parsing]
  rfl

/-- The arguments of the second command hold a quoted variant, a string with a
parenthesis, a quote and a newline, and a list with a comma missing. -/
theorem parseScript_replaceWord_quoted :
    let objects := ObjectTable.ofList [⟨"View", 0⟩, ⟨"View", 2⟩]
    let text := "loadCase(\"a\")\n" ++
      "exportSnapshots \t(type=\"VIEWS\", prefix=\"), \\\"(\n\", " ++
      "views=[View:0 View:2,])\nexportVisibleCells(view=)\n" ++
      "exportWellPaths([\"P(1\" \"P2\"], 5) # paths"
    let parsed := parseScript .builtin {} objects
      (replaceWord text 14 "snapshot")
    parsed.invocations.map (fun read => (read.keyword, read.line)) =
        [("loadCase", 1), ("exportVisibleCells", 4), ("exportWellPaths", 5)] ∧
      parsed.diagnostics =
        [⟨.error, 2, .unknownCommand "snapshot", some "snapshot", none⟩] := by
  intro objects text parsed
  have words : ∀ command ∈ Registry.builtin.commands,
      ∀ field ∈ command.fields, field.type.hasWords = true :=
    fun _ member _ inFields => Builtin.hasWords member inFields
  have silent : (parseScript .builtin {} objects text).diagnostics = [] := by
    decide +kernel
  have places : keywordPlaces .builtin {} objects text = [0, 14, 88, 114] := by
    decide +kernel
  have inline : ∀ place ∈ keywordPlaces .builtin {} objects text,
      OpensInline (text.toList.drop place) := by
    rw [places]
    decide +kernel
  have second : (keywordPlaces .builtin {} objects text)[1]? = some 14 := by
    rw [places]
    rfl
  have word : IsIdentifier "snapshot" := by decide
  have unknown : Registry.builtin.get? "snapshot" = none := by decide
  obtain ⟨invocation, _, ⟨_, line⟩, replaced⟩ :=
    parseScript_replaceWord words silent inline second word unknown
  have lower : 1 + (text.toList.take 14).count '\n' = 2 := by decide +kernel
  rw [line, lower] at replaced
  have same : parsed = _ := replaced
  rw [same]
  decide +kernel

end GridScript
