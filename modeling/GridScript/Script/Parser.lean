import GridScript.Command.Registry
import GridScript.Script.Dialect
import GridScript.Script.Skip
import GridScript.Value.Reader

/-!
# Parsing scripts

A script is a list of invocations between newlines and semicolons.  Parsing
never stops at a problem: it is reported, and reading goes on at the next
argument or command.  Every step of every loop consumes text, so parsing ends
with the whole text read.
-/

namespace GridScript

/-- What a script says. -/
structure ParsedScript where
  /-- The invocations in the order of the text. -/
  invocations : List Invocation
  diagnostics : List Diagnostic

namespace ParsedScript

def errorCount (parsed : ParsedScript) : Nat := countErrors parsed.diagnostics

def warningCount (parsed : ParsedScript) :
    Nat := parsed.diagnostics.length - parsed.errorCount

def hasErrors (parsed : ParsedScript) :
    Bool := parsed.diagnostics.any Diagnostic.isError

end ParsedScript

/-- An identifier at the front of a text, and what follows it. -/
def identifier? (text : List Char) : Option (List Char × List Char) :=
  match text with
  | [] => none
  | c :: rest =>
    if isWordStart c then
      some (c :: rest.takeWhile isWord, rest.dropWhile isWord)
    else none

/-- The name of an argument together with what separates it from its value. -/
structure ArgumentName where
  name : String
  /-- Whether an equals sign follows; otherwise it is white space. -/
  equals : Bool
  deriving DecidableEq, Repr

/-- A character that cannot begin a value behind a name and white space. -/
def isDelimiter (c : Char) : Bool :=
  c == ',' || c == ')' || c == ':' || c == ';'

/-- The name of an argument at the front of a text, and where its value begins.
An identifier is a name if an equals sign follows, or white space and then a
value. -/
def argumentName? (text : List Char) : Option (ArgumentName × List Char) :=
  match identifier? text with
  | none => none
  | some (name, rest) =>
    match rest.dropWhile isPlainBlank with
    | [] => none
    | c :: after =>
      if c = '=' then some (⟨String.ofList name, true⟩, after)
      else if rest.head?.any isPlainBlank && !isDelimiter c then
        some (⟨String.ofList name, false⟩, c :: after)
      else none

namespace Parser

/-- The argument list of one invocation while it is being read. -/
structure ArgumentList where
  cursor : Cursor
  invocation : Invocation
  /-- How many fields the positional values have passed. -/
  passed : Nat := 0

/-- Reports a separator that the dialect does not allow. -/
def checkSeparator (dialect : Dialect) (equals : Bool) (c : Cursor) : Cursor :=
  match dialect.separator, equals with
  | .equals, false => c.error .expectedEquals
  | .whitespace, true => c.error .unexpectedEquals
  | _, _ => c

/-- Passes over an argument value. -/
def skipArgument (c : Cursor) : Cursor :=
  c.moveTo (Skip.argument c.rest)

/-- Passes over a comma, if there is one. -/
def skipComma (c : Cursor) : Cursor :=
  if c.peek? = some ',' then c.next else c

/-- Reads the value of a field.  If there is none the field keeps its value. -/
def readField (objects : ObjectTable) (field : Field) (c : Cursor)
    (state : ArgumentList) : ArgumentList :=
  let read := c.readValue objects field.type
  match read.1 with
  | some value =>
    { state with
      cursor := read.2
      invocation := state.invocation.set field.name value }
  | none => { state with cursor := read.2 }

/-- Reads an argument that is given by name.  The cursor stands at its value. -/
def readNamed (dialect : Dialect) (objects : ObjectTable) (found : ArgumentName)
    (c : Cursor) (state : ArgumentList) : ArgumentList :=
  let c := checkSeparator dialect found.equals (c.inArgument found.name)
  match state.invocation.fields.find? (·.accepts found.name) with
  | none =>
    { state with cursor := skipArgument (c.warn (.unknownArgument found.name)) }
  | some field =>
    if field.scriptable then
      if state.invocation.arguments.isSet field.name then
        readField objects field (c.warn (.repeatedArgument found.name)) state
      else readField objects field c state
    else
      { state with
        cursor := skipArgument (c.error (.internalArgument found.name)) }

/-- The field that the next positional value goes to: the first one behind the
field of the last positional value that is not set yet. -/
def positionalField? (state : ArgumentList) : Option Field :=
  ((state.invocation.fields.filter (·.scriptable)).drop state.passed).find?
    fun field => !state.invocation.arguments.isSet field.name

/-- How many fields are passed once a positional value went to this field. -/
def passedBy (state : ArgumentList) (field : Field) : Nat :=
  match (state.invocation.fields.filter (·.scriptable)).findIdx?
      (·.name == field.name) with
  | some index => index + 1
  | none => state.passed

/-- Reads an argument that is given by its position. -/
def readPositional (dialect : Dialect) (objects : ObjectTable) (c : Cursor)
    (state : ArgumentList) : ArgumentList :=
  if dialect.positional then
    match positionalField? state with
    | some field =>
      readField objects field (c.inArgument field.name)
        { state with passed := passedBy state field }
    | none => { state with cursor := skipArgument (c.error .tooManyArguments) }
  else { state with cursor := skipArgument (c.error .missingArgumentName) }

/-- Reads one argument, by name or by position. -/
def readArgument (dialect : Dialect) (objects : ObjectTable) (c : Cursor)
    (state : ArgumentList) : ArgumentList :=
  match argumentName? c.rest with
  | some (found, after) =>
    readNamed dialect objects found (c.moveTo after) state
  | none => readPositional dialect objects c state

/-- Ends an argument.  Only a comma or the closing parenthesis may follow a
value; anything else is reported and passed over. -/
def finishArgument (c : Cursor) : Cursor :=
  let here := c.skipBlanks
  match here.rest with
  | [] => here.leaveArgument
  | next :: _ =>
    if next = ',' then here.next.leaveArgument
    else if next = ')' then here.leaveArgument
    else
      (skipComma (skipArgument
        (here.error (.unexpectedAfterValue next)))).leaveArgument

/-- One step along an argument list: its end, or the state behind a comma or an
argument. -/
inductive ArgumentStep where
  | finished (after : Cursor)
  | continued (state : ArgumentList)

/-- The cursor after a step along an argument list, whether the list ends there
or not. -/
def ArgumentStep.cursor : ArgumentStep → Cursor
  | .finished after => after
  | .continued state => state.cursor

/-- Reads up to the end of an argument list, over a comma, or over one argument.
`start` is the line that the list was opened on. -/
def argumentStep (dialect : Dialect) (objects : ObjectTable) (start : Nat)
    (state : ArgumentList) : ArgumentStep :=
  let here := state.cursor.skipBlanks
  match here.rest with
  | [] => .finished (here.errorAt start .unclosedArgumentList)
  | next :: _ =>
    if next = ')' then .finished here.next
    else if next = ',' then .continued { state with cursor := here.next }
    else
      let read := readArgument dialect objects here state
      .continued { read with cursor := finishArgument read.cursor }

/-! ### Every step consumes text -/

theorem reaches_checkSeparator (dialect : Dialect) (equals : Bool)
    (c : Cursor) :
    c.Reaches (checkSeparator dialect equals c) := by
  unfold checkSeparator
  split
  · exact c.reaches_error _
  · exact c.reaches_error _
  · exact .refl c

theorem reaches_skipArgument (c : Cursor) : c.Reaches (skipArgument c) :=
  c.reaches_moveTo _

theorem reaches_skipComma (c : Cursor) : c.Reaches (skipComma c) := by
  unfold skipComma
  split
  · exact c.reaches_next
  · exact .refl c

theorem reaches_readField (objects : ObjectTable) (field : Field) (c : Cursor)
    (state : ArgumentList) :
    c.Reaches (readField objects field c state).cursor := by
  unfold readField
  dsimp only
  split <;> exact c.reaches_readValue objects field.type

theorem reaches_readNamed (dialect : Dialect) (objects : ObjectTable)
    (found : ArgumentName) (c : Cursor) (state : ArgumentList) :
    c.Reaches (readNamed dialect objects found c state).cursor := by
  refine (c.reaches_inArgument found.name).trans ?_
  refine (reaches_checkSeparator dialect found.equals _).trans ?_
  unfold readNamed
  dsimp only
  split
  · exact (Cursor.reaches_warn _ _).trans (reaches_skipArgument _)
  · split
    · split
      · exact (Cursor.reaches_warn _ _).trans (reaches_readField _ _ _ _)
      · exact reaches_readField _ _ _ _
    · exact (Cursor.reaches_error _ _).trans (reaches_skipArgument _)

theorem reaches_readPositional (dialect : Dialect) (objects : ObjectTable)
    (c : Cursor) (state : ArgumentList) :
    c.Reaches (readPositional dialect objects c state).cursor := by
  unfold readPositional
  split
  · split
    · exact (c.reaches_inArgument _).trans (reaches_readField _ _ _ _)
    · exact (c.reaches_error _).trans (reaches_skipArgument _)
  · exact (c.reaches_error _).trans (reaches_skipArgument _)

theorem reaches_readArgument (dialect : Dialect) (objects : ObjectTable)
    (c : Cursor) (state : ArgumentList) :
    c.Reaches (readArgument dialect objects c state).cursor := by
  unfold readArgument
  split
  · exact (c.reaches_moveTo _).trans (reaches_readNamed _ _ _ _ _)
  · exact reaches_readPositional _ _ _ _

theorem reaches_finishArgument (c : Cursor) : c.Reaches (finishArgument c) := by
  refine c.reaches_skipBlanks.trans ?_
  unfold finishArgument
  dsimp only
  split
  · exact Cursor.reaches_leaveArgument _
  · split
    · exact (Cursor.reaches_next _).trans (Cursor.reaches_leaveArgument _)
    · split
      · exact Cursor.reaches_leaveArgument _
      · exact (Cursor.reaches_error _ _).trans <|
          (reaches_skipArgument _).trans <|
            (reaches_skipComma _).trans (Cursor.reaches_leaveArgument _)

theorem skipArgument_length_lt {c : Cursor} {head : Char} {tail : List Char}
    (unread : c.rest = head :: tail) (opens : head ≠ ',' ∧ head ≠ ')') :
    (skipArgument c).rest.length < c.rest.length := by
  unfold skipArgument
  rw [c.length_moveTo (Skip.argument_length_le _), unread]
  exact Skip.argument_length_lt opens

/-- Ending an argument consumes text, unless the text begins with what may
follow an argument. -/
theorem finishArgument_length_lt {c : Cursor} {head : Char} {tail : List Char}
    (unread : c.rest = head :: tail) (visible : isBlank head = false)
    (opens : head ≠ ')') :
    (finishArgument c).rest.length < c.rest.length := by
  have here : c.skipBlanks.rest = head :: tail := by
    rw [Cursor.rest_skipBlanks, unread,
      List.dropWhile_cons_of_neg (by simp [visible])]
  have lengths : c.skipBlanks.rest.length = c.rest.length := by
    rw [here, unread]
  unfold finishArgument
  dsimp only
  split
  · rename_i none
    rw [here] at none
    cases none
  · rename_i next more found
    have same : next = head := by
      rw [here] at found
      injection found with first _
      exact first.symm
    subst same
    split
    · show c.skipBlanks.next.rest.length < c.rest.length
      rw [Cursor.rest_next, here, unread]
      simp
    · rename_i noComma
      let reported := c.skipBlanks.error (.unexpectedAfterValue next)
      have skipped := skipArgument_length_lt (c := reported) here
        ⟨noComma, opens⟩
      have further := (reaches_skipComma (skipArgument reported)).length_le
      show (skipComma _).rest.length < c.rest.length
      exact Nat.lt_of_le_of_lt further (lengths ▸ skipped)

theorem identifier?_length_lt {text name rest : List Char}
    (found : identifier? text = some (name, rest)) :
    rest.length < text.length := by
  unfold identifier? at found
  split at found
  · cases found
  · rename_i head tail
    split at found
    · cases found
      have shorter := (List.dropWhile_suffix (l := tail) isWord).length_le
      simp only [List.length_cons]
      omega
    · cases found

/-- A step that does not end an argument list consumes text. -/
theorem argumentStep_length_lt {dialect : Dialect} {objects : ObjectTable}
    {start : Nat} {state after : ArgumentList}
    (step : argumentStep dialect objects start state = .continued after) :
    after.cursor.rest.length < state.cursor.rest.length := by
  have shorter := state.cursor.reaches_skipBlanks.length_le
  unfold argumentStep at step
  dsimp only at step
  split at step
  · cases step
  · rename_i next tail unread
    have lengths : state.cursor.skipBlanks.rest.length = tail.length + 1 := by
      rw [unread, List.length_cons]
    split at step
    · cases step
    · rename_i noEnd
      split at step
      · cases step
        show state.cursor.skipBlanks.next.rest.length < _
        rw [Cursor.rest_next, unread, List.tail_cons]
        omega
      · rename_i noComma
        cases step
        have forward :=
          reaches_readArgument dialect objects state.cursor.skipBlanks state
        generalize
          readArgument dialect objects state.cursor.skipBlanks state = read
            at forward ⊢
        show (finishArgument read.cursor).rest.length < _
        have further := (reaches_finishArgument read.cursor).length_le
        by_cases moved :
            read.cursor.rest.length < state.cursor.skipBlanks.rest.length
        · omega
        · have stayed := (forward.rest_eq (Nat.le_of_not_lt moved)).trans unread
          have visible : isBlank next = false := by
            have dropped := state.cursor.rest_skipBlanks
            rw [unread] at dropped
            have first := List.head?_dropWhile_not isBlank state.cursor.rest
            rw [← dropped] at first
            simpa using first
          have less := finishArgument_length_lt stayed visible noEnd
          have most := forward.length_le
          omega

/-- Reads an argument list that is open.  Its end may be missing; that is
reported for the line it was opened on. -/
def readArguments (dialect : Dialect) (objects : ObjectTable) (start : Nat)
    (state : ArgumentList) : Invocation × Cursor :=
  match _step : argumentStep dialect objects start state with
  | .finished after => (state.invocation, after)
  | .continued next => readArguments dialect objects start next
termination_by state.cursor.rest.length
decreasing_by exact argumentStep_length_lt _step

theorem reaches_argumentStep (dialect : Dialect) (objects : ObjectTable)
    (start : Nat) (state : ArgumentList) :
    state.cursor.Reaches (argumentStep dialect objects start state).cursor := by
  refine state.cursor.reaches_skipBlanks.trans ?_
  unfold argumentStep
  dsimp only
  split
  · exact Cursor.reaches_errorAt _ _ _
  · split
    · exact Cursor.reaches_next _
    · split
      · exact Cursor.reaches_next _
      · exact (reaches_readArgument _ _ _ _).trans (reaches_finishArgument _)

theorem reaches_readArguments (dialect : Dialect) (objects : ObjectTable)
    (start : Nat) (state : ArgumentList) :
    state.cursor.Reaches (readArguments dialect objects start state).2 := by
  have forward := reaches_argumentStep dialect objects start state
  rw [readArguments]
  split <;> rename_i step <;> rw [step] at forward
  · exact forward
  · have less := argumentStep_length_lt step
    exact forward.trans (reaches_readArguments dialect objects start _)
termination_by state.cursor.rest.length

/-- Reads what follows the keyword of a known command.  Without a parenthesis
there is no invocation. -/
def readInvocation (dialect : Dialect) (objects : ObjectTable)
    (invocation : Invocation) (c : Cursor) : Option Invocation × Cursor :=
  let here := c.skipBlanks
  if here.peek? = some '(' then
    let read := readArguments dialect objects here.line
      { cursor := here.next, invocation }
    (some read.1, read.2)
  else
    let reported := here.error (.missingArgumentList invocation.keyword)
    (none, reported.moveTo (Skip.statement reported.rest))

/-- Passes over a command that is not understood. -/
def skipCommand (c : Cursor) : Cursor :=
  c.moveTo (Skip.command c.rest)

/-- Reads one statement, which begins at the cursor. -/
def readStatement (registry : Registry) (dialect : Dialect)
    (objects : ObjectTable) (c : Cursor) : Option Invocation × Cursor :=
  match identifier? c.rest with
  | none =>
    (none, skipCommand
      (c.error (.missingKeyword (c.peek?.getD (Char.ofNat 0)))))
  | some (word, after) =>
    let keyword := String.ofList word
    let here := (c.moveTo after).inCommand keyword
    match registry.create? keyword with
    | none =>
      (none, (skipCommand (here.error (.unknownCommand keyword))).leaveCommand)
    | some invocation =>
      let read :=
        readInvocation dialect objects { invocation with line := c.line } here
      (read.1, read.2.leaveCommand)

/-- Passes over what may stand between statements. -/
def skipSeparators (dialect : Dialect) (c : Cursor) : Cursor :=
  c.moveTo (Skip.separators dialect.comment c.rest)

theorem reaches_readInvocation (dialect : Dialect) (objects : ObjectTable)
    (invocation : Invocation) (c : Cursor) :
    c.Reaches (readInvocation dialect objects invocation c).2 := by
  refine c.reaches_skipBlanks.trans ?_
  unfold readInvocation
  dsimp only
  split
  · exact (Cursor.reaches_next _).trans
      (reaches_readArguments dialect objects _
        { cursor := c.skipBlanks.next, invocation })
  · exact (Cursor.reaches_error _ _).trans (Cursor.reaches_moveTo _ _)

theorem reaches_skipCommand (c : Cursor) : c.Reaches (skipCommand c) :=
  c.reaches_moveTo _

theorem command_length_lt {head : Char} {tail : List Char} (opens : head ≠ ';')
    (visible : Skip.isInlineBlank head = false) :
    (Skip.command (head :: tail)).length < (head :: tail).length := by
  unfold Skip.command
  rw [List.dropWhile_cons_of_neg (by simp [visible])]
  split
  · rename_i rest found
    injection found with _ same
    subst same
    have shorter := Skip.arguments_length_le tail
    simp only [List.length_cons]
    omega
  · exact Skip.statement_length_lt opens

theorem skipCommand_length_lt {c : Cursor} {head : Char} {tail : List Char}
    (unread : c.rest = head :: tail) (opens : head ≠ ';')
    (visible : Skip.isInlineBlank head = false) :
    (skipCommand c).rest.length < c.rest.length := by
  have less : (Skip.command c.rest).length < c.rest.length := by
    rw [unread]
    exact command_length_lt opens visible
  unfold skipCommand
  rw [c.length_moveTo (Nat.le_of_lt less)]
  exact less

/-- A statement that begins with a visible character other than a semicolon
consumes text. -/
theorem readStatement_length_lt (registry : Registry) (dialect : Dialect)
    (objects : ObjectTable) {c : Cursor} {head : Char} {tail : List Char}
    (unread : c.rest = head :: tail) (opens : head ≠ ';')
    (visible : isBlank head = false) :
    (readStatement registry dialect objects c).2.rest.length
      < c.rest.length := by
  have inline : Skip.isInlineBlank head = false := by
    cases found : Skip.isInlineBlank head with
    | false => rfl
    | true =>
      have blank : head = ' ' ∨ head = '\t' := by
        simpa [Skip.isInlineBlank] using found
      rcases blank with rfl | rfl
      · exact absurd visible (by decide)
      · exact absurd visible (by decide)
  unfold readStatement
  split
  · exact skipCommand_length_lt (c := c.error _) unread opens inline
  · rename_i word after found
    have less := identifier?_length_lt found
    have moved := c.length_moveTo (Nat.le_of_lt less)
    dsimp only
    split
    · have further := (reaches_skipCommand
        (((c.moveTo after).inCommand (String.ofList word)).error
          (.unknownCommand (String.ofList word)))).length_le
      exact Nat.lt_of_le_of_lt further (moved ▸ less)
    · rename_i invocation _
      have further := (reaches_readInvocation dialect objects
        { invocation with line := c.line }
        ((c.moveTo after).inCommand (String.ofList word))).length_le
      exact Nat.lt_of_le_of_lt further (moved ▸ less)

/-- What is left behind separators begins with a visible character other than a
semicolon. -/
theorem separators_eq_cons {comment : Char} {text : List Char} {head : Char}
    {tail : List Char} (left : Skip.separators comment text = head :: tail) :
    isBlank head = false ∧ head ≠ ';' := by
  fun_induction Skip.separators comment text with
  | case1 => cases left
  | case2 _ _ _ hypothesis => exact hypothesis left
  | case3 _ _ hypothesis => exact hypothesis left
  | case4 c rest visible noComment =>
    cases left
    simpa using visible

theorem separators_suffix (comment : Char) (text : List Char) :
    Skip.separators comment text <:+ text := by
  fun_induction Skip.separators comment text with
  | case1 => exact List.suffix_rfl
  | case2 head tail _ hypothesis =>
    exact hypothesis.trans (List.suffix_cons head tail)
  | case3 tail _ hypothesis =>
    exact (hypothesis.trans (Skip.afterNewline_suffix tail)).trans
      (List.suffix_cons _ tail)
  | case4 => exact List.suffix_rfl

theorem rest_skipSeparators (dialect : Dialect) (c : Cursor) :
    (skipSeparators dialect c).rest = Skip.separators dialect.comment c.rest :=
  c.rest_moveTo (separators_suffix dialect.comment c.rest)

/-- Reads statements up to the end of the text. -/
def readScript (registry : Registry) (dialect : Dialect) (objects : ObjectTable)
    (c : Cursor) : List Invocation × Cursor :=
  let here := skipSeparators dialect c
  if _unread : here.rest = [] then ([], here)
  else
    let statement := readStatement registry dialect objects here
    let others := readScript registry dialect objects statement.2
    (statement.1.toList ++ others.1, others.2)
termination_by c.rest.length
decreasing_by
  obtain ⟨head, tail, found⟩ := List.exists_cons_of_ne_nil _unread
  have begins :=
    separators_eq_cons ((rest_skipSeparators dialect c).symm.trans found)
  have less :=
    readStatement_length_lt registry dialect objects found begins.2 begins.1
  have shorter :=
    (c.reaches_moveTo (Skip.separators dialect.comment c.rest)).length_le
  exact Nat.lt_of_lt_of_le less shorter

end Parser

/-- Parses a script. -/
def parseScript (registry : Registry) (dialect : Dialect)
    (objects : ObjectTable) (text : String) : ParsedScript :=
  let read := Parser.readScript registry dialect objects (.ofText text)
  ⟨read.1, read.2.diagnostics⟩

end GridScript
