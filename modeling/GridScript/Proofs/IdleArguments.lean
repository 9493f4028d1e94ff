import GridScript.Proofs.GivenArguments
import GridScript.Proofs.RoundTrip
import GridScript.Proofs.Silence

/-!
# Arguments that no field takes

An argument whose name leads to no field, or to one that scripts may not set,
is passed over with one diagnostic.  Its value is skipped exactly as far as its
text goes, so that the other arguments and all that follows are read as they
would be without it, only further down where its text takes lines of its own.
-/

namespace GridScript

/-! ### Skipping the text of a value -/

namespace Skip

/-- Inside brackets, commas are skipped like the items between them. -/
theorem value_commaTail {texts : List (List Char)}
    (skips : ∀ text ∈ texts, ∀ rest, Over (text ++ rest) rest) (depth : Nat)
    (rest : List Char) :
    value (depth + 1) false (Cursor.commaTail texts ++ ']' :: rest) =
      value depth false rest := by
  induction texts with
  | nil =>
      rw [Cursor.commaTail, List.flatMap_nil, List.nil_append, value_bare]
      simp
  | cons text texts induction =>
      have later := induction fun other member =>
        skips other (List.mem_cons_of_mem text member)
      have first := skips text List.mem_cons_self
        (Cursor.commaTail texts ++ ']' :: rest)
      rw [Cursor.commaTail_cons, List.cons_append, value_bare]
      simp only [Nat.succ_ne_zero, false_and, if_false, Char.reduceEq, or_self]
      rw [List.cons_append, value_plain (by decide), List.append_assoc,
        first.same, later]

/-- A bracketed list is skipped as a whole. -/
theorem over_bracketed {texts : List (List Char)}
    (skips : ∀ text ∈ texts, ∀ rest, Over (text ++ rest) rest)
    (rest : List Char) :
    Over ('[' :: (commaSeparated texts ++ [']']) ++ rest) rest := by
  refine ⟨List.suffix_append _ rest, fun depth => ?_⟩
  have split : '[' :: (commaSeparated texts ++ [']']) ++ rest =
      '[' :: (commaSeparated texts ++ ']' :: rest) := by simp
  rw [split, value_bare]
  simp only [Char.reduceEq, or_self, and_false, if_false, or_true, if_true]
  cases texts with
  | nil => exact value_commaTail skips depth rest
  | cons text texts =>
      have first := skips text List.mem_cons_self
        (Cursor.commaTail texts ++ ']' :: rest)
      rw [Cursor.commaSeparated_cons, List.append_assoc, first.same]
      exact value_commaTail (fun other member =>
        skips other (List.mem_cons_of_mem text member)) depth rest

theorem argument_delimited {rest : List Char} (delimited : Delimited rest) :
    argument rest = rest := by
  obtain ⟨mark, tail, rfl, isMark⟩ := delimited
  rw [argument, value_bare, if_pos ⟨rfl, isMark⟩]

end Skip

mutual

/-- The text of a value is skipped up to its end. -/
theorem Value.over_encodeChars (value : Value) (spellable : value.Spellable)
    (nonNull : value.isNullReference = false) (rest : List Char) :
    Skip.Over (value.encodeChars ++ rest) rest := by
  cases value with
  | string text =>
      have scanned := Cursor.scanQuoted_escapeChars text.toList rest
      have quoted := @Skip.over_quoted (escapeChars text.toList ++ '"' :: rest)
        (by rw [scanned])
      rw [scanned] at quoted
      simpa [Value.encodeChars, quoteChars] using quoted
  | array items =>
      rw [Value.encodeChars, Cursor.encodeItems_eq_map]
      refine Skip.over_bracketed ?_ rest
      intro text member
      obtain ⟨item, inside, rfl⟩ := List.mem_map.mp member
      obtain ⟨inItems, isItem⟩ := List.mem_filter.mp inside
      exact Value.over_encodeChars_of_mem items
        (fun _ inItems => spellable.item inItems) item inItems
        (by simpa using isItem)
  | _ =>
      have bare := (Cursor.isBare_of_mem_encodeChars spellable rfl nonNull).2
      exact Skip.over_append rest fun c member =>
        Skip.isPlain_of_isBare (bare c member)

private theorem Value.over_encodeChars_of_mem (items : List Value)
    (spellable : ∀ item ∈ items, item.Spellable) :
    ∀ item ∈ items, item.isNullReference = false → ∀ rest : List Char,
      Skip.Over (item.encodeChars ++ rest) rest := by
  cases items with
  | nil =>
      intro item member
      cases member
  | cons head items =>
      intro item member nonNull
      rcases List.mem_cons.mp member with same | later
      · rw [same] at nonNull ⊢
        exact Value.over_encodeChars head (spellable head List.mem_cons_self)
          nonNull
      · exact Value.over_encodeChars_of_mem items (fun other inItems =>
          spellable other (List.mem_cons_of_mem head inItems)) item later
          nonNull

end

theorem Value.argument_encodeChars {value : Value}
    (spellable : value.Spellable) (nonNull : value.isNullReference = false)
    {rest : List Char} (delimited : Delimited rest) :
    Skip.argument (value.encodeChars ++ rest) = rest :=
  ((value.over_encodeChars spellable nonNull rest).same 0).trans
    (Skip.argument_delimited delimited)

namespace Parser

section

variable {dialect : Dialect} (objects : ObjectTable) (start : Nat)
  (earlier : List Diagnostic) {state : ArgumentList} {name : String}
  {value : Value}

/-! ### An argument that no field takes -/

/-- Scripts cannot set a field by this name: no field has it, or the first one
that has it is internal. -/
def IsIdle (fields : List Field) (name : String) : Prop :=
  ∀ field, fields.find? (·.accepts name) = some field →
    field.scriptable = false

/-- How a name that no field takes is reported. -/
def refusal (fields : List Field) (name : String) : Severity × Problem :=
  match fields.find? (·.accepts name) with
  | none => (.warning, .unknownArgument name)
  | some _ => (.error, .internalArgument name)

theorem readNamed_idle (either : dialect.separator = .either)
    (idle : IsIdle state.invocation.fields name) (equals : Bool) (c : Cursor) :
    readNamed dialect objects ⟨name, equals⟩ c state =
      { state with
        cursor := skipArgument ((c.inArgument name).report
          (refusal state.invocation.fields name).1 c.line
          (refusal state.invocation.fields name).2) } := by
  have allowed : ∀ c, checkSeparator dialect equals c = c := by
    intro c
    simp [checkSeparator, either]
  unfold readNamed refusal
  simp only [allowed]
  cases found : state.invocation.fields.find? (·.accepts name) with
  | none => rfl
  | some field =>
      simp only [idle field found, Bool.false_eq_true, if_false]
      rfl

/-- The diagnostic for such a name at a line of a command. -/
def refused (fields : List Field) (name : String) (line : Nat)
    (keyword : Option String) : Diagnostic :=
  ⟨(refusal fields name).1, line, (refusal fields name).2, keyword, some name⟩

/-- The argument is passed over, and reported where it begins. -/
theorem readArguments_idle (either : dialect.separator = .either)
    (word : IsIdentifier name)
    (idle : IsIdle state.invocation.fields name) (spellable : value.Spellable)
    (nonNull : value.isNullReference = false) (equals : Bool)
    (outside : state.cursor.argument = none)
    (fresh : state.cursor.diagnostics = []) {rest : List Char}
    (delimited : Delimited rest) :
    readArguments dialect objects start
        (state.placed 0 earlier (namedText name equals value ++ rest)) =
      readArguments dialect objects start
        (state.placed ((namedText name equals value).count '\n')
          (earlier ++ [refused state.invocation.fields name state.cursor.line
            state.cursor.command]) rest) := by
  have step := @argumentStep_namedText dialect objects start 0 earlier state _
    _ word spellable nonNull equals rest
  have skipped : skipArgument (((state.cursor.placed 0 earlier
      (value.encodeChars ++ rest)).inArgument name).report
        (refusal state.invocation.fields name).1 state.cursor.line
        (refusal state.invocation.fields name).2) =
      (state.cursor.inArgument name).placed
        ((namedText name equals value).count '\n')
        (earlier ++ [refused state.invocation.fields name state.cursor.line
          state.cursor.command]) rest := by
    rw [skipArgument]
    change Cursor.moveTo _ (Skip.argument (value.encodeChars ++ rest)) = _
    rw [value.argument_encodeChars spellable nonNull delimited,
      @Cursor.moveTo_eq_behind _ value.encodeChars rest rfl,
      count_newline_namedText word]
    simp [Cursor.placed, Cursor.facing, Cursor.shift, Cursor.behind,
      Cursor.report, Cursor.inArgument, refused, fresh]
  have left : (state.cursor.inArgument name).leaveArgument = state.cursor := by
    rw [Cursor.inArgument, Cursor.leaveArgument, ← outside]
  have finished := @readArguments_finishArgument dialect objects start
    ((namedText name equals value).count '\n')
    (earlier ++ [refused state.invocation.fields name state.cursor.line
      state.cursor.command]) rest delimited
    { state with cursor := state.cursor.inArgument name }
  rw [left, ← skipped] at finished
  rw [readNamed_idle objects either idle] at step
  exact (readArguments_of_continued step).trans finished

/-- The list is read with the same result, whether or not an argument stands in
it that no field takes. -/
theorem readArguments_insert {shape : ObjectTable}
    (either : dialect.separator = .either) {before after : List (Field × Value)}
    (given : ∀ pair ∈ before ++ after,
      IsGiven shape state.invocation.fields pair)
    (word : IsIdentifier name) (idle : IsIdle state.invocation.fields name)
    (spellable : value.Spellable) (nonNull : value.isNullReference = false)
    (equals : Bool) (outside : state.cursor.argument = none) :
    ∃ (invocation : Invocation) (last : Cursor) (told : List Diagnostic),
      ∀ start rest,
        readArguments dialect objects start (state.placed 0 []
            (commaSeparated (before.map argumentText ++
              after.map argumentText) ++ ')' :: rest)) =
          (invocation, last.placed 0 told rest) ∧
        readArguments dialect objects start (state.placed 0 []
            (commaSeparated (before.map argumentText ++
              namedText name equals value :: after.map argumentText) ++
                ')' :: rest)) =
          (invocation, last.placed ((namedText name equals value).count '\n')
            (told ++ [refused state.invocation.fields name
              (state.cursor.line + (before.flatMap argumentText).count '\n')
              state.cursor.command]) rest) := by
  obtain ⟨middle, told, last, beyond, fresh, _, _, among⟩ :=
    @readArguments_among dialect objects state shape either
      (before.map NamedArgument.ofPair) (after.map NamedArgument.ofPair)
      (fun argument member => by
        rw [← List.map_append] at member
        obtain ⟨pair, inside, rfl⟩ := List.mem_map.mp member
        exact (given pair inside).named) outside
  have spares := fun argument (_ : argument ∈ after.map NamedArgument.ofPair) =>
    Invocation.spares_id argument.field.name
  have fields : middle.invocation.fields = state.invocation.fields :=
    congrArg Command.fields beyond.invoked
  have line : middle.cursor.line =
      state.cursor.line + (before.flatMap argumentText).count '\n' := by
    rw [beyond.line, List.flatMap_map]
    rfl
  simp only [List.map_map] at among
  refine ⟨last.invocation, last.cursor, told, fun start rest => ⟨?_, ?_⟩⟩
  · exact among [] id 0 told start spares (fun _ _ => rfl) rest
  · refine among [namedText name equals value] id _ _ start spares ?_ rest
    intro rest delimited
    have passed := @readArguments_idle dialect objects start told middle name
      value either word (fields ▸ idle) spellable nonNull equals
      beyond.argument fresh rest delimited
    rw [readArguments_commaTail_cons, ← fields, ← line, ← beyond.command]
    exact passed

end

end Parser

/-- An argument list at the front of a script begins the same in all scripts. -/
theorem Parser.openedBy_ofText (keyword : String) (command : Command)
    (text : String) (body : List Char) :
    openedBy keyword command (.ofText text) [] body =
      (openedBy keyword command (.ofText "") [] []).placed 0 [] body := rfl

theorem Parser.line_openedBy {keyword : String}
    (isKeyword : IsIdentifier keyword) (command : Command) :
    (openedBy keyword command (.ofText "") [] []).cursor.line = 1 := by
  have single : '\n' ∉ keyword.toList ++ ([] ++ ['(']) := by
    simp [newline_not_mem_of_isIdentifier isKeyword]
  exact Nat.add_eq_left.mpr (List.count_eq_zero_of_not_mem single)

theorem Cursor.leaveCommand_placed (lines : Nat) (earlier : List Diagnostic)
    (rest : List Char) (c : Cursor) :
    (c.placed lines earlier rest).leaveCommand =
      (c.leaveCommand.facing rest).shift lines earlier := rfl

/-- A use of a command as script text. -/
def commandText (keyword : String) (arguments : List (List Char)) : String :=
  String.ofList
    (keyword.toList ++ '(' :: (commaSeparated arguments ++ [')']))

theorem toList_commandText_append (keyword : String)
    (arguments : List (List Char)) (rest : String) :
    (commandText keyword arguments ++ rest).toList =
      keyword.toList ++ '(' ::
        (commaSeparated arguments ++ ')' :: rest.toList) := by
  simp [commandText]

section

variable {registry : Registry} {dialect : Dialect}
  (comment : isWord dialect.comment = false) {objects : ObjectTable}
  {keyword : String} {command : Command}
  (registered : registry.get? keyword = some command)
  (isKeyword : IsIdentifier keyword)
include comment registered isKeyword

/-- A script that begins with a command is read like what follows the argument
list, behind what is read from the list. -/
theorem parseScript_argumentList {space body : List Char}
    (isSpace : IsSpace space) {text : String}
    (unread : text.toList = keyword.toList ++ (space ++ '(' :: body))
    {rest : List Char} {invocation : Invocation} {last : Cursor} {lines : Nat}
    {told : List Diagnostic}
    (read : ∀ start, Parser.readArguments dialect objects start
        (Parser.openedBy keyword command (.ofText text) space body) =
      (invocation, last.placed lines told rest)) :
    let others := Parser.readScript registry dialect objects
      (last.leaveCommand.facing rest)
    parseScript registry dialect objects text =
      ⟨invocation :: others.1.map (Invocation.shift lines),
        told ++ others.2.diagnostics.map (Diagnostic.shift lines)⟩ := by
  have unread : (Cursor.ofText text).rest =
      keyword.toList ++ (space ++ '(' :: body) := unread
  obtain ⟨head, tail, chars, starts, _⟩ :=
    Parser.exists_cons_of_isIdentifier isKeyword
  obtain ⟨start, statement⟩ := Parser.readStatement_openedBy registered
    isKeyword dialect objects isSpace unread
  have later := Parser.readScript_shift lines told registry dialect objects
    (last.leaveCommand.facing rest)
  rw [read] at statement
  rw [chars] at unread
  rw [parseScript, Parser.readScript_word registry comment objects unread
    starts, statement]
  simp only [Cursor.leaveCommand_placed, later]
  rfl

/-- Where no lines are added, what follows stays on its lines. -/
theorem parseScript_argumentList_here {space body : List Char}
    (isSpace : IsSpace space) {text : String}
    (unread : text.toList = keyword.toList ++ (space ++ '(' :: body))
    {rest : List Char} {invocation : Invocation} {last : Cursor}
    {told : List Diagnostic}
    (read : ∀ start, Parser.readArguments dialect objects start
        (Parser.openedBy keyword command (.ofText text) space body) =
      (invocation, last.placed 0 told rest)) :
    let others := Parser.readScript registry dialect objects
      (last.leaveCommand.facing rest)
    parseScript registry dialect objects text =
      ⟨invocation :: others.1, told ++ others.2.diagnostics⟩ := by
  intro others
  have invocations : others.1.map (Invocation.shift 0) = others.1 :=
    List.map_id _
  have diagnostics : others.2.diagnostics.map (Diagnostic.shift 0) =
      others.2.diagnostics :=
    List.map_id _
  rw [← invocations, ← diagnostics]
  exact parseScript_argumentList comment registered isKeyword isSpace unread
    read

theorem parseScript_commandText {arguments : List (List Char)}
    {rest : String} {invocation : Invocation} {last : Cursor} {lines : Nat}
    {told : List Diagnostic}
    (read : ∀ start, Parser.readArguments dialect objects start
        ((Parser.openedBy keyword command (.ofText "") [] []).placed 0 []
          (commaSeparated arguments ++ ')' :: rest.toList)) =
      (invocation, last.placed lines told rest.toList)) :
    let others := Parser.readScript registry dialect objects
      (last.leaveCommand.facing rest.toList)
    parseScript registry dialect objects
        (commandText keyword arguments ++ rest) =
      ⟨invocation :: others.1.map (Invocation.shift lines),
        told ++ others.2.diagnostics.map (Diagnostic.shift lines)⟩ :=
  parseScript_argumentList comment registered isKeyword isBlanks_nil.isSpace
    (toList_commandText_append keyword arguments rest) fun start => by
      rw [Parser.openedBy_ofText, read]

theorem parseScript_commandText_here {arguments : List (List Char)}
    {rest : String} {invocation : Invocation} {last : Cursor}
    {told : List Diagnostic}
    (read : ∀ start, Parser.readArguments dialect objects start
        ((Parser.openedBy keyword command (.ofText "") [] []).placed 0 []
          (commaSeparated arguments ++ ')' :: rest.toList)) =
      (invocation, last.placed 0 told rest.toList)) :
    let others := Parser.readScript registry dialect objects
      (last.leaveCommand.facing rest.toList)
    parseScript registry dialect objects
        (commandText keyword arguments ++ rest) =
      ⟨invocation :: others.1, told ++ others.2.diagnostics⟩ :=
  parseScript_argumentList_here comment registered isKeyword
    isBlanks_nil.isSpace (toList_commandText_append keyword arguments rest)
    fun start => by rw [Parser.openedBy_ofText, read]

end

/-- A command with arguments for its fields, one more argument somewhere among
them, and any text behind the command. -/
structure Insertion where
  registry : Registry
  dialect : Dialect := {}
  objects : ObjectTable := .empty
  keyword : String
  command : Command
  before : List (Field × Value)
  after : List (Field × Value)
  name : String
  /-- Whether the name is told from the value by an equals sign. -/
  equals : Bool
  value : Value
  rest : String

namespace Insertion

/-- The arguments but for the one more are given for fields of the command; the
one more has a name that no field takes, and its value is not null. -/
structure Proper (insertion : Insertion) : Prop where
  either : insertion.dialect.separator = .either
  comment : isWord insertion.dialect.comment = false
  registered : insertion.registry.get? insertion.keyword =
    some insertion.command
  isKeyword : IsIdentifier insertion.keyword
  given : ∃ shape, ∀ pair ∈ insertion.before ++ insertion.after,
    Parser.IsGiven shape insertion.command.fields pair
  word : IsIdentifier insertion.name
  idle : Parser.IsIdle insertion.command.fields insertion.name
  nonNull : insertion.value.isNullReference = false

/-- The text of the one more argument. -/
def extra (insertion : Insertion) : List Char :=
  Parser.namedText insertion.name insertion.equals insertion.value

/-- How many lines this text takes of its own. -/
def lines (insertion : Insertion) : Nat :=
  insertion.extra.count '\n'

/-- What is read from the command with these arguments. -/
def parse (insertion : Insertion) (arguments : List (List Char)) :
    ParsedScript :=
  parseScript insertion.registry insertion.dialect insertion.objects
    (commandText insertion.keyword arguments ++ insertion.rest)

/-- What is read without the one more argument. -/
def without (insertion : Insertion) : ParsedScript :=
  insertion.parse (insertion.before.map argumentText ++
    insertion.after.map argumentText)

/-- What is read with it. -/
def along (insertion : Insertion) : ParsedScript :=
  insertion.parse (insertion.before.map argumentText ++
    insertion.extra :: insertion.after.map argumentText)

/-- The diagnostic for the argument, at the line that it begins on. -/
def report (insertion : Insertion) : Diagnostic :=
  Parser.refused insertion.command.fields insertion.name
    (1 + (insertion.before.flatMap argumentText).count '\n')
    (some insertion.keyword)

end Insertion

/-- The second script says what the first one says, and has one diagnostic
more.  What stands behind its first command and behind this diagnostic is some
lines further down. -/
def ParsedScript.Gains (without along : ParsedScript) (lines : Nat)
    (added : Diagnostic) : Prop :=
  ∃ first others earlier later,
    without.invocations = first :: others ∧
    along.invocations = first :: others.map (Invocation.shift lines) ∧
    without.diagnostics = earlier ++ later ∧
    along.diagnostics =
      earlier ++ added :: later.map (Diagnostic.shift lines)

namespace Insertion

/-- Wherever an argument that no field takes stands among the others, it is
reported once, and nothing else changes but lines further down. -/
theorem without_gains {insertion : Insertion} (proper : insertion.Proper)
    (spellable : insertion.value.Spellable) :
    insertion.without.Gains insertion.along insertion.lines
      insertion.report := by
  obtain ⟨shape, given⟩ := proper.given
  let opened := Parser.openedBy insertion.keyword insertion.command
    (.ofText "") [] []
  have line := Parser.line_openedBy proper.isKeyword insertion.command
  obtain ⟨first, last, told, read⟩ := @Parser.readArguments_insert
    insertion.dialect insertion.objects opened insertion.name insertion.value
    shape proper.either insertion.before insertion.after given proper.word
    proper.idle spellable proper.nonNull insertion.equals rfl
  have without := parseScript_commandText_here proper.comment proper.registered
    proper.isKeyword fun start => (read start insertion.rest.toList).1
  have along := parseScript_commandText proper.comment proper.registered
    proper.isKeyword fun start => (read start insertion.rest.toList).2
  rw [line] at along
  let others := Parser.readScript insertion.registry insertion.dialect
    insertion.objects (last.leaveCommand.facing insertion.rest.toList)
  refine ⟨first, others.1, told, others.2.diagnostics, ?_, ?_, ?_, ?_⟩
  · exact congrArg ParsedScript.invocations without
  · exact congrArg ParsedScript.invocations along
  · exact congrArg ParsedScript.diagnostics without
  · exact (congrArg ParsedScript.diagnostics along).trans
      (List.append_assoc _ _ _)

/-- A use of `survey` that sets its internal field, to a text with a comma, a
parenthesis, a quote and a newline in it. -/
def surveying : Insertion :=
  { registry := { commands := [Invocation.survey] }
    keyword := "survey"
    command := Invocation.survey
    before := (Invocation.survey.fields.take 1).zip [.string "a"]
    after := ((Invocation.survey.fields.drop 2).take 1).zip [.variant "SLOW"]
    name := "serial"
    equals := false
    value := .array [.string "b, \")\n", .int 3]
    rest := "\nsurvey(5" }

theorem without_gains_surveying :
    surveying.without.Gains surveying.along 1
      ⟨.error, 1, .internalArgument "serial", some "survey",
        some "serial"⟩ := by
  have given : ∀ pair ∈ surveying.before ++ surveying.after,
      Parser.IsGiven .empty Invocation.survey.fields pair := by
    intro pair member
    rcases List.mem_append.mp member with front | back
    · rw [List.mem_singleton.mp front]
      exact ⟨by decide, rfl, rfl, by decide, by decide +kernel, rfl⟩
    · rw [List.mem_singleton.mp back]
      exact ⟨by decide, rfl, rfl, by decide, by decide +kernel, rfl⟩
  have idle : Parser.IsIdle Invocation.survey.fields "serial" := by
    intro field found
    cases found
    rfl
  have proper : surveying.Proper :=
    ⟨rfl, by decide, rfl, by decide, ⟨.empty, given⟩, by decide, idle, rfl⟩
  exact without_gains proper (by decide +kernel)

/-- Two uses of `survey`, the first one with a value under a name that no field
has. -/
def straying (value : Value) : Insertion :=
  { registry := { commands := [Invocation.survey] }
    keyword := "survey"
    command := Invocation.survey
    before := []
    after := []
    name := "x"
    equals := true
    value
    rest := "\nsurvey()" }

theorem proper_straying {value : Value}
    (nonNull : value.isNullReference = false) : (straying value).Proper := by
  have comment : isWord '#' = false := by decide
  have keyword : IsIdentifier "survey" := by decide
  have name : IsIdentifier "x" := by decide
  have idle : Parser.IsIdle Invocation.survey.fields "x" := by
    intro field found
    cases found
  exact ⟨rfl, comment, rfl, keyword, ⟨.empty, by simp [straying]⟩, name, idle,
    nonNull⟩

/-- Not everything stays on its line, as a string may hold a newline; and where
the name of a class is no word it may close the argument list. -/
theorem not_forall_without_gains :
    (¬∀ insertion : Insertion, insertion.Proper →
      insertion.value.Spellable →
        insertion.without.Gains insertion.along 0 insertion.report) ∧
    ¬∀ insertion : Insertion, insertion.Proper →
      insertion.without.Gains insertion.along insertion.lines
        insertion.report := by
  constructor
  · intro stays
    obtain ⟨first, others, _, _, without, along, _⟩ :=
      stays (straying (.string "\n")) (proper_straying rfl) (by decide +kernel)
    have lines : (straying (.string "\n")).along.invocations.map (·.line) =
        (straying (.string "\n")).without.invocations.map (·.line) := by
      rw [without, along]
      simp [Invocation.shift]
    revert lines
    decide +kernel
  · intro passed
    let reference : Value := .reference (some ⟨"a)b", 1⟩)
    obtain ⟨_, _, earlier, later, _, _, without, along⟩ :=
      passed (straying reference) (proper_straying rfl)
    have counts : (straying reference).along.diagnostics.length =
        (straying reference).without.diagnostics.length + 1 := by
      rw [without, along]
      simp only [List.length_append, List.length_cons, List.length_map]
      omega
    revert counts
    decide +kernel

end Insertion

end GridScript
