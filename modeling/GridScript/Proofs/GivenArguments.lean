import GridScript.Proofs.CommandText
import GridScript.Proofs.Locality
import GridScript.Proofs.OwnText
import GridScript.Proofs.Shifting

/-!
# Argument lists at another place

An argument that is given by name for a field is read the same wherever its
list stands and however it goes on behind it: some lines further down, behind
other diagnostics, in front of other arguments, and whatever was changed in
the other fields.  So a list of such arguments stays as it is when something is
put among them.
-/

namespace GridScript

theorem Delimited.endsToken {rest : List Char} (delimited : Delimited rest) :
    EndsToken rest := by
  obtain ⟨mark, tail, rfl, isMark⟩ := delimited
  rcases isMark with rfl | rfl
  · exact endsToken_cons (by decide)
  · exact endsToken_cons (by decide)

/-- The cursor some lines further down, behind earlier diagnostics and in front
of another text. -/
def Cursor.placed (lines : Nat) (earlier : List Diagnostic) (rest : List Char)
    (c : Cursor) : Cursor :=
  (c.shift lines earlier).facing rest

namespace Cursor

variable (lines : Nat) (earlier : List Diagnostic) (rest : List Char)
  (c : Cursor)

@[simp] theorem rest_placed : (c.placed lines earlier rest).rest = rest := rfl

@[simp] theorem inArgument_placed (name : String) :
    (c.placed lines earlier rest).inArgument name =
      (c.inArgument name).placed lines earlier rest := rfl

@[simp] theorem warn_placed (problem : Problem) :
    (c.placed lines earlier rest).warn problem =
      (c.warn problem).placed lines earlier rest :=
  congrArg (facing · rest) (warn_shift lines earlier c problem)

/-- What was reported so far stays in front of all that follows. -/
theorem placed_fresh :
    c.placed 0 [] rest =
      { c with diagnostics := [] }.placed 0 c.diagnostics rest := by
  have same : c.diagnostics.map (Diagnostic.shift 0) = c.diagnostics :=
    List.map_id _
  simp [placed, facing, shift, same]

/-- Nothing is counted along a text without newlines. -/
theorem behind_placed_of_single {lexeme : List Char} (single : '\n' ∉ lexeme)
    (more : List Char) :
    (c.placed lines earlier more).behind lexeme rest =
      c.placed lines earlier rest := by
  simp [placed, facing, behind, List.count_eq_zero_of_not_mem single]

end Cursor

/-! ### Changes to other fields -/

namespace Invocation

/-- Sets a field if there is a value for it. -/
def give (name : String) (value : Option Value) (invocation : Invocation) :
    Invocation :=
  match value with
  | some value => invocation.set name value
  | none => invocation

theorem command_give (name : String) (value : Option Value)
    (invocation : Invocation) :
    (invocation.give name value).command = invocation.command := by
  cases value <;> rfl

/-- The change keeps the command, and it has nothing to do with the field of
this name. -/
structure Spares (alter : Invocation → Invocation) (name : String) :
    Prop where
  command : ∀ invocation, (alter invocation).command = invocation.command
  isSet : ∀ invocation, (alter invocation).arguments.isSet name =
    invocation.arguments.isSet name
  give : ∀ invocation value, (alter invocation).give name value =
    alter (invocation.give name value)

theorem spares_id (name : String) : Spares id name :=
  ⟨fun _ => rfl, fun _ => rfl, fun _ _ => rfl⟩

theorem spares_give {name other : String} (apart : other ≠ name)
    (value : Option Value) : Spares (give name value) other := by
  cases value with
  | none => exact spares_id other
  | some value =>
      refine ⟨fun _ => rfl, fun invocation =>
        Arguments.isSet_set_of_ne apart invocation.arguments value, ?_⟩
      intro invocation value'
      cases value' with
      | none => rfl
      | some value' =>
          have swapped :=
            Arguments.set_comm apart invocation.arguments value value'
          simp only [give, set, swapped]

/-- The two invocations have the same in the field of this name. -/
structure AgreeOn (name : String) (left right : Invocation) : Prop where
  get? : left.arguments.get? name = right.arguments.get? name
  isSet : left.arguments.isSet name = right.arguments.isSet name

theorem agreeOn_give {name other : String} (apart : other ≠ name)
    (value : Option Value) (invocation : Invocation) :
    AgreeOn other (invocation.give name value) invocation := by
  cases value with
  | none => exact ⟨rfl, rfl⟩
  | some value =>
      exact ⟨Arguments.get?_set_of_ne apart _ value,
        Arguments.isSet_set_of_ne apart _ value⟩

theorem AgreeOn.trans {name : String} {first second third : Invocation}
    (left : AgreeOn name first second) (right : AgreeOn name second third) :
    AgreeOn name first third :=
  ⟨left.get?.trans right.get?, left.isSet.trans right.isSet⟩

end Invocation

namespace Parser

/-- The argument list with an altered invocation. -/
def ArgumentList.altered (alter : Invocation → Invocation)
    (state : ArgumentList) : ArgumentList :=
  { state with invocation := alter state.invocation }

/-- The argument list of the same invocation at another place. -/
def ArgumentList.placed (lines : Nat) (earlier : List Diagnostic)
    (rest : List Char) (state : ArgumentList) : ArgumentList :=
  { state with cursor := state.cursor.placed lines earlier rest }

section

variable (dialect : Dialect) (objects : ObjectTable) (start lines : Nat)
  (earlier : List Diagnostic) (state : ArgumentList)

/-- A blank in front of an argument makes no difference. -/
theorem readArguments_blank (rest : List Char) :
    readArguments dialect objects start
        (state.placed lines earlier (' ' :: rest)) =
      readArguments dialect objects start
        (state.placed lines earlier rest) := by
  have blank : isBlank ' ' = true := by decide
  have here : (state.cursor.placed lines earlier (' ' :: rest)).skipBlanks =
      (state.cursor.placed lines earlier rest).skipBlanks := by
    simp [Cursor.skipBlanks, Cursor.skipWhile, Cursor.advance, blank,
      Cursor.placed, Cursor.facing]
  have step : argumentStep dialect objects start
      (state.placed lines earlier (' ' :: rest)) =
        argumentStep dialect objects start
          (state.placed lines earlier rest) := by
    unfold argumentStep
    simp only [ArgumentList.placed, here]
    rfl
  unfold readArguments
  rw [step]
  rfl

/-- Nor does a comma. -/
theorem readArguments_comma (rest : List Char) :
    readArguments dialect objects start
        (state.placed lines earlier (',' :: rest)) =
      readArguments dialect objects start
        (state.placed lines earlier rest) := by
  have here := @Cursor.skipBlanks_eq_self
    (state.cursor.placed lines earlier (',' :: rest)) ',' _ rfl (by decide)
  have next : (state.cursor.placed lines earlier (',' :: rest)).next =
      state.cursor.placed lines earlier rest := by
    rw [Cursor.next_eq_behind rfl,
      Cursor.behind_placed_of_single _ _ _ _ (by decide)]
  have step : argumentStep dialect objects start
      (state.placed lines earlier (',' :: rest)) =
        .continued (state.placed lines earlier rest) := by
    simp only [argumentStep, ArgumentList.placed, here, Cursor.rest_placed,
      Char.reduceEq, if_false, if_true, next]
  exact readArguments_of_continued step

theorem readArguments_commaSeparated (texts : List (List Char))
    (rest : List Char) :
    readArguments dialect objects start
        (state.placed lines earlier (commaSeparated texts ++ rest)) =
      readArguments dialect objects start
        (state.placed lines earlier (Cursor.commaTail texts ++ rest)) := by
  cases texts with
  | nil => rfl
  | cons text texts =>
      rw [Cursor.commaSeparated_cons, Cursor.commaTail_cons, List.cons_append,
        List.cons_append, readArguments_comma, readArguments_blank]

/-- The closing parenthesis ends the list. -/
theorem readArguments_close (rest : List Char) :
    readArguments dialect objects start
        (state.placed lines earlier (')' :: rest)) =
      (state.invocation, state.cursor.placed lines earlier rest) := by
  have step : argumentStep dialect objects start
      (state.placed lines earlier (')' :: rest)) =
        .finished ((state.cursor.placed lines earlier (')' :: rest)).behind
          [')'] rest) :=
    argumentStep_close dialect objects start isBlanks_nil rfl
  rw [readArguments_of_finished step,
    Cursor.behind_placed_of_single _ _ _ _ (by decide)]
  rfl

end

/-! ### One argument -/

/-- The argument is given under a name that leads to its field, with a value of
the type of this field that script text can spell. -/
structure IsGiven (shape : ObjectTable) (fields : List Field)
    (pair : Field × Value) : Prop where
  word : IsIdentifier pair.1.name
  leads : fields.find? (·.accepts pair.1.name) = some pair.1
  scriptable : pair.1.scriptable = true
  typed : pair.2.HasType shape pair.1.type
  spellable : pair.2.Spellable
  nonNull : pair.2.isNullReference = false

/-- What separates the name of an argument from its value. -/
def separatorOf (equals : Bool) : Char :=
  if equals then '=' else ' '

/-- An argument with any name, and with an equals sign or a blank behind it. -/
def namedText (name : String) (equals : Bool) (value : Value) : List Char :=
  name.toList ++ separatorOf equals :: value.encodeChars

theorem argumentName?_namedText {name : String} (word : IsIdentifier name)
    {value : Value} (spellable : value.Spellable)
    (nonNull : value.isNullReference = false) (equals : Bool)
    (rest : List Char) :
    argumentName? (namedText name equals value ++ rest) =
      some (⟨name, equals⟩, value.encodeChars ++ rest) := by
  rw [namedText, List.append_assoc, List.cons_append]
  cases equals with
  | true => exact argumentName?_equals word isBlanks_nil _
  | false =>
      obtain ⟨head, tail, chars, visible, begins, noEquals⟩ :=
        begins_laid spellable nonNull value.laid_encodeChars
      have blank : IsBlanks [' '] := by decide
      rw [chars]
      exact argumentName?_apart word blank (List.cons_ne_nil _ _)
        (isPlainBlank_eq_false visible) begins noEquals _

/-- An argument with any name that leads to its field. -/
structure NamedArgument where
  field : Field
  value : Value
  name : String
  /-- Whether the name is told from the value by an equals sign. -/
  equals : Bool

namespace NamedArgument

def text (argument : NamedArgument) : List Char :=
  namedText argument.name argument.equals argument.value

/-- The name leads to the field, and the value has the type of this field and
is one that script text can spell. -/
structure IsGiven (shape : ObjectTable) (fields : List Field)
    (argument : NamedArgument) : Prop where
  word : IsIdentifier argument.name
  leads : fields.find? (·.accepts argument.name) = some argument.field
  scriptable : argument.field.scriptable = true
  typed : argument.value.HasType shape argument.field.type
  spellable : argument.value.Spellable
  nonNull : argument.value.isNullReference = false

/-- A field under its own name, with an equals sign. -/
def ofPair (pair : Field × Value) : NamedArgument :=
  ⟨pair.1, pair.2, pair.1.name, true⟩

end NamedArgument

theorem IsGiven.named {shape : ObjectTable} {fields : List Field}
    {pair : Field × Value} (given : IsGiven shape fields pair) :
    (NamedArgument.ofPair pair).IsGiven shape fields :=
  ⟨given.word, given.leads, given.scriptable, given.typed, given.spellable,
    given.nonNull⟩

/-- The second list is the first one behind the text of some arguments. -/
structure ArgumentList.Beyond (before : ArgumentList) (text : List Char)
    (after : ArgumentList) : Prop where
  line : after.cursor.line = before.cursor.line + text.count '\n'
  command : after.cursor.command = before.cursor.command
  argument : after.cursor.argument = none
  invoked : after.invocation.command = before.invocation.command

theorem newline_not_mem_of_isIdentifier {name : String}
    (word : IsIdentifier name) : '\n' ∉ name.toList := by
  obtain ⟨head, tail, chars, starts, all⟩ := exists_cons_of_isIdentifier word
  rw [chars]
  intro member
  have isWordNewline : isWord '\n' = true := by
    rcases List.mem_cons.mp member with same | later
    · rw [same]
      exact isWord_of_isWordStart starts
    · exact all _ later
  exact absurd isWordNewline (by decide)

theorem newline_not_mem_nameText {name : String} (word : IsIdentifier name)
    (equals : Bool) : '\n' ∉ name.toList ++ [separatorOf equals] := by
  rw [List.mem_append, List.mem_singleton, not_or]
  refine ⟨newline_not_mem_of_isIdentifier word, ?_⟩
  cases equals <;> decide

theorem namedText_eq_append (name : String) (equals : Bool) (value : Value) :
    namedText name equals value =
      (name.toList ++ [separatorOf equals]) ++ value.encodeChars := by
  simp [namedText]

/-- Only the value of an argument takes lines. -/
theorem count_newline_namedText {name : String} (word : IsIdentifier name)
    (equals : Bool) (value : Value) :
    (namedText name equals value).count '\n' =
      value.encodeChars.count '\n' := by
  rw [namedText_eq_append, List.count_append, Nat.add_eq_right]
  exact List.count_eq_zero_of_not_mem (newline_not_mem_nameText word equals)

section

variable {dialect : Dialect} (objects : ObjectTable) (start lines : Nat)
  (earlier : List Diagnostic) {state : ArgumentList} {name : String}
  {value : Value}

/-- A name in front of a value begins a named argument. -/
theorem argumentStep_namedText (word : IsIdentifier name)
    (spellable : value.Spellable) (nonNull : value.isNullReference = false)
    (equals : Bool) (rest : List Char) :
    argumentStep dialect objects start
        (state.placed lines earlier (namedText name equals value ++ rest)) =
      let read := readNamed dialect objects ⟨name, equals⟩
        (state.cursor.placed lines earlier (value.encodeChars ++ rest)) state
      .continued { read with cursor := finishArgument read.cursor } := by
  have split : namedText name equals value ++ rest =
      name.toList ++ ([separatorOf equals] ++ (value.encodeChars ++ rest)) := by
    simp [namedText]
  have named := argumentName?_namedText word spellable nonNull equals rest
  rw [split] at named ⊢
  rw [argumentStep_name dialect objects start isBlanks_nil.isSpace word named
    rfl]
  dsimp only [ArgumentList.placed]
  rw [List.nil_append, Cursor.behind_placed_of_single _ _ _ _
    (newline_not_mem_nameText word equals)]
  rfl

/-- The end of an argument is the comma behind it, or the parenthesis. -/
theorem readArguments_finishArgument {rest : List Char}
    (delimited : Delimited rest) (after : ArgumentList) :
    readArguments dialect objects start
        { after with
          cursor := finishArgument (after.cursor.placed lines earlier rest) } =
      readArguments dialect objects start
        ({ after with cursor := after.cursor.leaveArgument }.placed lines
          earlier rest) := by
  obtain ⟨mark, tail, rfl, isMark⟩ := delimited
  rcases isMark with rfl | rfl
  · have here := @Cursor.skipBlanks_eq_self
      (after.cursor.placed lines earlier (',' :: tail)) ',' _ rfl (by decide)
    have unread : (after.cursor.placed lines earlier
        (',' :: tail)).skipBlanks.rest = ',' :: tail := by
      rw [here]
      rfl
    rw [readArguments_comma, finishArgument_comma unread, here,
      Cursor.behind_placed_of_single _ _ _ _ (by decide)]
    rfl
  · have here := @Cursor.skipBlanks_eq_self
      (after.cursor.placed lines earlier (')' :: tail)) ')' _ rfl (by decide)
    have unread : (after.cursor.placed lines earlier
        (')' :: tail)).skipBlanks.rest = ')' :: tail := by
      rw [here]
      rfl
    rw [finishArgument_close unread, here]
    rfl

/-- The value of a given argument is read for its field, with a warning if the
field is set already. -/
theorem readNamed_given {shape : ObjectTable}
    (either : dialect.separator = .either) {argument : NamedArgument}
    (given : argument.IsGiven shape state.invocation.fields) :
    ∃ here : Cursor, here.line = state.cursor.line ∧
      here.command = state.cursor.command ∧
      ∀ alter, Invocation.Spares alter argument.field.name →
        ∀ lines earlier rest,
          readNamed dialect objects ⟨argument.name, argument.equals⟩
              (state.cursor.placed lines earlier rest)
              (state.altered alter) =
            readField objects argument.field (here.placed lines earlier rest)
              (state.altered alter) := by
  have allowed : ∀ c, checkSeparator dialect argument.equals c = c := by
    intro c
    simp [checkSeparator, either]
  have leads : ∀ alter, Invocation.Spares alter argument.field.name →
      (alter state.invocation).fields.find? (·.accepts argument.name) =
        some argument.field := by
    intro alter spares
    rw [Invocation.fields, spares.command]
    exact given.leads
  cases set : state.invocation.arguments.isSet argument.field.name with
  | false =>
      refine ⟨state.cursor.inArgument argument.name, rfl, rfl, ?_⟩
      intro alter spares lines earlier rest
      simp [readNamed, allowed, ArgumentList.altered, leads alter spares,
        given.scriptable, spares.isSet, set]
  | true =>
      refine ⟨(state.cursor.inArgument argument.name).warn
        (.repeatedArgument argument.name), rfl, rfl, ?_⟩
      intro alter spares lines earlier rest
      simp [readNamed, allowed, ArgumentList.altered, leads alter spares,
        given.scriptable, spares.isSet, set]

theorem readField_eq_give (field : Field) (c : Cursor)
    (state : ArgumentList) :
    readField objects field c state =
      { state with
        cursor := (c.readValue objects field.type).2
        invocation := state.invocation.give field.name
          (c.readValue objects field.type).1 } := by
  rw [readField]
  split <;> rename_i read <;> rw [read] <;> rfl

/-- A value that is read from its own text is read so wherever it stands. -/
theorem readField_placed {field : Field} {lexeme : List Char}
    (alone : Cursor.ReadsAlone (Cursor.readValue objects field.type) lexeme)
    (state : ArgumentList) (here : Cursor) :
    ∃ after : ArgumentList, here.Beyond lexeme after.cursor ∧
      (∃ value, after.invocation = state.invocation.give field.name value) ∧
      ∀ alter, Invocation.Spares alter field.name →
        ∀ lines earlier rest, EndsToken rest →
          readField objects field (here.placed lines earlier (lexeme ++ rest))
              (state.altered alter) =
            (after.altered alter).placed lines earlier rest := by
  obtain ⟨found, last, beyond, reads⟩ := alone here
  refine ⟨{ state with
    cursor := last
    invocation := state.invocation.give field.name found }, beyond,
    ⟨found, rfl⟩, ?_⟩
  intro alter spares lines earlier rest ends
  have shifted := Cursor.shifts_readValue objects field.type lines earlier
    (here.facing (lexeme ++ rest))
  rw [reads rest ends] at shifted
  have placed : (here.placed lines earlier (lexeme ++ rest)).readValue objects
      field.type = (found, last.placed lines earlier rest) := shifted
  rw [readField_eq_give, placed]
  simp only [ArgumentList.altered, spares.give]
  rfl

/-- An argument that is given for a field is read the same wherever the list
stands and however it goes on. -/
theorem readArguments_given {shape : ObjectTable}
    (either : dialect.separator = .either) {argument : NamedArgument}
    (given : argument.IsGiven shape state.invocation.fields) :
    ∃ after, state.Beyond argument.text after ∧
      (∃ value, after.invocation =
        state.invocation.give argument.field.name value) ∧
      ∀ alter, Invocation.Spares alter argument.field.name →
        ∀ start lines earlier rest, Delimited rest →
          readArguments dialect objects start ((state.altered alter).placed
              lines earlier (argument.text ++ rest)) =
            readArguments dialect objects start
              ((after.altered alter).placed lines earlier rest) := by
  obtain ⟨here, line, command, named⟩ := readNamed_given objects either given
  obtain ⟨last, beyond, ⟨value, gave⟩, read⟩ := readField_placed objects
    (Cursor.readsAlone_readValue objects given.typed given.spellable
      given.nonNull argument.value.laid_encodeChars) state here
  have invoked := (congrArg Invocation.command gave).trans
    (Invocation.command_give _ _ _)
  refine ⟨{ last with cursor := last.cursor.leaveArgument },
    ⟨?_, beyond.command.trans command, rfl, invoked⟩, ⟨value, gave⟩, ?_⟩
  · have lines := count_newline_namedText given.word argument.equals
      argument.value
    exact (beyond.line.trans (congrArg (· + _) line)).trans
      (congrArg (_ + ·) lines.symm)
  · intro alter spares start lines earlier rest delimited
    have step := @argumentStep_namedText dialect objects start lines earlier
      (state.altered alter) _ _ given.word given.spellable given.nonNull
      argument.equals rest
    have argumentRead : readNamed dialect objects
        ⟨argument.name, argument.equals⟩
        ((state.altered alter).cursor.placed lines earlier
          (argument.value.encodeChars ++ rest)) (state.altered alter) =
          (last.altered alter).placed lines earlier rest :=
      (named alter spares lines earlier _).trans
        (read alter spares lines earlier rest delimited.endsToken)
    rw [argumentRead] at step
    exact (readArguments_of_continued step).trans
      (readArguments_finishArgument objects start lines earlier delimited
        (last.altered alter))

/-! ### One argument after another -/

theorem delimited_commaTail (texts : List (List Char)) {rest : List Char}
    (delimited : Delimited rest) :
    Delimited (Cursor.commaTail texts ++ rest) := by
  cases texts with
  | nil => exact delimited
  | cons text texts =>
      rw [Cursor.commaTail_cons]
      exact delimited_comma _

theorem commaTail_append (left right : List (List Char)) :
    Cursor.commaTail (left ++ right) =
      Cursor.commaTail left ++ Cursor.commaTail right :=
  List.flatMap_append

theorem readArguments_commaTail_cons (text : List Char)
    (texts : List (List Char)) (rest : List Char) :
    readArguments dialect objects start (state.placed lines earlier
        (Cursor.commaTail (text :: texts) ++ rest)) =
      readArguments dialect objects start (state.placed lines earlier
        (text ++ (Cursor.commaTail texts ++ rest))) := by
  rw [Cursor.commaTail_cons, List.cons_append, List.cons_append,
    List.append_assoc, readArguments_comma, readArguments_blank]

/-- Given arguments one after another are read the same wherever the list stands
and however it goes on.  They set no other fields. -/
theorem readArguments_givens {shape : ObjectTable}
    (either : dialect.separator = .either) (arguments : List NamedArgument)
    (state : ArgumentList)
    (given : ∀ argument ∈ arguments,
      argument.IsGiven shape state.invocation.fields)
    (outside : state.cursor.argument = none) :
    ∃ after, state.Beyond (arguments.flatMap (·.text)) after ∧
      (∀ name, (∀ argument ∈ arguments, name ≠ argument.field.name) →
        after.invocation.AgreeOn name state.invocation) ∧
      ∀ alter, (∀ argument ∈ arguments,
          Invocation.Spares alter argument.field.name) →
        ∀ start lines earlier rest, Delimited rest →
          readArguments dialect objects start ((state.altered alter).placed
              lines earlier
              (Cursor.commaTail (arguments.map (·.text)) ++ rest)) =
            readArguments dialect objects start
              ((after.altered alter).placed lines earlier rest) := by
  induction arguments generalizing state with
  | nil =>
      exact ⟨state, ⟨rfl, rfl, outside, rfl⟩, fun _ _ => ⟨rfl, rfl⟩,
        fun _ _ _ _ _ _ _ => rfl⟩
  | cons argument arguments induction =>
      obtain ⟨next, beyond, ⟨value, gave⟩, first⟩ := readArguments_given
        objects either (given argument List.mem_cons_self)
      have sameFields : next.invocation.fields = state.invocation.fields :=
        congrArg Command.fields beyond.invoked
      obtain ⟨after, further, agrees, later⟩ := induction next
        (fun other member => by
          rw [sameFields]
          exact given other (List.mem_cons_of_mem argument member))
        beyond.argument
      refine ⟨after, ⟨?_, further.command.trans beyond.command,
        further.argument, further.invoked.trans beyond.invoked⟩, ?_, ?_⟩
      · rw [further.line, beyond.line, List.flatMap_cons, List.count_append,
          Nat.add_assoc]
      · intro name apart
        have here := Invocation.agreeOn_give (apart argument
          List.mem_cons_self) value state.invocation
        rw [← gave] at here
        exact (agrees name fun other member =>
          apart other (List.mem_cons_of_mem argument member)).trans here
      · intro alter spares start lines earlier rest delimited
        have behind := delimited_commaTail (arguments.map (·.text)) delimited
        rw [List.map_cons, readArguments_commaTail_cons,
          first alter (spares argument List.mem_cons_self) _ _ _ _ behind,
          later alter (fun other member =>
            spares other (List.mem_cons_of_mem argument member)) _ _ _ _
            delimited]

/-- Something that stands among given arguments makes a difference only by what
it changes where it stands, as long as it has nothing to do with the fields of
the arguments behind it. -/
theorem readArguments_among {shape : ObjectTable}
    (either : dialect.separator = .either) {before after : List NamedArgument}
    (given : ∀ argument ∈ before ++ after,
      argument.IsGiven shape state.invocation.fields)
    (outside : state.cursor.argument = none) :
    ∃ (middle : ArgumentList) (told : List Diagnostic) (last : ArgumentList),
      state.Beyond (before.flatMap (·.text)) middle ∧
      middle.cursor.diagnostics = [] ∧
      (∀ name, (∀ argument ∈ before, name ≠ argument.field.name) →
        middle.invocation.AgreeOn name state.invocation) ∧
      (∀ name, (∀ argument ∈ after, name ≠ argument.field.name) →
        last.invocation.AgreeOn name middle.invocation) ∧
      ∀ texts alter lines added start, (∀ argument ∈ after,
          Invocation.Spares alter argument.field.name) →
        (∀ rest, Delimited rest →
          readArguments dialect objects start (middle.placed 0 told
              (Cursor.commaTail texts ++ rest)) =
            readArguments dialect objects start
              ((middle.altered alter).placed lines added rest)) →
        ∀ rest, readArguments dialect objects start (state.placed 0 []
            (commaSeparated (before.map (·.text) ++
              (texts ++ after.map (·.text))) ++ ')' :: rest)) =
          (alter last.invocation, last.cursor.placed lines added rest) := by
  obtain ⟨middle, beyond, kept, first⟩ := readArguments_givens objects either
    before state (fun argument member =>
      given argument (List.mem_append_left _ member)) outside
  let fresh : ArgumentList :=
    { middle with cursor := { middle.cursor with diagnostics := [] } }
  have told : ∀ rest, middle.placed 0 [] rest =
      fresh.placed 0 middle.cursor.diagnostics rest := by
    intro rest
    rw [ArgumentList.placed, Cursor.placed_fresh]
    rfl
  have fields : fresh.invocation.fields = state.invocation.fields :=
    congrArg Command.fields beyond.invoked
  obtain ⟨last, _, keptBehind, later⟩ := readArguments_givens objects either
    after fresh (fun argument member => by
      rw [fields]
      exact given argument (List.mem_append_right _ member))
    beyond.argument
  refine ⟨fresh, middle.cursor.diagnostics, last,
    ⟨beyond.line, beyond.command, beyond.argument, beyond.invoked⟩, rfl, kept,
    keptBehind, ?_⟩
  intro texts alter lines added start spares changes rest
  have closed := delimited_close rest
  have behind := delimited_commaTail (after.map (·.text)) closed
  have front := first id (fun _ _ => Invocation.spares_id _) start 0 []
  rw [readArguments_commaSeparated, commaTail_append, commaTail_append,
    List.append_assoc, List.append_assoc]
  exact (front _ (delimited_commaTail texts behind)).trans
    ((congrArg (readArguments dialect objects start) (told _)).trans
      ((changes _ behind).trans
        ((later alter spares start lines added _ closed).trans
          (readArguments_close dialect objects start lines added
            (last.altered alter) rest))))

end

end Parser

end GridScript
