import GridScript.Proofs.CommandText
import GridScript.Proofs.Recovery
import GridScript.Proofs.Statements
import GridScript.Proofs.Straying

/-!
# A badly typed argument and its neighbours

An argument may be given the text of a value that does not have its type.
Where reading resumes right behind that text, no other argument and no later
statement is touched, whatever they are.  Where it does not, some call loses an
argument or sets one that it never mentions.
-/

namespace GridScript

/-- A call that gives `field` some value and the `others` values of their
types, with a script behind it. -/
structure Scene where
  registry : Registry
  objects : ObjectTable
  command : Command
  field : Field
  others : List (Field × Value)
  following : String

namespace Scene

/-- The command is registered and well named, and the fields are different ones
of its fields that scripts may set. -/
structure Proper (scene : Scene) : Prop where
  registered : scene.registry.named? scene.command.name = some scene.command
  named : scene.command.WellNamed
  member : scene.field ∈ scene.command.fields
  scriptable : scene.field.scriptable = true
  areArguments : ∀ pair ∈ scene.others,
    IsArgument scene.objects scene.command.fields pair
  distinct : (scene.field.name :: scene.others.map (·.1.name)).Nodup

/-- The call, with `value` for the field. -/
def call (scene : Scene) (value : Value) : List Char :=
  scene.command.name.toList ++ '(' ::
    (commaSeparated (((scene.field, value) :: scene.others).map argumentText) ++
      [')'])

/-- The call and, on the next line, what follows it. -/
def text (scene : Scene) (value : Value) : String :=
  String.ofList (scene.call value ++ '\n' :: scene.following.toList)

/-- The value harms no more than its own field: the other arguments have their
values, less null references in arrays, fields that the call does not mention
have their defaults, and the script behind it is read as if it stood alone. -/
def Isolated (scene : Scene) (value : Value) : Prop :=
  ∃ first : Invocation,
    (parseScript scene.registry {} scene.objects
        (scene.text value)).invocations =
      first :: (parseScript scene.registry {} scene.objects
        scene.following).invocations.map
          (Invocation.shift ((scene.call value).count '\n' + 1)) ∧
    first.command = scene.command ∧
    (∀ pair ∈ scene.others,
      first.arguments.get? pair.1.name = some pair.2.pruned) ∧
    (∀ field ∈ scene.command.fields, field.name ≠ scene.field.name →
      (∀ pair ∈ scene.others, field.name ≠ pair.1.name) →
        first.arguments.get? field.name = some field.default)

/-- What stands behind the value of the field. -/
def behind (scene : Scene) : List Char :=
  Cursor.commaTail (scene.others.map argumentText) ++
    ')' :: '\n' :: scene.following.toList

/-- The argument list of the call, with nothing read yet. -/
def opened (scene : Scene) (value : Value) : Parser.ArgumentList :=
  Parser.openedList scene.command (.ofText (scene.text value)) []
    (argumentText (scene.field, value) ++ scene.behind)

/-- The cursor at the value of the field. -/
def atValue (scene : Scene) (value : Value) : Cursor :=
  ((scene.opened value).cursor.behind (scene.field.name.toList ++ ['='])
    (value.encodeChars ++ scene.behind)).inArgument scene.field.name

/-- The argument list behind the field and its value. -/
def state (scene : Scene) (value : Value) : Parser.ArgumentList :=
  Parser.passField scene.objects scene.field (scene.atValue value)
    (scene.opened value)

theorem toList_text (scene : Scene) (value : Value) :
    (scene.text value).toList = scene.command.name.toList ++ '(' ::
      (argumentText (scene.field, value) ++ scene.behind) := by
  simp [text, call, behind, Cursor.commaSeparated_cons]

/-- The text is read as a call whose list goes on behind the field. -/
theorem parseScript_text {scene : Scene} (proper : scene.Proper)
    (value : Value) :
    ∃ start,
      let read := Parser.readArguments {} scene.objects start
        (scene.state value)
      (Cursor.ofText (scene.text value)).Reaches read.2.leaveCommand ∧
        (parseScript scene.registry {} scene.objects
          (scene.text value)).invocations =
            read.1 :: (Parser.readScript scene.registry {} scene.objects
              read.2.leaveCommand).1 := by
  have registered : scene.registry.get? scene.command.name =
      some scene.command := by
    simp [Registry.get?, proper.registered]
  have unread := (Cursor.rest_ofText (scene.text value)).trans
    (scene.toList_text value)
  obtain ⟨head, tail, chars, starts, _⟩ :=
    Parser.exists_cons_of_isIdentifier proper.named.name
  obtain ⟨start, read⟩ := Parser.readStatement_opened registered
    proper.named.name {} scene.objects isBlanks_nil unread
  have field : (scene.opened value).invocation.fields.find?
      (·.accepts scene.field.name) = some scene.field :=
    Parser.find?_accepts proper.named.apart proper.member
      (Parser.accepts_name scene.field)
  have unset : (scene.opened value).invocation.arguments.isSet
      scene.field.name = false :=
    Arguments.isSet_ofDefaults _ _
  have split : (scene.opened value).cursor.rest =
      [] ++ (scene.field.name.toList ++ (['='] ++
        (value.encodeChars ++ scene.behind))) := by
    simp [opened, Parser.openedList, argumentText]
  have word := proper.named.fields _ proper.member
  have step := Parser.argumentStep_named {} scene.objects start isBlanks_nil
    word (Parser.argumentName?_equals word isBlanks_nil _) field
    proper.scriptable unset split
  refine ⟨start, ?_⟩
  rw [chars] at unread
  have list : Parser.readArguments {} scene.objects start
      (Parser.openedList scene.command (.ofText (scene.text value)) []
        (argumentText (scene.field, value) ++ scene.behind)) =
      Parser.readArguments {} scene.objects start (scene.state value) :=
    Parser.readArguments_of_continued step
  rw [list] at read
  constructor
  · have forward := Parser.reaches_readStatement scene.registry {}
      scene.objects (.ofText (scene.text value))
    rwa [read] at forward
  · rw [parseScript, Parser.readScript_statement _ _ unread starts, read]
    rfl

theorem delimited_behind (scene : Scene) : Delimited scene.behind := by
  unfold behind
  cases scene.others with
  | nil => exact delimited_close _
  | cons pair others =>
      rw [List.map_cons, Cursor.commaTail_cons]
      exact delimited_comma _

/-- The field has what is read for it, and no other field is set. -/
theorem state_invocation (scene : Scene) (value : Value) :
    (scene.state value).invocation = (scene.opened value).invocation ∨
      ∃ found, (scene.state value).invocation =
        (scene.opened value).invocation.set scene.field.name found := by
  simp only [state, Parser.passField, Parser.readField]
  split
  · rename_i found _
    exact .inr ⟨found, rfl⟩
  · exact .inl rfl

theorem state_cursor (scene : Scene) (value : Value) :
    (scene.state value).cursor =
      (Parser.skipComma (Parser.resume scene.objects scene.field.type
        (scene.atValue value))).leaveArgument := by
  have cursor : (Parser.readField scene.objects scene.field
      (scene.atValue value) (scene.opened value)).cursor =
        ((scene.atValue value).readValue scene.objects
          scene.field.type).2 := by
    unfold Parser.readField
    dsimp only
    split <;> rfl
  rw [state, Parser.passField, Parser.resume]
  dsimp only
  rw [cursor, Parser.finishArgument_eq]

theorem passed_state (scene : Scene) (value : Value) :
    (scene.state value).passed = 0 := by
  simp only [state, Parser.passField, Parser.readField]
  split <;> rfl

theorem fields_state (scene : Scene) (value : Value) :
    (scene.state value).invocation.command = scene.command := by
  rcases scene.state_invocation value with same | ⟨found, set⟩
  · rw [same]
    rfl
  · rw [set]
    rfl

theorem get?_state {scene : Scene} (proper : scene.Proper) (value : Value)
    {field : Field} (member : field ∈ scene.command.fields)
    (apart : field.name ≠ scene.field.name) :
    (scene.state value).invocation.arguments.get? field.name =
      some field.default := by
  have default := Arguments.get?_ofDefaults
    (Parser.nodup_names proper.named.apart) member
  rcases scene.state_invocation value with same | ⟨found, set⟩
  · rw [same]
    exact default
  · rw [set]
    exact (Arguments.get?_set_of_ne apart _ _).trans default

theorem isSet_state {scene : Scene} (value : Value) {name : String}
    (apart : name ≠ scene.field.name) :
    (scene.state value).invocation.arguments.isSet name = false := by
  rcases scene.state_invocation value with same | ⟨found, set⟩
  · rw [same]
    exact Arguments.isSet_ofDefaults _ _
  · rw [set]
    exact (Arguments.isSet_set_of_ne apart _ _).trans
      (Arguments.isSet_ofDefaults _ _)

theorem names_state (scene : Scene) (value : Value) :
    (scene.state value).invocation.arguments.slots.map (·.name) =
      scene.command.fields.map (·.name) := by
  rcases scene.state_invocation value with same | ⟨found, set⟩
  · rw [same]
    exact Arguments.names_ofDefaults _
  · rw [set]
    exact (Arguments.names_setSlots _ _ _).trans (Arguments.names_ofDefaults _)

theorem rest_state_of_resumes {scene : Scene} {value : Value}
    (resumed : Parser.resumes scene.field.type value = true) :
    ∃ lead, IsBlanks lead ∧ (scene.state value).cursor.rest =
      lead ++ (commaSeparated (scene.others.map argumentText) ++
        ')' :: '\n' :: scene.following.toList) := by
  have resume := Parser.resume_of_resumes resumed scene.objects
    scene.delimited_behind (c := scene.atValue value) rfl
  rw [state_cursor]
  change ∃ lead, IsBlanks lead ∧ (Parser.skipComma _).rest = _
  generalize Parser.resume scene.objects scene.field.type
    (scene.atValue value) = after at resume
  unfold behind at resume
  cases others : scene.others with
  | nil =>
      rw [others] at resume
      exact ⟨[], isBlanks_nil, Parser.rest_skipComma_close resume⟩
  | cons pair others =>
      rw [others, List.map_cons, Cursor.commaTail_cons] at resume
      refine ⟨[' '], by decide, ?_⟩
      rw [Parser.rest_skipComma_comma resume]
      simp [Cursor.commaSeparated_cons]

/-- Where reading resumes behind the value, the other arguments are read. -/
theorem readArguments_state {scene : Scene} (proper : scene.Proper)
    {value : Value} (start : Nat)
    (resumed : Parser.resumes scene.field.type value = true) :
    let read := Parser.readArguments {} scene.objects start (scene.state value)
    read.1 = { (scene.state value).invocation with
        arguments := (scene.state value).invocation.arguments.setAll
          (reread scene.objects scene.others) } ∧
      read.2.rest = '\n' :: scene.following.toList := by
  obtain ⟨absent, distinct⟩ := List.nodup_cons.mp proper.distinct
  obtain ⟨lead, leading, unread⟩ := rest_state_of_resumes resumed
  rw [← List.append_assoc] at unread
  have spaced := spaced_commaSeparated leading scene.others
    fun pair _ => Dialect.spells_argumentText {} pair
  have idle : (scene.state value).cursor.argument = none := by
    rw [state_cursor]
    rfl
  have fields : (scene.state value).invocation.fields =
      scene.command.fields := by
    rw [Invocation.fields, fields_state]
  have unset : ∀ pair ∈ scene.others,
      (scene.state value).invocation.arguments.isSet pair.1.name = false := by
    intro pair member
    apply isSet_state
    intro same
    exact absent (same ▸ List.mem_map.mpr ⟨pair, member, rfl⟩)
  obtain ⟨invocation, passes⟩ := Parser.readArguments_text scene.objects start
    spaced (scene.state value)
    (fun pair member =>
      proper.named.fields pair.1 (proper.areArguments pair member).member)
    (by rw [fields]; exact proper.named.apart)
    (by rw [fields]; exact proper.areArguments)
    distinct unset idle unread
  refine ⟨invocation, ?_⟩
  have left := passes.rest.symm.trans unread
  simpa using left

theorem isolated_of_resumes {scene : Scene} (proper : scene.Proper)
    {value : Value}
    (resumed : Parser.resumes scene.field.type value = true) :
    scene.Isolated value := by
  obtain ⟨absent, distinct⟩ := List.nodup_cons.mp proper.distinct
  obtain ⟨start, forward, parsed⟩ := parseScript_text proper value
  obtain ⟨invocation, left⟩ := readArguments_state proper start resumed
  generalize Parser.readArguments {} scene.objects start
    (scene.state value) = read at forward parsed invocation left
  refine ⟨read.1, ?_, ?_, ?_, ?_⟩
  · have newline : read.2.leaveCommand.rest =
        '\n' :: scene.following.toList := left
    have passed : (Cursor.ofText (scene.text value)).rest =
        scene.call value ++ read.2.leaveCommand.rest := by
      rw [newline, Cursor.ofText, text, String.toList_ofList]
    have line := forward.line_eq passed
    have further : (read.2.leaveCommand.behind ['\n']
        scene.following.toList).line =
          1 + ((scene.call value).count '\n' + 1) := by
      rw [Cursor.line_behind, line, List.count_singleton_self, Nat.add_assoc]
      rfl
    rw [parsed, Parser.readScript_newline _ _ _ newline,
      Parser.readScript_idle _ _ _ ⟨rfl, rfl⟩ further rfl]
  · rw [invocation]
    exact scene.fields_state value
  · intro pair member
    have known := (proper.areArguments pair member).typed.knownIn.pruned
    have inReread : (pair.1, pair.2.pruned.resolved scene.objects) ∈
        reread scene.objects scene.others :=
      List.mem_map.mpr ⟨pair, member, rfl⟩
    have names :
        ((reread scene.objects scene.others).map (·.1.name)).Nodup := by
      simpa [reread, Function.comp_def] using distinct
    have present : pair.1.name ∈
        (scene.state value).invocation.arguments.slots.map (·.name) := by
      rw [names_state]
      exact List.mem_map.mpr
        ⟨pair.1, (proper.areArguments pair member).member, rfl⟩
    have held := Arguments.get?_setAll_of_mem names inReread present
    rw [Value.resolved_eq_self _ known] at held
    rw [invocation]
    exact held
  · intro field member apart unmentioned
    have untouched : ∀ pair ∈ reread scene.objects scene.others,
        field.name ≠ pair.1.name := by
      intro pair inReread
      obtain ⟨other, inOthers, rfl⟩ := List.mem_map.mp inReread
      exact unmentioned other inOthers
    rw [invocation]
    exact (Arguments.get?_setAll_of_not_mem _ _ untouched).trans
      (get?_state proper value member apart)

end Scene

end GridScript
