import GridScript.Proofs.Isolation

/-!
# The damage that a badly typed argument does

Where reading does not resume behind the text of a value, either the argument
list ends early or the rest of the text strays into a field that the call does
not mention.  One call shows whichever happens, so `Parser.resumes` is the exact
condition for a value to harm no more than its own field.
-/

namespace GridScript

namespace Scene

/-- If the list ends where reading resumes, the other arguments are lost. -/
theorem not_isolated_of_finished {scene : Scene} (proper : scene.Proper)
    {value : Value} {pair : Field × Value} (member : pair ∈ scene.others)
    (differs : pair.2.pruned ≠ pair.1.default)
    (ended : ∀ start, (Parser.readArguments {} scene.objects start
      (scene.state value)).1 = (scene.state value).invocation) :
    ¬scene.Isolated value := by
  rintro ⟨first, invocations, _, held, _⟩
  obtain ⟨start, _, parsed⟩ := parseScript_text proper value
  rw [ended, invocations] at parsed
  injection parsed with same
  obtain ⟨absent, _⟩ := List.nodup_cons.mp proper.distinct
  have apart : pair.1.name ≠ scene.field.name := by
    intro same
    exact absent (same ▸ List.mem_map.mpr ⟨pair, member, rfl⟩)
  have default := get?_state proper value
    (proper.areArguments pair member).member apart
  have other := held pair member
  rw [same, default] at other
  injection other with other
  exact differs other.symm

/-- The field has been given some text, no longer than `bound`. -/
structure Strayed (scene : Scene) (field : Field) (bound : Nat)
    (invocation : Invocation) : Prop where
  command : invocation.command = scene.command
  present : field.name ∈ invocation.arguments.slots.map (·.name)
  text : ∃ text : String, text.length ≤ bound ∧
    invocation.arguments.get? field.name = some (.string text)

/-- Once a string field has a text that was read, it never has any other kind
of text again. -/
theorem Strayed.sets {scene : Scene} (proper : scene.Proper) {field : Field}
    (member : field ∈ scene.command.fields) (type : field.type = .string)
    {bound : Nat} {c : Cursor} (fits : c.rest.length ≤ bound)
    {before after : Invocation} (strayed : Strayed scene field bound before)
    (sets : Parser.Sets scene.objects c before after) :
    Strayed scene field bound after := by
  obtain ⟨command, present, text, short, held⟩ := strayed
  obtain ⟨other, inFields, _, start, value, reached, read, rfl⟩ := sets
  have names : (before.set other.name value).arguments.slots.map (·.name) =
      before.arguments.slots.map (·.name) := Arguments.names_setSlots _ _ _
  refine ⟨command, by rw [names]; exact present, ?_⟩
  by_cases same : field.name = other.name
  · rw [Invocation.fields, command] at inFields
    have isField : field = other := Field.eq_of_name_eq
      (Parser.nodup_names proper.named.apart) member inFields same
    subst isField
    rw [type] at read
    obtain ⟨text, rfl, shorter⟩ := Cursor.readValue_string scene.objects read
    exact ⟨text, Nat.le_trans shorter (Nat.le_trans reached.length_le fits),
      Arguments.get?_set_self _ present⟩
  · exact ⟨text, short, (Arguments.get?_set_of_ne same _ _).trans held⟩

/-- A field that the next argument gives some text ends up with some text. -/
theorem strayed_readArguments {scene : Scene} (proper : scene.Proper)
    {value : Value} {field : Field} (member : field ∈ scene.command.fields)
    (type : field.type = .string) (start : Nat) {next : Parser.ArgumentList}
    (forward : (scene.state value).cursor.Reaches next.cursor)
    (invocation : next.invocation = (scene.state value).invocation)
    {head : Char} {tail : List Char}
    (here : next.cursor.skipBlanks.rest = head :: tail)
    (noClose : head ≠ ')') (noComma : head ≠ ',') {stray : String}
    (short : stray.length ≤ next.cursor.skipBlanks.rest.length)
    (read : (Parser.readArgument {} scene.objects next.cursor.skipBlanks
      next).invocation = next.invocation.set field.name (.string stray)) :
    Strayed scene field (scene.state value).cursor.rest.length
      (Parser.readArguments {} scene.objects start next).1 := by
  have step : Parser.argumentStep {} scene.objects start next = .continued
      { Parser.readArgument {} scene.objects next.cursor.skipBlanks next with
        cursor := Parser.finishArgument (Parser.readArgument {}
          scene.objects next.cursor.skipBlanks next).cursor } := by
    simp only [Parser.argumentStep, here, noClose, noComma, if_false]
  have onwards := Parser.reaches_argumentStep {} scene.objects start next
  rw [step] at onwards
  rw [Parser.readArguments_of_continued step]
  apply Parser.readArguments_keeps
  · intro c before after reached strayed sets
    have fits := (forward.trans (onwards.trans reached)).length_le
    exact strayed.sets proper member type fits sets
  · have names : field.name ∈
        (scene.state value).invocation.arguments.slots.map (·.name) := by
      rw [names_state]
      exact List.mem_map.mpr ⟨field, member, rfl⟩
    rw [read, invocation]
    refine ⟨scene.fields_state value, ?_, stray, ?_, ?_⟩
    · change field.name ∈ (Arguments.setSlots _ _ _).map (·.name)
      rw [Arguments.names_setSlots]
      exact names
    · exact Nat.le_trans short (Nat.le_trans
        next.cursor.reaches_skipBlanks.length_le forward.length_le)
    · exact Arguments.get?_set_self _ names

/-- If reading resumes inside the value, what is left of it strays into a field
that the call does not mention. -/
theorem not_isolated_of_stray {scene : Scene} (proper : scene.Proper)
    {value : Value} {pair : Field × Value} (mentioned : pair ∈ scene.others)
    (differs : pair.2.pruned ≠ pair.1.default)
    {field : Field} {others : List Field} {long : String}
    (fields : scene.command.fields = field :: others)
    (type : field.type = .string) (scriptable : field.scriptable = true)
    (apart : field.name ≠ scene.field.name)
    (unmentioned : ∀ pair ∈ scene.others, field.name ≠ pair.1.name)
    (default : field.default = .string long)
    (tooLong : (scene.state value).cursor.rest.length < long.length)
    {text behind : List Char} (delimited : Delimited behind)
    (unread : (scene.state value).cursor.rest = text ++ behind)
    (visible : text.dropWhile Parser.isFiller ≠ [])
    (named : ∀ found after,
      argumentName? (text.dropWhile Parser.isFiller) = some (found, after) →
        found.name = field.name)
    (notPassed : (scene.state value).passed = 0) :
    ¬scene.Isolated value := by
  have walk := fun start => Parser.readArguments_filler scene.objects start
    delimited text (scene.state value) unread visible
  obtain ⟨head, tail, shape⟩ := List.exists_cons_of_ne_nil visible
  rw [shape] at walk named
  by_cases close : head = ')'
  · apply not_isolated_of_finished proper mentioned differs
    intro start
    obtain ⟨next, same, invocation, _, _, here⟩ := walk start
    rw [close] at here
    rw [same, Parser.readArguments_over _ _ (.inr ⟨_, here⟩), invocation]
  · rintro ⟨first, invocations, _, _, untouched⟩
    obtain ⟨start, _, parsed⟩ := parseScript_text proper value
    obtain ⟨next, same, invocation, passed, forward, here⟩ := walk start
    have noComma : head ≠ ',' := by
      rintro rfl
      have first := List.head?_dropWhile_not Parser.isFiller text
      rw [shape] at first
      have filler : Parser.isFiller ',' = false := first
      exact absurd filler (by decide)
    have member : field ∈ scene.command.fields := by
      rw [fields]
      exact List.mem_cons_self
    have nextFields : next.invocation.fields = field :: others := by
      rw [invocation, Invocation.fields, fields_state, fields]
    obtain ⟨stray, short, read⟩ := Parser.readArgument_first scene.objects
      delimited here nextFields type scriptable
      (by rw [invocation]; exact isSet_state value apart)
      (passed.trans notPassed) named
    have strayed := strayed_readArguments proper member type start forward
      invocation here close noComma short read
    obtain ⟨stray, short, held⟩ := strayed.text
    rw [invocations, same] at parsed
    injection parsed with isFirst
    have kept := untouched field member apart unmentioned
    rw [isFirst, held, default] at kept
    injection kept with kept
    injection kept with kept
    rw [kept] at short
    omega

/-! ### A call that shows every damage -/

/-- The letter, once more often than `length` says. -/
def longName (letter : Char) (length : Nat) : String :=
  String.ofList (List.replicate (length + 1) letter)

theorem toList_longName (letter : Char) (length : Nat) :
    (longName letter length).toList =
      letter :: List.replicate length letter := by
  rw [longName, String.toList_ofList, List.replicate_succ]

theorem length_longName (letter : Char) (length : Nat) :
    (longName letter length).length = length + 1 := by
  simp [longName]

theorem isIdentifier_longName {letter : Char}
    (starts : isWordStart letter = true) (length : Nat) :
    IsIdentifier (longName letter length) := by
  simp only [IsIdentifier, toList_longName]
  refine ⟨starts, fun c member => ?_⟩
  rw [List.eq_of_mem_replicate member]
  exact isWord_of_isWordStart starts

theorem head_of_eq_longName {name : String} {head letter : Char}
    {tail : List Char} {length : Nat} (chars : name.toList = head :: tail)
    (same : name = longName letter length) : head = letter := by
  rw [same, toList_longName] at chars
  injection chars with here
  exact here.symm

/-- A call of a command that has a string field in front of the field that the
value goes to, and one behind it that the call mentions.  No text inside the
value is long enough to be one of their names, or the default of the first. -/
def trap (name : String) (type : ValueType) (value : Value) : Scene :=
  let length := value.encodeChars.length
  let target : Field :=
    { name := longName 'f' length, type, default := .string "" }
  let mentioned : Field :=
    { name := longName 'g' length, type := .string, default := .string "" }
  let command : Command :=
    { name := "c"
      fields :=
        [{ name, type := .string
           default := .string (longName 'x' (2 * length + 20)) },
          target, mentioned]
      run := fun _ => pure .ok }
  { registry := { commands := [command] }
    objects := .empty
    command
    field := target
    others := [(mentioned, .string "w")]
    following := "" }

/-- What stands behind the value in a trap, less the comma. -/
def trapTail (value : Value) : List Char :=
  ' ' :: ((longName 'g' value.encodeChars.length).toList ++
    ['=', '"', 'w', '"', ')', '\n'])

theorem behind_trap (name : String) (type : ValueType) (value : Value) :
    (trap name type value).behind = ',' :: trapTail value := by
  simp [behind, trap, trapTail, Cursor.commaTail, argumentText,
    Value.encodeChars, quoteChars, escapeChars]

theorem ne_longName {name : String} {value : Value}
    (short : name.length ≤ value.encodeChars.length ∨ name = "h")
    {letter : Char} (noH : letter ≠ 'h') :
    name ≠ longName letter value.encodeChars.length := by
  intro same
  rcases short with short | rfl
  · rw [same, length_longName] at short
    omega
  · exact noH (head_of_eq_longName rfl same).symm

theorem trap_proper {name : String} (word : IsIdentifier name)
    (type : ValueType) {value : Value}
    (short : name.length ≤ value.encodeChars.length ∨ name = "h") :
    (trap name type value).Proper := by
  have differ : longName 'f' value.encodeChars.length ≠
      longName 'g' value.encodeChars.length := by
    intro same
    exact absurd (head_of_eq_longName (toList_longName _ _) same) (by decide)
  have commandWord : IsIdentifier "c" := by decide
  have spellable : (Value.string "w").Spellable := by decide
  have exact : (Value.string "w").Exact := by decide
  refine ⟨by simp [trap, Registry.named?], ⟨commandWord, ?_, ?_⟩, ?_, rfl,
    ?_, ?_⟩
  · intro field member
    simp only [trap, List.mem_cons, List.not_mem_nil, or_false] at member
    rcases member with rfl | rfl | rfl
    · exact word
    · exact isIdentifier_longName (by decide) _
    · exact isIdentifier_longName (by decide) _
  · apply Parser.pairwise_of_nodup_names
    have noF : name ≠ longName 'f' _ := ne_longName short (by decide)
    have noG : name ≠ longName 'g' _ := ne_longName short (by decide)
    simp [trap, Field.names, noF, noG, differ]
  · simp [trap]
  · intro pair member
    rw [List.mem_singleton.mp member]
    exact ⟨by simp [trap], rfl, .string "w", spellable, exact⟩
  · simp [trap, differ]

theorem rest_atValue_trap (name : String) (type : ValueType) (value : Value) :
    ((trap name type value).atValue value).rest =
      value.encodeChars ++ ',' :: trapTail value := by
  rw [← behind_trap name type value]
  rfl

theorem rest_state_trap (name : String) (type : ValueType) (value : Value) :
    ((trap name type value).state value).cursor.rest =
      (Parser.skipComma (Parser.resume .empty type
        ((trap name type value).atValue value))).rest := by
  rw [state_cursor]
  rfl

theorem rest_state_trap_lt (name : String) (type : ValueType) (value : Value) :
    ((trap name type value).state value).cursor.rest.length <
      (longName 'x' (2 * value.encodeChars.length + 20)).length := by
  have forward : ((trap name type value).atValue value).Reaches
      ((trap name type value).state value).cursor := by
    rw [state_cursor]
    exact (Parser.reaches_resume _ _ _).trans <|
      (Parser.reaches_skipComma _).trans (Cursor.reaches_leaveArgument _)
  have shorter := forward.length_le
  rw [rest_atValue_trap, List.length_append] at shorter
  have tail : (trapTail value).length = value.encodeChars.length + 8 := by
    simp [trapTail, toList_longName]
  rw [List.length_cons, tail] at shorter
  rw [length_longName]
  omega

/-- The only delimiter behind the comma of a trap closes the argument list. -/
theorem close_of_suffix_trapTail {value : Value} {text : List Char}
    (suffix : text <:+ trapTail value) (delimited : Delimited text) :
    ∃ tail, text = ')' :: tail := by
  obtain ⟨mark, tail, rfl, isMark⟩ := delimited
  rcases isMark with rfl | rfl
  · have member := suffix.subset List.mem_cons_self
    simp [trapTail, toList_longName] at member
  · exact ⟨tail, rfl⟩

theorem differs_trap : (Value.string "w").pruned ≠ .string "" := by
  intro same
  injection same with same
  exact absurd same (by decide)

/-- If the comma behind the value is passed, so is the rest of the list. -/
theorem not_isolated_of_passed {type : ValueType} {value : Value}
    (passed : (Parser.resume .empty type
      ((trap "h" type value).atValue value)).rest.length ≤
        (trapTail value).length) :
    ¬(trap "h" type value).Isolated value := by
  have proper : (trap "h" type value).Proper :=
    trap_proper (by decide) type (.inr rfl)
  refine not_isolated_of_finished proper List.mem_cons_self differs_trap ?_
  intro start
  apply Parser.readArguments_over
  obtain ⟨⟨count, dropped, _⟩, _⟩ := Parser.reaches_resume .empty type
    ((trap "h" type value).atValue value)
  have suffix : (Parser.resume .empty type
      ((trap "h" type value).atValue value)).rest <:+ trapTail value := by
    refine List.suffix_of_suffix_length_le ?_
      ⟨value.encodeChars ++ [','], rfl⟩ passed
    rw [dropped, rest_atValue_trap, List.append_assoc]
    exact List.drop_suffix _ _
  rw [Cursor.rest_skipBlanks, rest_state_trap]
  rcases Parser.resume_stops .empty type
    ((trap "h" type value).atValue value) with none | delimited
  · rw [Parser.rest_skipComma_nil none]
    exact .inl rfl
  · obtain ⟨tail, close⟩ := close_of_suffix_trapTail suffix delimited
    rw [Parser.rest_skipComma_close close]
    exact .inr ⟨tail, rfl⟩

/-- Reading resumes at the same place whatever the first field is called. -/
theorem rest_resume_trap (name : String) {type : ValueType} {value : Value}
    {text : List Char} (left : (Parser.resume .empty type
      ((trap "h" type value).atValue value)).rest =
        text ++ ',' :: trapTail value) :
    (Parser.resume .empty type ((trap name type value).atValue value)).rest =
      text ++ ',' :: trapTail value := by
  rcases Parser.lockstep_resume .empty .empty type
    (delimited_comma (trapTail value)) _ _
    ⟨_, rest_atValue_trap "h" type value, rest_atValue_trap name type value⟩
    with ⟨text, here, there⟩ | passed
  · rw [there, ← here, left]
  · rw [left, List.length_append, List.length_cons] at passed
    omega

/-- What is left of the value behind a comma strays into the first field, if no
other field is named there. -/
theorem not_isolated_of_left {name : String} {type : ValueType} {value : Value}
    (word : IsIdentifier name)
    (short : name.length ≤ value.encodeChars.length ∨ name = "h")
    {tail : List Char} (left : (Parser.resume .empty type
      ((trap name type value).atValue value)).rest =
        ',' :: tail ++ ',' :: trapTail value)
    (visible : tail.dropWhile Parser.isFiller ≠ [])
    (named : ∀ found after,
      argumentName? (tail.dropWhile Parser.isFiller) = some (found, after) →
        found.name = name) :
    ¬(trap name type value).Isolated value := by
  have noF : name ≠ longName 'f' _ := ne_longName short (by decide)
  have noG : name ≠ longName 'g' _ := ne_longName short (by decide)
  have unmentioned : ∀ pair ∈ (trap name type value).others,
      name ≠ pair.1.name := by
    intro pair member
    rw [List.mem_singleton.mp member]
    exact noG
  have unread : ((trap name type value).state value).cursor.rest =
      tail ++ ',' :: trapTail value := by
    rw [rest_state_trap]
    exact Parser.rest_skipComma_comma left
  exact not_isolated_of_stray (trap_proper word type short)
    List.mem_cons_self differs_trap rfl rfl rfl noF unmentioned rfl
    (rest_state_trap_lt name type value) (delimited_comma _) unread visible
    named (passed_state _ value)

/-- What is left of the value behind a comma is more than commas and blanks. -/
theorem visible_of_left {value : Value}
    (spellable : value.Spellable) {tail : List Char}
    (suffix : ',' :: tail <:+ value.encodeChars) :
    tail.dropWhile Parser.isFiller ≠ [] := by
  obtain ⟨c, member, noBlank, noComma⟩ :=
    Cursor.exists_visible_of_suffix spellable (List.cons_ne_nil ',' tail) suffix
  intro none
  have here : c ∈ tail := (List.mem_cons.mp member).resolve_left noComma
  rw [← List.takeWhile_append_dropWhile (p := Parser.isFiller) (l := tail),
    none, List.append_nil] at here
  have filler := List.all_eq_true.mp List.all_takeWhile c here
  simp [Parser.isFiller, noBlank, noComma] at filler

/-- What is left of the value, as the reader finds it in the trap, is the end of
its own text. -/
theorem suffix_of_left {type : ValueType} {value : Value} {text : List Char}
    (left : (Parser.resume .empty type
      ((trap "h" type value).atValue value)).rest =
        text ++ ',' :: trapTail value) :
    text <:+ value.encodeChars := by
  obtain ⟨⟨count, dropped, _⟩, _⟩ := Parser.reaches_resume .empty type
    ((trap "h" type value).atValue value)
  rw [left, rest_atValue_trap] at dropped
  obtain ⟨front, split⟩ : _ <:+ value.encodeChars ++ ',' :: trapTail value :=
    dropped ▸ List.drop_suffix _ _
  rw [← List.append_assoc] at split
  exact ⟨front, List.append_cancel_right split⟩

/-- If something of the value is left, one of the traps shows it. -/
theorem exists_not_isolated_of_left {type : ValueType} {value : Value}
    (spellable : value.Spellable) {head : Char} {tail : List Char}
    (left : (Parser.resume .empty type
      ((trap "h" type value).atValue value)).rest =
        head :: tail ++ ',' :: trapTail value) :
    ∃ name, (trap name type value).Proper ∧
      ¬(trap name type value).Isolated value := by
  have isMark : head = ',' ∨ head = ')' := by
    rcases Parser.resume_stops .empty type
      ((trap "h" type value).atValue value) with
      none | ⟨mark, rest, here, isMark⟩
    · rw [none] at left
      cases left
    · rw [left] at here
      injection here with same
      rwa [same]
  rcases isMark with rfl | rfl
  · have suffix := suffix_of_left left
    have visible := visible_of_left spellable suffix
    cases name : argumentName? (tail.dropWhile Parser.isFiller) with
    | none =>
        refine ⟨"h", trap_proper (by decide) type (.inr rfl), ?_⟩
        refine not_isolated_of_left (by decide) (.inr rfl) left visible ?_
        intro found after isName
        rw [name] at isName
        cases isName
    | some pair =>
        obtain ⟨found, after⟩ := pair
        obtain ⟨word, short⟩ := Parser.isIdentifier_of_argumentName? name
        have fits : found.name.length ≤ value.encodeChars.length :=
          calc found.name.length
            _ ≤ (tail.dropWhile Parser.isFiller).length := short
            _ ≤ tail.length := (List.dropWhile_suffix _).length_le
            _ ≤ (',' :: tail).length := Nat.le_succ _
            _ ≤ value.encodeChars.length := suffix.length_le
        refine ⟨found.name, trap_proper word type (.inl fits), ?_⟩
        refine not_isolated_of_left word (.inl fits)
          (rest_resume_trap found.name left) visible ?_
        intro other after isName
        rw [name] at isName
        cases isName
        rfl
  · have proper : (trap "h" type value).Proper :=
      trap_proper (by decide) type (.inr rfl)
    refine ⟨"h", proper, not_isolated_of_finished proper List.mem_cons_self
      differs_trap fun start => ?_⟩
    apply Parser.readArguments_over
    rw [Cursor.rest_skipBlanks, rest_state_trap,
      Parser.rest_skipComma_close left]
    exact .inr ⟨_, rfl⟩

/-- A value harms no more than its own field, in every call and whatever
follows, exactly if reading resumes behind its text. -/
theorem isolated_iff_resumes (type : ValueType) {value : Value}
    (spellable : value.Spellable) :
    (∀ scene : Scene, scene.field.type = type → scene.Proper →
        scene.Isolated value) ↔
      Parser.resumes type value = true := by
  constructor
  · intro isolated
    rw [← Bool.not_eq_false]
    intro unresumed
    rcases Parser.resume_of_not_resumes unresumed .empty
      (rest_atValue_trap "h" type value) with ⟨head, tail, left⟩ | passed
    · obtain ⟨name, proper, harmed⟩ :=
        exists_not_isolated_of_left spellable left
      exact harmed (isolated _ rfl proper)
    · exact not_isolated_of_passed passed
        (isolated _ rfl (trap_proper (by decide) type (.inr rfl)))
  · rintro resumed scene rfl proper
    exact isolated_of_resumes proper resumed

/-- Texts in quotes are safe for a boolean field, and texts with a blank are not
for an integer field. -/
theorem isolated_iff_resumes_quoted :
    (∀ scene : Scene, scene.field.type = .bool → scene.Proper →
        scene.Isolated (.string "a b")) ∧
      ¬∀ scene : Scene, scene.field.type = .int → scene.Proper →
        scene.Isolated (.string "a b") := by
  have spellable : (Value.string "a b").Spellable := by decide
  constructor
  · exact (isolated_iff_resumes .bool spellable).mpr (by decide)
  · rw [isolated_iff_resumes .int spellable]
    decide

/-- An integer field that is given a text with a blank inside loses the
argument behind it. -/
theorem not_forall_isolated :
    ¬∀ (scene : Scene) (value : Value), value.Spellable → scene.Proper →
      scene.Isolated value := by
  intro isolated
  have passed : (Parser.resume .empty .int
      ((trap "h" .int (.string "a b")).atValue (.string "a b"))).rest.length ≤
        (trapTail (.string "a b")).length := by
    decide
  exact not_isolated_of_passed passed
    (isolated _ _ (by decide) (trap_proper (by decide) .int (.inr rfl)))

end Scene

end GridScript
