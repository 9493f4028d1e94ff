import GridScript.Proofs.Rereading
import GridScript.Script.Parser

/-!
# Reading an invocation back

An argument list that names its values is read argument by argument, in any
order and with any blanks between the tokens.  A statement that consists of a
keyword and such a list gives one invocation with these fields set, and reading
goes on right behind it.  That is so in every dialect; one that wants blanks
between names and values reports each equals sign as an error.
-/

namespace GridScript

/-- A letter or an underscore, and then word characters. -/
def IsIdentifier (text : String) : Prop :=
  match text.toList with
  | [] => False
  | head :: tail => isWordStart head = true ∧ ∀ c ∈ tail, isWord c = true

instance (text : String) : Decidable (IsIdentifier text) :=
  decidable_of_iff
    ((match text.toList with
      | [] => false
      | head :: tail => isWordStart head && tail.all isWord) = true)
    (by unfold IsIdentifier; split <;> simp)

/-- The names that refer to a field. -/
def Field.names (field : Field) : List String :=
  field.name :: field.otherName.toList

/-- Keyword and field names are identifiers, and no name belongs to two
fields. -/
structure Command.WellNamed (command : Command) : Prop where
  name : IsIdentifier command.name
  fields : ∀ field ∈ command.fields, IsIdentifier field.name
  apart : command.fields.Pairwise fun left right =>
    ∀ name, left.accepts name = true → right.accepts name = false

/-- One argument as script text spells it. -/
def argumentText (pair : Field × Value) : List Char :=
  pair.1.name.toList ++ '=' :: pair.2.encodeChars

/-- The text spells the argument.  Name and value stand around an equals sign,
or apart where the dialect takes either, with any blanks between them.  A null
reference has no text, so that only the equals sign can tell of it. -/
inductive Dialect.Spells (dialect : Dialect) (pair : Field × Value) :
    List Char → Prop where
  | equals {before after lexeme : List Char} (leading : IsBlanks before)
      (trailing : IsBlanks after) (laid : pair.2.Laid lexeme) :
      Spells dialect pair
        (pair.1.name.toList ++ (before ++ '=' :: (after ++ lexeme)))
  | apart {between lexeme : List Char} (either : dialect.separator = .either)
      (areBlanks : IsBlanks between) (nonEmpty : between ≠ [])
      (nonNull : pair.2.isNullReference = false) (laid : pair.2.Laid lexeme) :
      Spells dialect pair (pair.1.name.toList ++ (between ++ lexeme))

theorem Dialect.spells_argumentText (dialect : Dialect)
    (pair : Field × Value) : dialect.Spells pair (argumentText pair) :=
  .equals isBlanks_nil isBlanks_nil pair.2.laid_encodeChars

/-- The pair is a field that scripts may set, with a value of its type that
script text can spell. -/
structure IsArgument (shape : ObjectTable) (fields : List Field)
    (pair : Field × Value) : Prop where
  member : pair.1 ∈ fields
  scriptable : pair.1.scriptable = true
  typed : pair.2.HasType shape pair.1.type
  spellable : pair.2.Spellable
  exact : pair.2.Exact

/-- The pair is an argument but for its double, which need not be read back. -/
structure IsSpelled (shape : ObjectTable) (fields : List Field)
    (pair : Field × Value) : Prop where
  member : pair.1 ∈ fields
  scriptable : pair.1.scriptable = true
  typed : pair.2.HasType shape pair.1.type
  spellable : pair.2.Spellable
  settled : pair.2.Settled

theorem IsArgument.spelled {shape : ObjectTable} {fields : List Field}
    {pair : Field × Value} (isArgument : IsArgument shape fields pair) :
    IsSpelled shape fields pair :=
  ⟨isArgument.member, isArgument.scriptable, isArgument.typed,
    isArgument.spellable, .inr isArgument.exact⟩

/-- What the dialect reports of an equals sign between a name and a value. -/
def Dialect.equalsErrors (dialect : Dialect) : List Problem :=
  if dialect.separator = .whitespace then [.unexpectedEquals] else []

/-- The errors that the text of an argument is read with. -/
def argumentErrors (dialect : Dialect) (pair : Field × Value) : List Problem :=
  dialect.equalsErrors ++ pair.2.readErrors

theorem argumentErrors_of_exact {pair : Field × Value} (exact : pair.2.Exact)
    (dialect : Dialect) :
    argumentErrors dialect pair = dialect.equalsErrors := by
  rw [argumentErrors, exact.readErrors, List.append_nil]

theorem flatMap_argumentErrors_of_exact {pairs : List (Field × Value)}
    (exact : ∀ pair ∈ pairs, pair.2.Exact) :
    pairs.flatMap (argumentErrors {}) = [] := by
  rw [List.flatMap_eq_nil_iff]
  intro pair member
  exact argumentErrors_of_exact (exact pair member) {}

namespace Parser

/-! ### Names -/

theorem exists_cons_of_isIdentifier {name : String}
    (word : IsIdentifier name) :
    ∃ head tail, name.toList = head :: tail ∧ isWordStart head = true ∧
      ∀ c ∈ tail, isWord c = true := by
  unfold IsIdentifier at word
  split at word
  · cases word
  · rename_i head tail chars
    exact ⟨head, tail, chars, word⟩

theorem identifier?_append {name : String} {rest : List Char}
    (word : IsIdentifier name)
    (stops : ∀ c, rest.head? = some c → isWord c = false) :
    identifier? (name.toList ++ rest) = some (name.toList, rest) := by
  obtain ⟨head, tail, chars, starts, all⟩ := exists_cons_of_isIdentifier word
  obtain ⟨taken, dropped⟩ := takeWhile_token all stops
  rw [chars, List.cons_append, identifier?, if_pos starts, taken, dropped]

/-- A name does not go on behind white space. -/
theorem isWord_head?_space {space : List Char} (isSpace : IsSpace space)
    {head : Char} {rest : List Char} (noWord : isWord head = false)
    {c : Char} (found : (space ++ head :: rest).head? = some c) :
    isWord c = false := by
  cases space with
  | nil =>
      cases found
      exact noWord
  | cons blank blanks =>
      cases found
      exact isWord_eq_false_of_isBlank (isSpace _ List.mem_cons_self)

theorem isWord_head?_blanks {blanks : List Char} (areBlanks : IsBlanks blanks)
    {head : Char} {rest : List Char} (noWord : isWord head = false)
    {c : Char} (found : (blanks ++ head :: rest).head? = some c) :
    isWord c = false :=
  isWord_head?_space areBlanks.isSpace noWord found

theorem dropWhile_isPlainBlank {blanks : List Char}
    (areBlanks : IsBlanks blanks) {head : Char}
    (apart : isPlainBlank head = false) (rest : List Char) :
    (blanks ++ head :: rest).dropWhile isPlainBlank = head :: rest := by
  refine (takeWhile_token areBlanks ?_).2
  intro c found
  cases found
  exact apart

theorem argumentName?_equals {name : String} (word : IsIdentifier name)
    {blanks : List Char} (areBlanks : IsBlanks blanks) (body : List Char) :
    argumentName? (name.toList ++ (blanks ++ '=' :: body)) =
      some (⟨name, true⟩, body) := by
  have stops : ∀ c, (blanks ++ '=' :: body).head? = some c →
      isWord c = false :=
    fun c found => isWord_head?_blanks areBlanks (by decide) found
  have apart : isPlainBlank '=' = false := by decide
  simp only [argumentName?, identifier?_append word stops,
    String.ofList_toList, dropWhile_isPlainBlank areBlanks apart, if_true]

/-- A name is told from its value by blanks, unless the value begins like
something else. -/
theorem argumentName?_apart {name : String} (word : IsIdentifier name)
    {blanks : List Char} (areBlanks : IsBlanks blanks)
    (nonEmpty : blanks ≠ []) {head : Char} (apart : isPlainBlank head = false)
    (begins : isDelimiter head = false) (noEquals : head ≠ '=')
    (body : List Char) :
    argumentName? (name.toList ++ (blanks ++ head :: body)) =
      some (⟨name, false⟩, head :: body) := by
  obtain ⟨blank, more, rfl⟩ := List.exists_cons_of_ne_nil nonEmpty
  have first := areBlanks blank List.mem_cons_self
  have stops : ∀ c, (blank :: more ++ head :: body).head? = some c →
      isWord c = false := by
    intro c found
    cases found
    exact isWord_eq_false_of_isBlank (isBlank_of_isPlainBlank first)
  have glued : (blank :: more ++ head :: body).head?.any isPlainBlank = true :=
    first
  simp only [argumentName?, identifier?_append word stops,
    String.ofList_toList, dropWhile_isPlainBlank areBlanks apart, noEquals,
    if_false, glued, begins, Bool.not_false, Bool.and_self, if_true]

theorem find?_accepts {fields : List Field}
    (apart : fields.Pairwise fun left right =>
      ∀ name, left.accepts name = true → right.accepts name = false)
    {field : Field} (member : field ∈ fields) {name : String}
    (accepted : field.accepts name = true) :
    fields.find? (·.accepts name) = some field := by
  induction fields with
  | nil => cases member
  | cons head tail induction =>
      rw [List.pairwise_cons] at apart
      rcases List.mem_cons.mp member with rfl | later
      · simp [accepted]
      · have refused : head.accepts name = false := by
          cases taken : head.accepts name with
          | false => rfl
          | true =>
              rw [apart.1 field later name taken] at accepted
              cases accepted
        rw [List.find?_cons, refused]
        exact induction apart.2 later

theorem accepts_name (field : Field) : field.accepts field.name = true := by
  simp [Field.accepts]

theorem accepts_iff (field : Field) (name : String) :
    field.accepts name = true ↔ name ∈ field.names := by
  simp only [Field.accepts, Field.names, Bool.or_eq_true, beq_iff_eq,
    List.mem_cons, Option.mem_toList, eq_comm (a := name)]

theorem pairwise_of_nodup_names {fields : List Field}
    (distinct : (fields.flatMap Field.names).Nodup) :
    fields.Pairwise fun left right =>
      ∀ name, left.accepts name = true → right.accepts name = false := by
  induction fields with
  | nil => exact .nil
  | cons field fields induction =>
      rw [List.flatMap_cons, List.nodup_append] at distinct
      obtain ⟨_, later, apart⟩ := distinct
      refine List.pairwise_cons.mpr ⟨?_, induction later⟩
      intro other member name accepted
      rw [Bool.eq_false_iff]
      intro alsoAccepted
      have here := (accepts_iff field name).mp accepted
      have there := List.mem_flatMap.mpr
        ⟨other, member, (accepts_iff other name).mp alsoAccepted⟩
      exact apart name here name there rfl

theorem nodup_names {fields : List Field}
    (apart : fields.Pairwise fun left right =>
      ∀ name, left.accepts name = true → right.accepts name = false) :
    (fields.map (·.name)).Nodup := by
  rw [List.Nodup, List.pairwise_map]
  refine apart.imp ?_
  intro left right apart same
  have refused := apart left.name (accepts_name left)
  rw [same, accepts_name right] at refused
  cases refused

/-! ### Arguments -/

/-- The state behind an argument of a field whose value begins at the cursor. -/
def passField (objects : ObjectTable) (field : Field) (c : Cursor)
    (state : ArgumentList) : ArgumentList :=
  let read := readField objects field c state
  { read with cursor := finishArgument read.cursor }

/-- An argument begins with its name; what is read behind the name, and up to
the end of the argument, depends on the field that it leads to. -/
theorem argumentStep_name (dialect : Dialect) (objects : ObjectTable)
    (start : Nat) {state : ArgumentList} {lead separator body : List Char}
    {name : String} {equals : Bool} (leading : IsSpace lead)
    (word : IsIdentifier name)
    (named : argumentName? (name.toList ++ (separator ++ body)) =
      some (⟨name, equals⟩, body))
    (unread : state.cursor.rest =
      lead ++ (name.toList ++ (separator ++ body))) :
    argumentStep dialect objects start state =
      let read := readNamed dialect objects ⟨name, equals⟩
        (state.cursor.behind (lead ++ (name.toList ++ separator)) body) state
      .continued { read with cursor := finishArgument read.cursor } := by
  obtain ⟨head, tail, chars, starts, _⟩ := exists_cons_of_isIdentifier word
  have isWord := isWord_of_isWordStart starts
  have here : state.cursor.skipBlanks =
      state.cursor.behind lead (name.toList ++ (separator ++ body)) := by
    rw [chars] at unread ⊢
    exact Cursor.skipBlanks_space leading unread
      (isBlank_eq_false_of_isWord isWord)
  have noClose : head ≠ ')' := ne_of_isWord isWord (by decide)
  have noComma : head ≠ ',' := ne_of_isWord isWord (by decide)
  have split : (state.cursor.behind lead
      (name.toList ++ (separator ++ body))).rest =
        (name.toList ++ separator) ++ body := by simp
  have moved : (state.cursor.behind lead
      (name.toList ++ (separator ++ body))).moveTo body =
        state.cursor.behind (lead ++ (name.toList ++ separator)) body := by
    rw [Cursor.moveTo_eq_behind split, Cursor.behind_behind]
  have argument : readArgument dialect objects
      (state.cursor.behind lead (name.toList ++ (separator ++ body))) state =
        readNamed dialect objects ⟨name, equals⟩
          (state.cursor.behind (lead ++ (name.toList ++ separator)) body)
          state := by
    rw [readArgument, Cursor.rest_behind, named]
    dsimp only
    rw [moved]
  simp only [argumentStep, here, argument, Cursor.rest_behind]
  split
  · rename_i none
    simp [chars] at none
  · rename_i next more first
    rw [chars] at first
    cases first
    rw [if_neg noClose, if_neg noComma]

/-- A named argument for a field that is not set yet is read as the value of
that field, whatever its text is. -/
theorem argumentStep_named (dialect : Dialect) (objects : ObjectTable)
    (start : Nat) {state : ArgumentList} {lead separator body : List Char}
    {name : String} {equals : Bool} {field : Field} (leading : IsBlanks lead)
    (word : IsIdentifier name)
    (named : argumentName? (name.toList ++ (separator ++ body)) =
      some (⟨name, equals⟩, body))
    (found : state.invocation.fields.find? (·.accepts name) = some field)
    (scriptable : field.scriptable = true)
    (unset : state.invocation.arguments.isSet field.name = false)
    (unread : state.cursor.rest =
      lead ++ (name.toList ++ (separator ++ body))) :
    argumentStep dialect objects start state =
      .continued (passField objects field
        (checkSeparator dialect equals
          ((state.cursor.behind (lead ++ (name.toList ++ separator))
            body).inArgument name)) state) := by
  rw [argumentStep_name dialect objects start leading.isSpace word named
    unread]
  simp [readNamed, found, scriptable, unset, passField]

theorem finishArgument_comma {c : Cursor} {rest : List Char}
    (unread : c.skipBlanks.rest = ',' :: rest) :
    finishArgument c = (c.skipBlanks.behind [','] rest).leaveArgument := by
  simp only [finishArgument, unread, if_true, Cursor.next_eq_behind unread]

theorem finishArgument_close {c : Cursor} {rest : List Char}
    (unread : c.skipBlanks.rest = ')' :: rest) :
    finishArgument c = c.skipBlanks.leaveArgument := by
  simp only [finishArgument, unread]
  rw [if_neg (by decide), if_pos trivial]

/-- An argument ends with the comma behind it, or in front of the parenthesis
that closes the list. -/
def EndsArgument (comma rest : List Char) : Prop :=
  comma = [','] ∨ comma = [] ∧ ∃ more, rest = ')' :: more

theorem EndsArgument.exists_cons {comma rest : List Char}
    (ends : EndsArgument comma rest) :
    ∃ next more, (next = ',' ∨ next = ')') ∧ comma ++ rest = next :: more := by
  rcases ends with rfl | ⟨rfl, more, rfl⟩
  · exact ⟨',', rest, .inl rfl, rfl⟩
  · exact ⟨')', more, .inr rfl, rfl⟩

/-- The end of an argument is passed. -/
theorem EndsArgument.finishArgument {comma rest : List Char}
    (ends : EndsArgument comma rest) {c : Cursor}
    (unread : c.skipBlanks.rest = comma ++ rest) :
    finishArgument c = (c.skipBlanks.behind comma rest).leaveArgument := by
  rcases ends with rfl | ⟨rfl, more, rfl⟩
  · exact finishArgument_comma unread
  · rw [finishArgument_close unread]
    exact congrArg Cursor.leaveArgument (Cursor.behind_nil unread).symm

theorem argumentStep_close (dialect : Dialect) (objects : ObjectTable)
    (start : Nat) {state : ArgumentList} {lead rest : List Char}
    (leading : IsBlanks lead)
    (unread : state.cursor.rest = lead ++ ')' :: rest) :
    argumentStep dialect objects start state =
      .finished (state.cursor.behind (lead ++ [')']) rest) := by
  have here := Cursor.skipBlanks_blanks leading unread (by decide)
  have next : (state.cursor.behind lead (')' :: rest)).next =
      state.cursor.behind (lead ++ [')']) rest := by
    rw [Cursor.next_eq_behind (Cursor.rest_behind _ _ _), Cursor.behind_behind]
  simp [argumentStep, here, next]

/-- A null reference has no text, only blanks. -/
theorem readValue_null (objects : ObjectTable) (className : String) {c : Cursor}
    {blanks : List Char} {next : Char} {rest : List Char}
    (areBlanks : IsBlanks blanks) (isNext : next = ',' ∨ next = ')')
    (unread : c.rest = blanks ++ next :: rest) :
    c.readValue objects (.reference className) =
      (some (.reference none), c.behind blanks (next :: rest)) := by
  have stops : Cursor.isTokenEndOrBlank next = true ∧ isBlank next = false := by
    rcases isNext with rfl | rfl <;> decide
  have start := Cursor.skipBlanks_blanks areBlanks unread stops.2
  have again : (c.behind blanks (next :: rest)).skipBlanks =
      c.behind blanks (next :: rest) :=
    Cursor.skipBlanks_eq_self rfl stops.2
  have token : (c.behind blanks (next :: rest)).readReferenceToken =
      ("", c.behind blanks (next :: rest)) := by
    simp [Cursor.readReferenceToken, Cursor.readBare, again, stops.1,
      trimBackChars, Cursor.advance]
    rfl
  simp [Cursor.readValue, Cursor.unlessEnd, start, Cursor.readReference, token]

/-- Text of a value of the type, with blanks around it and a comma or a
parenthesis behind it, is read as that value as far as it can be. -/
theorem readValue_text {shape : ObjectTable} (objects : ObjectTable)
    {type : ValueType} {value : Value} (typed : value.HasType shape type)
    (spellable : value.Spellable) (settled : value.Settled)
    {before lexeme after : List Char} (leading : IsBlanks before)
    (laid : value.Laid lexeme) (trailing : IsBlanks after) {c : Cursor}
    {next : Char} {rest : List Char} (isNext : next = ',' ∨ next = ')')
    (unread : c.rest = before ++ (lexeme ++ (after ++ next :: rest))) :
    (c.readValue objects type).1 = value.readBack? objects ∧
      c.Crosses (before ++ (lexeme ++ after)) value.readErrors
        (value.KnownIn objects) (c.readValue objects type).2.skipBlanks := by
  have stops : Cursor.isTokenEndOrBlank next = true ∧ isBlank next = false := by
    rcases isNext with rfl | rfl <;> decide
  cases null : value.isNullReference with
  | false =>
      obtain ⟨head, tail, chars, isOpen⟩ :=
        Cursor.opensToken_laid spellable null laid
      have visible := (Cursor.OpensToken.visible isOpen).1
      have start : c.skipBlanks =
          c.behind before (lexeme ++ (after ++ next :: rest)) := by
        rw [chars] at unread ⊢
        exact Cursor.skipBlanks_blanks leading unread visible
      have here := Cursor.readValue_skipBlanks objects type start
        (Cursor.skipBlanks_eq_self (by rw [chars]; rfl) visible)
      have ends : EndsToken (after ++ next :: rest) :=
        endsToken_blanks trailing (endsToken_cons stops.1)
      obtain ⟨read, crosses⟩ := Cursor.readValue_readBack typed spellable
        settled null laid ends
        (Cursor.rest_behind c before (lexeme ++ (after ++ next :: rest)))
      have begun := Cursor.passes_behind unread (value.KnownIn objects)
      have left :
          (c.readValue objects type).2.rest = after ++ next :: rest := by
        rw [here]
        exact (List.append_cancel_left crosses.rest).symm
      have behind := Cursor.passes_behind left (value.KnownIn objects)
      rw [Cursor.skipBlanks_blanks trailing left stops.2]
      rw [← here] at read crosses
      exact ⟨read, by simpa using (begun.trans crosses).trans behind⟩
  | true =>
      cases typed with
      | null className =>
          obtain rfl := laid.eq_encodeChars rfl
          have blanks : IsBlanks (before ++ after) := by
            intro c member
            exact (List.mem_append.mp member).elim (leading c) (trailing c)
          have split : c.rest = (before ++ after) ++ next :: rest := by
            simpa [Value.encodeChars] using unread
          rw [readValue_null objects className blanks isNext split]
          rw [Cursor.skipBlanks_eq_self rfl stops.2]
          exact ⟨rfl, Cursor.passes_behind split _⟩
      | _ => cases null

theorem crosses_self (quiet : Prop) (c : Cursor) :
    c.Crosses [] [] quiet c := by
  have passes := Cursor.passes_behind (List.nil_append c.rest).symm quiet
  rwa [Cursor.behind_nil rfl] at passes

/-- The equals sign is reported by a dialect that wants blanks. -/
theorem crosses_checkSeparator (dialect : Dialect) (quiet : Prop) (c : Cursor) :
    c.Crosses [] dialect.equalsErrors quiet
      (checkSeparator dialect true c) := by
  have still := crosses_self quiet c
  unfold checkSeparator Dialect.equalsErrors
  cases dialect.separator with
  | equals => exact still
  | whitespace => exact still.error _
  | either => exact still

/-- The value of an argument begins like a value. -/
theorem begins_laid {value : Value} (spellable : value.Spellable)
    (nonNull : value.isNullReference = false) {lexeme : List Char}
    (laid : value.Laid lexeme) :
    ∃ head tail, lexeme = head :: tail ∧ isBlank head = false ∧
      isDelimiter head = false ∧ head ≠ '=' := by
  obtain ⟨head, tail, chars, first⟩ :=
    Cursor.exists_cons_laid spellable nonNull laid
  refine ⟨head, tail, chars, ?_⟩
  rcases first with word | mark
  · have apart : ∀ other, isWord other = false → (head == other) = false :=
      fun other noWord => beq_eq_false_iff_ne.mpr (ne_of_isWord word noWord)
    refine ⟨isBlank_eq_false_of_isWord word, ?_, ne_of_isWord word (by decide)⟩
    simp only [isDelimiter, apart ',' (by decide), apart ')' (by decide),
      apart ':' (by decide), apart ';' (by decide), Bool.or_self]
  · simp only [List.mem_cons, List.not_mem_nil, or_false] at mark
    rcases mark with rfl | rfl | rfl | rfl <;> decide

/-- An argument is its name, what separates it from its value, blanks, and the
value.  The separator is found, and reported as an equals sign would be. -/
theorem exists_separator {dialect : Dialect} {pair : Field × Value}
    {lexeme : List Char} (spells : dialect.Spells pair lexeme)
    (word : IsIdentifier pair.1.name) (spellable : pair.2.Spellable) :
    ∃ separator blanks value equals,
      lexeme = pair.1.name.toList ++ (separator ++ (blanks ++ value)) ∧
      IsBlanks blanks ∧ pair.2.Laid value ∧
      (∀ rest, argumentName? (pair.1.name.toList ++
          (separator ++ (blanks ++ (value ++ rest)))) =
        some (⟨pair.1.name, equals⟩, blanks ++ (value ++ rest))) ∧
      ∀ (quiet : Prop) (c : Cursor), c.Crosses [] dialect.equalsErrors quiet
        (checkSeparator dialect equals c) := by
  cases spells with
  | @equals before after value leading trailing laid =>
      refine ⟨before ++ ['='], after, value, true, by simp, trailing, laid,
        ?_, crosses_checkSeparator dialect⟩
      intro rest
      rw [List.append_assoc]
      exact argumentName?_equals word leading _
  | @apart between value either areBlanks nonEmpty nonNull laid =>
      obtain ⟨head, tail, rfl, visible, begins, noEquals⟩ :=
        begins_laid spellable nonNull laid
      refine ⟨between, [], head :: tail, false, rfl, isBlanks_nil, laid, ?_, ?_⟩
      · intro rest
        exact argumentName?_apart word areBlanks nonEmpty
          (isPlainBlank_eq_false visible) begins noEquals _
      · intro quiet c
        have silent : dialect.equalsErrors = [] := by
          rw [Dialect.equalsErrors, either]
          rfl
        simp only [silent, checkSeparator, either]
        exact crosses_self quiet c

theorem crosses_leaveArgument {c after : Cursor} {name : String}
    {lexeme : List Char} {errors : List Problem} {quiet : Prop}
    (idle : c.argument = none)
    (crosses : (c.inArgument name).Crosses lexeme errors quiet after) :
    c.Crosses lexeme errors quiet after.leaveArgument := by
  obtain ⟨rest, line, command, _, reported⟩ := crosses
  exact ⟨rest, line, command, idle.symm, reported⟩

theorem crosses_leaveCommand {c after : Cursor} {keyword : String}
    {lexeme : List Char} {errors : List Problem} {quiet : Prop}
    (idle : c.command = none ∧ c.argument = none)
    (crosses : (c.inCommand keyword).Crosses lexeme errors quiet after) :
    c.Crosses lexeme errors quiet after.leaveCommand := by
  obtain ⟨rest, line, _, _, reported⟩ := crosses
  exact ⟨rest, line, idle.1.symm, idle.2.symm, reported⟩

/-- The field is set to what is read for it, if anything is. -/
theorem invocation_readField {objects : ObjectTable} {pair : Field × Value}
    {c : Cursor} {state : ArgumentList}
    (read : (c.readValue objects pair.1.type).1 = pair.2.readBack? objects) :
    (readField objects pair.1 c state).invocation =
      { state.invocation with
        arguments := state.invocation.arguments.setAll
          (readBack objects [pair]) } := by
  unfold readField
  dsimp only
  rw [read]
  cases found : pair.2.readBack? objects with
  | none => simp [readBack, found, Arguments.setAll]
  | some value => simp [readBack, found, Arguments.setAll, Invocation.set]

theorem cursor_readField (objects : ObjectTable) (field : Field) (c : Cursor)
    (state : ArgumentList) :
    (readField objects field c state).cursor =
      (c.readValue objects field.type).2 := by
  unfold readField
  dsimp only
  split <;> rfl

/-- An argument is read and passed together with the comma behind it. -/
theorem argumentStep_text {shape : ObjectTable} (dialect : Dialect)
    (objects : ObjectTable) (start : Nat) {state : ArgumentList}
    {pair : Field × Value} (names : IsIdentifier pair.1.name)
    (apart : state.invocation.fields.Pairwise fun left right =>
      ∀ name, left.accepts name = true → right.accepts name = false)
    (spelled : IsSpelled shape state.invocation.fields pair)
    (unset : state.invocation.arguments.isSet pair.1.name = false)
    (idle : state.cursor.argument = none)
    {lead lexeme after comma rest : List Char} (leading : IsBlanks lead)
    (spells : dialect.Spells pair lexeme) (trailing : IsBlanks after)
    (ends : EndsArgument comma rest)
    (unread : state.cursor.rest =
      lead ++ (lexeme ++ (after ++ (comma ++ rest)))) :
    ∃ next, argumentStep dialect objects start state = .continued next ∧
      next.invocation = { state.invocation with
        arguments := state.invocation.arguments.setAll
          (readBack objects [pair]) } ∧
      state.cursor.Crosses (lead ++ (lexeme ++ (after ++ comma)))
        (argumentErrors dialect pair) (pair.2.KnownIn objects)
        next.cursor := by
  obtain ⟨separator, blanks, value, equals, rfl, areBlanks, laid, named,
    separates⟩ := exists_separator spells names spelled.spellable
  have found := find?_accepts apart spelled.member (accepts_name pair.1)
  have split : state.cursor.rest = lead ++ (pair.1.name.toList ++
      (separator ++ (blanks ++ (value ++ (after ++ (comma ++ rest)))))) := by
    rw [unread]
    simp
  have step := argumentStep_named dialect objects start leading names
    (named _) found spelled.scriptable unset split
  have opened : state.cursor.rest =
      (lead ++ (pair.1.name.toList ++ separator)) ++
        (blanks ++ (value ++ (after ++ (comma ++ rest)))) := by
    rw [split]
    simp
  obtain ⟨next, more, isDelimiter, follows⟩ := ends.exists_cons
  have begun := Cursor.passes_behind opened (pair.2.KnownIn objects)
  generalize state.cursor.behind (lead ++ (pair.1.name.toList ++ separator))
    (blanks ++ (value ++ (after ++ (comma ++ rest)))) = here at step begun
  have separated := separates (pair.2.KnownIn objects)
    (here.inArgument pair.1.name)
  have valueRest : (checkSeparator dialect equals
      (here.inArgument pair.1.name)).rest =
        blanks ++ (value ++ (after ++ next :: more)) := by
    rw [← follows]
    exact separated.rest.symm.trans
      (List.append_cancel_left (begun.rest.symm.trans opened))
  generalize checkSeparator dialect equals (here.inArgument pair.1.name) =
    atValue at step separated valueRest
  obtain ⟨read, crosses⟩ := readValue_text objects spelled.typed
    spelled.spellable spelled.settled areBlanks laid trailing isDelimiter
    valueRest
  refine ⟨_, step, invocation_readField read, ?_⟩
  have cursor := cursor_readField objects pair.1 atValue state
  have inside := crosses_leaveArgument (begun.argument.trans idle)
    (separated.trans crosses)
  have whole := begun.trans inside
  change state.cursor.Crosses _ _ _
    (finishArgument (readField objects pair.1 atValue state).cursor)
  rw [cursor]
  have thereRest : (atValue.readValue objects pair.1.type).2.skipBlanks.rest =
      comma ++ rest := by
    have passed := crosses.rest.symm.trans valueRest
    rw [follows]
    simpa using passed
  rw [ends.finishArgument thereRest]
  generalize (atValue.readValue objects pair.1.type).2.skipBlanks = there
    at whole thereRest
  have left : there.leaveArgument.rest = comma ++ rest := thereRest
  have passed := Cursor.passes_behind left (pair.2.KnownIn objects)
  change state.cursor.Crosses _ _ _ (there.leaveArgument.behind comma rest)
  simpa [argumentErrors] using whole.trans passed

/-- What is known of the arguments of a list, behind the first of them. -/
private theorem isSet_next {objects : ObjectTable} {pair : Field × Value}
    {arguments : List (Field × Value)} {state next : ArgumentList}
    (set : next.invocation = { state.invocation with
      arguments := state.invocation.arguments.setAll
        (readBack objects [pair]) })
    (absent : pair.1.name ∉ arguments.map (·.1.name))
    (unset : ∀ other ∈ pair :: arguments,
      state.invocation.arguments.isSet other.1.name = false) :
    ∀ other ∈ arguments,
      next.invocation.arguments.isSet other.1.name = false := by
  intro other member
  have differs : other.1.name ≠ pair.1.name := by
    intro same
    exact absent (same ▸ List.mem_map.mpr ⟨other, member, rfl⟩)
  rw [set, ← unset other (List.mem_cons_of_mem _ member)]
  exact Arguments.isSet_setAll_readBack differs _ _

/-- A list of arguments is read argument by argument, up to the parenthesis
that closes it. -/
theorem readArguments_spelled {shape : ObjectTable} (dialect : Dialect)
    (objects : ObjectTable) (start : Nat) {arguments : List (Field × Value)}
    {text : List Char} (spaced : Spaced dialect.Spells arguments text)
    (state : ArgumentList)
    (names : ∀ pair ∈ arguments, IsIdentifier pair.1.name)
    (apart : state.invocation.fields.Pairwise fun left right =>
      ∀ name, left.accepts name = true → right.accepts name = false)
    (spelled : ∀ pair ∈ arguments,
      IsSpelled shape state.invocation.fields pair)
    (distinct : (arguments.map (·.1.name)).Nodup)
    (unset : ∀ pair ∈ arguments,
      state.invocation.arguments.isSet pair.1.name = false)
    (idle : state.cursor.argument = none) {rest : List Char}
    (unread : state.cursor.rest = text ++ ')' :: rest) :
    (readArguments dialect objects start state).1 =
        { state.invocation with
          arguments := state.invocation.arguments.setAll
            (readBack objects arguments) } ∧
      state.cursor.Crosses (text ++ [')'])
        (arguments.flatMap (argumentErrors dialect))
        (∀ pair ∈ arguments, pair.2.KnownIn objects)
        (readArguments dialect objects start state).2 := by
  induction spaced generalizing state with
  | @nil blanks areBlanks =>
      have split : state.cursor.rest = (blanks ++ [')']) ++ rest := by
        simp [unread]
      rw [readArguments_of_finished (argumentStep_close _ _ _ areBlanks unread)]
      exact ⟨rfl, Cursor.passes_behind split _⟩
  | @last pair before lexeme after leading spells trailing =>
      have split : state.cursor.rest =
          before ++ (lexeme ++ (after ++ ([] ++ ')' :: rest))) := by
        simp [unread]
      obtain ⟨next, step, set, crosses⟩ := argumentStep_text dialect objects
        start (names pair List.mem_cons_self) apart
        (spelled pair List.mem_cons_self) (unset pair List.mem_cons_self) idle
        leading spells trailing (.inr ⟨rfl, rest, rfl⟩) split
      have left : next.cursor.rest = [')'] ++ rest := by
        have remaining := crosses.rest.symm.trans split
        simpa using remaining
      rw [readArguments_of_continued step,
        readArguments_of_finished (argumentStep_close _ _ _ isBlanks_nil left)]
      refine ⟨set, ?_⟩
      have first := crosses.mono
        fun known : ∀ other ∈ [pair], other.2.KnownIn objects =>
          known pair List.mem_cons_self
      simpa using first.trans (Cursor.passes_behind left _)
  | @cons pair arguments before lexeme after text leading spells trailing more
      others induction =>
      rw [List.map_cons, List.nodup_cons] at distinct
      have split : state.cursor.rest = before ++ (lexeme ++
          (after ++ ([','] ++ (text ++ ')' :: rest)))) := by
        simp [unread]
      obtain ⟨next, step, set, crosses⟩ := argumentStep_text dialect objects
        start (names pair List.mem_cons_self) apart
        (spelled pair List.mem_cons_self) (unset pair List.mem_cons_self) idle
        leading spells trailing (.inl rfl) split
      have left : next.cursor.rest = text ++ ')' :: rest := by
        have remaining := crosses.rest.symm.trans split
        simpa using remaining
      have fields : next.invocation.fields = state.invocation.fields := by
        rw [set]
        rfl
      obtain ⟨invocation, later⟩ := induction next
        (fun other member => names other (List.mem_cons_of_mem _ member))
        (by rw [fields]; exact apart)
        (by
          rw [fields]
          exact fun other member =>
            spelled other (List.mem_cons_of_mem _ member))
        distinct.2 (isSet_next set distinct.1 unset)
        (crosses.argument.trans idle) left
      rw [readArguments_of_continued step]
      constructor
      · rw [invocation, set, readBack_cons objects pair arguments,
          Arguments.setAll_append]
      · have first := crosses.mono
          fun known : ∀ other ∈ pair :: arguments, other.2.KnownIn objects =>
            known pair List.mem_cons_self
        have second := later.mono
          fun known : ∀ other ∈ pair :: arguments, other.2.KnownIn objects =>
            fun other member => known other (List.mem_cons_of_mem _ member)
        rw [List.flatMap_cons]
        simpa using first.trans second

/-- Arguments that are read back are all set, and without errors. -/
theorem readArguments_text {shape : ObjectTable} (objects : ObjectTable)
    (start : Nat) {arguments : List (Field × Value)} {text : List Char}
    (spaced : Spaced (Dialect.Spells {}) arguments text) (state : ArgumentList)
    (names : ∀ pair ∈ arguments, IsIdentifier pair.1.name)
    (apart : state.invocation.fields.Pairwise fun left right =>
      ∀ name, left.accepts name = true → right.accepts name = false)
    (areArguments : ∀ pair ∈ arguments,
      IsArgument shape state.invocation.fields pair)
    (distinct : (arguments.map (·.1.name)).Nodup)
    (unset : ∀ pair ∈ arguments,
      state.invocation.arguments.isSet pair.1.name = false)
    (idle : state.cursor.argument = none) {rest : List Char}
    (unread : state.cursor.rest = text ++ ')' :: rest) :
    (readArguments {} objects start state).1 =
        { state.invocation with
          arguments := state.invocation.arguments.setAll
            (reread objects arguments) } ∧
      state.cursor.Passes (text ++ [')'])
        (∀ pair ∈ arguments, pair.2.KnownIn objects)
        (readArguments {} objects start state).2 := by
  have exact : ∀ pair ∈ arguments, pair.2.Exact :=
    fun pair member => (areArguments pair member).exact
  have read := readArguments_spelled {} objects start spaced state names
    apart (fun pair member => (areArguments pair member).spelled) distinct
    unset idle unread
  rwa [readBack_of_exact exact, flatMap_argumentErrors_of_exact exact] at read

/-- An argument list whose parenthesis is open behind a keyword for the command
and some blanks. -/
def openedBy (keyword : String) (command : Command) (c : Cursor)
    (blanks body : List Char) : ArgumentList :=
  { cursor := (c.inCommand keyword).behind
      (keyword.toList ++ (blanks ++ ['('])) body
    invocation := { Invocation.ofCommand keyword command with line := c.line } }

/-- An argument list whose parenthesis is open behind the keyword and some
blanks. -/
def openedList (command : Command) (c : Cursor) (blanks body : List Char) :
    ArgumentList :=
  { cursor := (c.inCommand command.name).behind
      (command.name.toList ++ (blanks ++ ['('])) body
    invocation :=
      { Invocation.ofCommand command.name command with line := c.line } }

/-- A keyword with a parenthesis behind it opens an argument list. -/
theorem readStatement_openedBy {registry : Registry} {keyword : String}
    {command : Command} (registered : registry.get? keyword = some command)
    (word : IsIdentifier keyword) (dialect : Dialect)
    (objects : ObjectTable) {c : Cursor} {blanks body : List Char}
    (isSpace : IsSpace blanks)
    (unread : c.rest = keyword.toList ++ (blanks ++ '(' :: body)) :
    ∃ start, readStatement registry dialect objects c =
      (some (readArguments dialect objects start
          (openedBy keyword command c blanks body)).1,
        (readArguments dialect objects start
          (openedBy keyword command c blanks body)).2.leaveCommand) := by
  have stops : ∀ other, (blanks ++ '(' :: body).head? = some other →
      isWord other = false :=
    fun other found => isWord_head?_space isSpace (by decide) found
  have isKeyword := identifier?_append word stops
  have moved := Cursor.moveTo_eq_behind unread
  let here := (c.inCommand keyword).behind keyword.toList
    (blanks ++ '(' :: body)
  have start : here.skipBlanks = (c.inCommand keyword).behind
      (keyword.toList ++ blanks) ('(' :: body) := by
    rw [Cursor.skipBlanks_space isSpace rfl (by decide)]
    exact Cursor.behind_behind _ _ _ _ _
  have opens : here.skipBlanks.peek? = some '(' := by
    rw [start]
    rfl
  have next : here.skipBlanks.next = (c.inCommand keyword).behind
      (keyword.toList ++ (blanks ++ ['('])) body := by
    rw [start, Cursor.next_eq_behind (Cursor.rest_behind _ _ _),
      Cursor.behind_behind, List.append_assoc]
  refine ⟨here.skipBlanks.line, ?_⟩
  simp only [readStatement, unread, isKeyword, moved, String.ofList_toList,
    Registry.create?, registered, Option.map_some]
  change ((readInvocation dialect objects _ here).1,
    (readInvocation dialect objects _ here).2.leaveCommand) = _
  simp only [readInvocation, opens, if_true, next]
  rfl

theorem readStatement_opened {registry : Registry} {command : Command}
    (registered : registry.get? command.name = some command)
    (word : IsIdentifier command.name) (dialect : Dialect)
    (objects : ObjectTable) {c : Cursor} {blanks body : List Char}
    (areBlanks : IsBlanks blanks)
    (unread : c.rest = command.name.toList ++ (blanks ++ '(' :: body)) :
    ∃ start, readStatement registry dialect objects c =
      (some (readArguments dialect objects start
          (openedList command c blanks body)).1,
        (readArguments dialect objects start
          (openedList command c blanks body)).2.leaveCommand) :=
  readStatement_openedBy registered word dialect objects areBlanks.isSpace
    unread

/-- A keyword and an argument list are read as one invocation. -/
theorem readStatement_text {shape : ObjectTable} {registry : Registry}
    {command : Command} (registered : registry.get? command.name = some command)
    (named : command.WellNamed) (dialect : Dialect) (objects : ObjectTable)
    {arguments : List (Field × Value)}
    (spelled : ∀ pair ∈ arguments, IsSpelled shape command.fields pair)
    (distinct : (arguments.map (·.1.name)).Nodup) {blanks text : List Char}
    (areBlanks : IsBlanks blanks)
    (spaced : Spaced dialect.Spells arguments text) {c : Cursor}
    (idle : c.command = none ∧ c.argument = none) {rest : List Char}
    (unread : c.rest =
      command.name.toList ++ (blanks ++ '(' :: (text ++ ')' :: rest))) :
    (readStatement registry dialect objects c).1 = some
        { keyword := command.name, line := c.line, command
          arguments := (Arguments.ofDefaults command.fields).setAll
            (readBack objects arguments) } ∧
      c.Crosses (command.name.toList ++ (blanks ++ '(' :: (text ++ [')'])))
        (arguments.flatMap (argumentErrors dialect))
        (∀ pair ∈ arguments, pair.2.KnownIn objects)
        (readStatement registry dialect objects c).2 := by
  have split : (c.inCommand command.name).rest =
      (command.name.toList ++ (blanks ++ ['('])) ++ (text ++ ')' :: rest) := by
    change c.rest = _
    simp [unread]
  have begun := Cursor.passes_behind split
    (∀ pair ∈ arguments, pair.2.KnownIn objects)
  obtain ⟨start, read⟩ := readStatement_opened registered named.name dialect
    objects areBlanks unread
  have list := readArguments_spelled dialect objects start spaced
    (openedList command c blanks (text ++ ')' :: rest))
    (fun pair member => named.fields pair.1 (spelled pair member).member)
    named.apart spelled distinct
    (fun pair _ => Arguments.isSet_ofDefaults _ _) rfl rfl
  rw [read]
  refine ⟨congrArg some list.1, ?_⟩
  have whole := crosses_leaveCommand idle (begun.trans list.2)
  simpa using whole

end Parser

namespace Invocation

/-- Every field has its slot with a value of its type, and script text can
spell the values. -/
structure WellFormed (objects : ObjectTable) (invocation : Invocation) :
    Prop where
  aligned : invocation.Aligned
  typed : ∀ pair ∈ invocation.fields.zip invocation.arguments.slots,
    pair.2.value.HasType objects pair.1.type
  spellable : ∀ slot ∈ invocation.arguments.slots, slot.value.Spellable
  exact : ∀ slot ∈ invocation.arguments.slots, slot.value.Exact

/-- The invocation is well-formed but for its doubles, which need not be read
back. -/
structure Spelled (objects : ObjectTable) (invocation : Invocation) :
    Prop where
  aligned : invocation.Aligned
  typed : ∀ pair ∈ invocation.fields.zip invocation.arguments.slots,
    pair.2.value.HasType objects pair.1.type
  spellable : ∀ slot ∈ invocation.arguments.slots, slot.value.Spellable
  settled : ∀ slot ∈ invocation.arguments.slots, slot.value.Settled

theorem WellFormed.spelled {objects : ObjectTable} {invocation : Invocation}
    (wellFormed : invocation.WellFormed objects) :
    invocation.Spelled objects :=
  ⟨wellFormed.aligned, wellFormed.typed, wellFormed.spellable,
    fun slot member => .inr (wellFormed.exact slot member)⟩

theorem shownArguments_eq {invocation : Invocation}
    (aligned : invocation.Aligned) :
    invocation.shownArguments = invocation.shownFields.map argumentText := by
  rw [shownArguments, shownFields, List.map_map]
  apply List.map_congr_left
  intro pair member
  have named := Slot.name_eq_of_mem_zip aligned (List.mem_filter.mp member).1
  simp [argumentText, named]

theorem mem_shownFields {invocation : Invocation} {pair : Field × Value}
    (member : pair ∈ invocation.shownFields) :
    ∃ slot, (pair.1, slot) ∈ invocation.fields.zip invocation.arguments.slots ∧
      pair.2 = slot.value ∧ pair.1.shows pair.2 = true := by
  obtain ⟨⟨field, slot⟩, inside, rfl⟩ := List.mem_map.mp member
  obtain ⟨inZip, shown⟩ := List.mem_filter.mp inside
  exact ⟨slot, inZip, rfl, shown⟩

theorem Spelled.isSpelled {objects : ObjectTable} {invocation : Invocation}
    (spelled : invocation.Spelled objects) {pair : Field × Value}
    (member : pair ∈ invocation.shownFields) :
    IsSpelled objects invocation.fields pair := by
  obtain ⟨field, value⟩ := pair
  obtain ⟨slot, inside, rfl, shown⟩ := mem_shownFields member
  have inSlots := (List.of_mem_zip inside).2
  exact
    { member := (List.of_mem_zip inside).1
      scriptable := (Bool.and_eq_true _ _ ▸ shown).1
      typed := spelled.typed _ inside
      spellable := spelled.spellable _ inSlots
      settled := spelled.settled _ inSlots }

theorem WellFormed.exact_of_mem_shownFields {objects : ObjectTable}
    {invocation : Invocation} (wellFormed : invocation.WellFormed objects)
    {pair : Field × Value} (member : pair ∈ invocation.shownFields) :
    pair.2.Exact := by
  obtain ⟨slot, inside, same, _⟩ := mem_shownFields member
  rw [same]
  exact wellFormed.exact slot (List.of_mem_zip inside).2

theorem nodup_shownFields {invocation : Invocation}
    (aligned : invocation.Aligned)
    (distinct : (invocation.fields.map (·.name)).Nodup) :
    (invocation.shownFields.map (·.1.name)).Nodup := by
  have kept : (invocation.shownFields.map (·.1.name)).Sublist
      (invocation.fields.map (·.name)) := by
    rw [shownFields, List.map_map]
    refine (List.filter_sublist.map _).trans ?_
    have names := congrArg (List.map Field.name) (map_fst_fields_zip aligned)
    rw [List.map_map] at names
    rw [← names]
    exact List.Sublist.refl _
  exact distinct.sublist kept

/-- The invocation as it is read from its own text at a line: what can be read
is set, and every other field has its default. -/
def heard (objects : ObjectTable) (line : Nat) (invocation : Invocation) :
    Invocation :=
  { keyword := invocation.name
    line
    command := invocation.command
    arguments := (Arguments.ofDefaults invocation.fields).setAll
      (readBack objects invocation.shownFields) }

/-- The errors that the text of an invocation is read with. -/
def readErrors (dialect : Dialect) (invocation : Invocation) : List Problem :=
  invocation.shownFields.flatMap (argumentErrors dialect)

/-- The text of an invocation is read as far as it can be, and reading goes on
right behind it. -/
theorem readStatement_heard {shape : ObjectTable} {registry : Registry}
    {invocation : Invocation}
    (registered : registry.get? invocation.name = some invocation.command)
    (named : invocation.command.WellNamed)
    (spelled : invocation.Spelled shape) (dialect : Dialect)
    (objects : ObjectTable) {c : Cursor}
    (idle : c.command = none ∧ c.argument = none) {rest : List Char}
    (unread : c.rest = invocation.toScript.toList ++ rest) :
    (Parser.readStatement registry dialect objects c).1 =
        some (invocation.heard objects c.line) ∧
      c.Crosses invocation.toScript.toList (invocation.readErrors dialect)
        (∀ pair ∈ invocation.shownFields, pair.2.KnownIn objects)
        (Parser.readStatement registry dialect objects c).2 := by
  have chars : invocation.toScript.toList = invocation.command.name.toList ++
      '(' :: (commaSeparated (invocation.shownFields.map argumentText) ++
        [')']) := by
    rw [toScript, String.toList_ofList, shownArguments_eq spelled.aligned]
    rfl
  have split : c.rest = invocation.command.name.toList ++ '(' ::
      (commaSeparated (invocation.shownFields.map argumentText) ++
        ')' :: rest) := by
    rw [unread, chars]
    simp
  have spaced := spaced_commaSeparated isBlanks_nil invocation.shownFields
    fun pair _ => dialect.spells_argumentText pair
  rw [chars]
  exact Parser.readStatement_text registered named dialect objects
    (fun pair member => spelled.isSpelled member)
    (nodup_shownFields spelled.aligned (Parser.nodup_names named.apart))
    isBlanks_nil spaced idle split

theorem WellFormed.heard_eq {shape : ObjectTable} {invocation : Invocation}
    (wellFormed : invocation.WellFormed shape)
    (named : invocation.command.WellNamed) (objects : ObjectTable)
    (line : Nat) :
    invocation.heard objects line =
      (invocation.restated line).resolved objects := by
  have exact := fun pair (member : pair ∈ invocation.shownFields) =>
    wellFormed.exact_of_mem_shownFields member
  have fields := setAll_shownFields objects invocation line
    wellFormed.aligned (Parser.nodup_names named.apart)
  rw [heard, readBack_of_exact exact, fields]
  rfl

/-- The text of an invocation is read as the invocation restated, and reading
goes on right behind it. -/
theorem readStatement_toScript {shape : ObjectTable} {registry : Registry}
    {invocation : Invocation}
    (registered : registry.get? invocation.name = some invocation.command)
    (named : invocation.command.WellNamed)
    (wellFormed : invocation.WellFormed shape) (objects : ObjectTable)
    {c : Cursor} (idle : c.command = none ∧ c.argument = none)
    {rest : List Char} (unread : c.rest = invocation.toScript.toList ++ rest) :
    (Parser.readStatement registry {} objects c).1 =
        some ((invocation.restated c.line).resolved objects) ∧
      c.Passes invocation.toScript.toList
        (∀ pair ∈ invocation.shownFields, pair.2.KnownIn objects)
        (Parser.readStatement registry {} objects c).2 := by
  have read := readStatement_heard registered named wellFormed.spelled {}
    objects idle unread
  rwa [wellFormed.heard_eq named, readErrors, flatMap_argumentErrors_of_exact
    fun pair member => wellFormed.exact_of_mem_shownFields member] at read

end Invocation

end GridScript
