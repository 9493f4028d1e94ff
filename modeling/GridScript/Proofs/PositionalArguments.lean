import GridScript.Proofs.GivenArguments
import GridScript.Proofs.Statements
import Mathlib.Data.List.Nodup

/-!
# Arguments by name and by position

A value without a name goes to the next field that is not set yet.  So a script
may give some of the fields by name, in any order, and then the values of the
other ones in the order of the fields: it says the same as one that names them
all.
-/

namespace GridScript

/-- Fields of different names may be set in any order. -/
theorem Arguments.setAll_perm {left right : List (Field × Value)}
    (perm : left.Perm right) (distinct : (left.map (·.1.name)).Nodup)
    (arguments : Arguments) :
    arguments.setAll left = arguments.setAll right := by
  refine perm.foldl_eq' ?_ arguments
  intro first inFirst second inSecond arguments
  by_cases same : second.1.name = first.1.name
  · rw [List.inj_on_of_nodup_map distinct inSecond inFirst same]
  · exact set_comm same arguments first.2 second.2

/-- Every field that scripts may set has its value, as far as script text can
say it, and every other field has its default. -/
def Command.filled (command : Command) (values : Field → Value) : Arguments :=
  ⟨command.fields.map fun field =>
    if field.scriptable then ⟨field.name, (values field).pruned, true⟩
    else field.initial⟩

theorem Command.setAll_ofDefaults (command : Command) (values : Field → Value)
    (distinct : (command.fields.map (·.name)).Nodup) :
    (Arguments.ofDefaults command.fields).setAll
        ((command.fields.filter (·.scriptable)).map fun field =>
          (field, (values field).pruned)) =
      command.filled values :=
  setAll_chosen id (·.scriptable) (fun field => (values field).pruned)
    command.fields [] distinct (by simp)

/-! ### A value is no name -/

theorem isWordStart_eq_false_of_isDecimalDigit {c : Char}
    (digit : isDecimalDigit c = true) : isWordStart c = false := by
  have bounds : 48 ≤ c.toNat ∧ c.toNat ≤ 57 := by
    simpa [isDecimalDigit, Char.le_def, UInt32.le_iff_toNat_le] using digit
  have ascii : c.toNat < 128 := by omega
  have noUnderscore : c ≠ '_' := by
    rintro rfl
    exact absurd bounds (by decide)
  have noLetter : isAsciiLetter c = false := by
    simp [isAsciiLetter, Char.le_def, UInt32.le_iff_toNat_le]
    omega
  simp [isWordStart, isLetter, ascii, noLetter, noUnderscore]

namespace Parser

theorem argumentName?_of_head {head : Char} (rest : List Char)
    (noStart : isWordStart head = false) :
    argumentName? (head :: rest) = none := by
  simp [argumentName?, identifier?, noStart]

theorem isDelimiter_visible {mark : Char} (delimits : isDelimiter mark = true) :
    isWord mark = false ∧ isPlainBlank mark = false ∧ mark ≠ '=' := by
  simp only [isDelimiter, Bool.or_eq_true, beq_iff_eq] at delimits
  rcases delimits with ((rfl | rfl) | rfl) | rfl <;> decide

/-- A word is no name if a delimiter follows it, behind blanks or at once. -/
theorem argumentName?_word {word : List Char}
    (areWord : ∀ c ∈ word, isWord c = true) {blanks : List Char}
    (areBlanks : IsBlanks blanks) {mark : Char}
    (delimits : isDelimiter mark = true) (rest : List Char) :
    argumentName? (word ++ (blanks ++ mark :: rest)) = none := by
  obtain ⟨noWord, noBlank, noEquals⟩ := isDelimiter_visible delimits
  have stops : ∀ c, (blanks ++ mark :: rest).head? = some c →
      isWord c = false :=
    fun c found => isWord_head?_blanks areBlanks noWord found
  have left : (blanks ++ mark :: rest).dropWhile isPlainBlank = mark :: rest :=
    (takeWhile_token areBlanks (by
      intro c found
      cases found
      exact noBlank)).2
  have dropped := (takeWhile_token areWord stops).2
  unfold argumentName? identifier?
  split
  · rfl
  · rename_i name behind found
    split at found
    · cases found
    · rename_i head tail unread
      split at found
      · rename_i starts
        cases found
        have tailDropped : tail.dropWhile isWord = blanks ++ mark :: rest := by
          rw [← dropped, unread,
            List.dropWhile_cons_of_pos (isWord_of_isWordStart starts)]
        simp only [tailDropped, left, noEquals, if_false, delimits,
          Bool.not_true, Bool.and_false, Bool.false_eq_true]
      · cases found

theorem argumentName?_numeral {n : Numeral} (wellFormed : n.WellFormed)
    (rest : List Char) : argumentName? (n.text ++ rest) = none := by
  obtain ⟨some, digits⟩ := wellFormed.whole
  obtain ⟨first, whole, isWhole⟩ := List.exists_cons_of_ne_nil some
  have digit := isWordStart_eq_false_of_isDecimalDigit
    (digits first (by simp [isWhole]))
  rw [Numeral.text_eq, isWhole]
  rcases wellFormed.sign with sign | sign | sign <;> rw [sign]
  · exact argumentName?_of_head _ digit
  · exact argumentName?_of_head _ (by decide)
  · exact argumentName?_of_head _ (by decide)

/-- The text of a value in front of a comma or a parenthesis is not taken for
the name of an argument. -/
theorem argumentName?_laid {value : Value} (spellable : value.Spellable)
    (nonNull : value.isNullReference = false) {lexeme : List Char}
    (laid : value.Laid lexeme) {blanks : List Char}
    (areBlanks : IsBlanks blanks) {mark : Char}
    (isMark : mark = ',' ∨ mark = ')') (rest : List Char) :
    argumentName? (lexeme ++ (blanks ++ mark :: rest)) = none := by
  have delimits : isDelimiter mark = true := by
    rcases isMark with rfl | rfl <;> decide
  cases laid with
  | array => exact argumentName?_of_head _ (by decide)
  | atom single =>
      cases value with
      | string text => exact argumentName?_of_head _ (by decide)
      | bool value =>
          refine argumentName?_word ?_ areBlanks delimits rest
          apply List.all_eq_true.mp
          cases value <;> decide
      | int value =>
          simp only [Value.encodeChars, ← Numeral.text_ofInt]
          exact argumentName?_numeral (Numeral.wellFormed_ofInt value) _
      | double d =>
          simp only [Value.encodeChars]
          rcases d.scientific_cases with ⟨_, n, wellFormed, text⟩ | ⟨_, text⟩
          · rw [← text]
            exact argumentName?_numeral wellFormed _
          · simp only [List.mem_cons, List.not_mem_nil, or_false] at text
            rcases text with text | text | text <;> rw [text]
            · exact argumentName?_word (List.all_eq_true.mp (by decide))
                areBlanks delimits rest
            · exact argumentName?_word (List.all_eq_true.mp (by decide))
                areBlanks delimits rest
            · exact argumentName?_of_head _ (by decide)
      | variant name =>
          have isWord := spellable.variant name (by simp [Value.leaves])
          exact argumentName?_word isWord.2 areBlanks delimits rest
      | array items => cases single
      | reference object =>
          cases object with
          | none => cases nonNull
          | some object =>
              have isWord := spellable.className object (by simp [Value.leaves])
              have split : (Value.reference (some object)).encodeChars ++
                  (blanks ++ mark :: rest) = object.className.toList ++
                    ([] ++ ':' :: (decimalDigits object.id ++
                      (blanks ++ mark :: rest))) := by
                simp [Value.encodeChars, Cursor.toList_text]
              rw [split]
              exact argumentName?_word isWord.2 isBlanks_nil (by decide) _

/-! ### One argument -/

/-- A value that a script gives for a field, under a name or by its position. -/
structure GivenValue where
  field : Field
  value : Value
  name : Option String

/-- What may stand between the name of an argument and its value: an equals sign
with any blanks around it, or blanks alone. -/
inductive Separates : List Char → Bool → Prop where
  | equals {before after : List Char} (leading : IsBlanks before)
      (trailing : IsBlanks after) : Separates (before ++ '=' :: after) true
  | blanks {between : List Char} (areBlanks : IsBlanks between)
      (nonEmpty : between ≠ []) : Separates between false

/-- The name is told from what stands behind the separator, or behind the equals
sign in it, unless this begins like something else. -/
theorem argumentName?_separates {name : String} (word : IsIdentifier name)
    {separator : List Char} {equals : Bool}
    (separates : Separates separator equals) :
    ∃ front blanks, separator = front ++ blanks ∧ IsBlanks blanks ∧
      ∀ head rest, isPlainBlank head = false → isDelimiter head = false →
        head ≠ '=' →
          argumentName? (name.toList ++ (front ++ (blanks ++ head :: rest))) =
            some (⟨name, equals⟩, blanks ++ head :: rest) := by
  cases separates with
  | @equals before after leading trailing =>
      refine ⟨before ++ ['='], after, by simp, trailing, ?_⟩
      intro head rest _ _ _
      rw [List.append_assoc]
      exact argumentName?_equals word leading _
  | blanks areBlanks nonEmpty =>
      refine ⟨separator, [], by simp, isBlanks_nil, ?_⟩
      intro head rest apart begins noEquals
      exact argumentName?_apart word areBlanks nonEmpty apart begins noEquals _

namespace GivenValue

/-- The text spells the entry. -/
inductive Spells : GivenValue → List Char → Prop where
  | named {field : Field} {value : Value} {name : String}
      {separator lexeme : List Char} {equals : Bool}
      (separates : Separates separator equals) (laid : value.Laid lexeme) :
      Spells ⟨field, value, some name⟩ (name.toList ++ (separator ++ lexeme))
  | alone {field : Field} {value : Value} {lexeme : List Char}
      (laid : value.Laid lexeme) : Spells ⟨field, value, none⟩ lexeme

/-- The field is one that scripts may set, a name is one of its own, and the
value has the type of the field and is read back from script text. -/
structure IsSound (objects : ObjectTable) (fields : List Field)
    (entry : GivenValue) : Prop where
  member : entry.field ∈ fields
  scriptable : entry.field.scriptable = true
  word : ∀ name, entry.name = some name → IsIdentifier name
  accepted : ∀ name, entry.name = some name → entry.field.accepts name = true
  typed : entry.value.HasType objects entry.field.type
  spellable : entry.value.Spellable
  exact : entry.value.Exact
  nonNull : entry.value.isNullReference = false

/-- The setting that the entry stands for. -/
def setting (entry : GivenValue) : Field × Value :=
  (entry.field, entry.value.pruned)

end GivenValue

/-- The list behind an entry, but for the cursor. -/
def ArgumentList.bind (state : ArgumentList) (entry : GivenValue) :
    ArgumentList :=
  { state with
    invocation := state.invocation.set entry.field.name entry.value.pruned
    passed := if entry.name.isSome then state.passed
      else passedBy state entry.field }

/-- The value of an argument is read up to the comma or the parenthesis behind
it, and the comma is passed. -/
theorem passField_value {objects : ObjectTable} {field : Field} {value : Value}
    (typed : value.HasType objects field.type) (spellable : value.Spellable)
    (exact : value.Exact) {before lexeme after comma rest : List Char}
    (leading : IsBlanks before) (laid : value.Laid lexeme)
    (trailing : IsBlanks after)
    (ends : EndsArgument comma rest)
    {c : Cursor}
    (unread : c.rest = before ++ (lexeme ++ (after ++ (comma ++ rest))))
    (state : ArgumentList) :
    passField objects field c state =
      { state with
        cursor := (c.behind (before ++ (lexeme ++ (after ++ comma)))
          rest).leaveArgument
        invocation := state.invocation.set field.name value.pruned } := by
  obtain ⟨next, more, isDelimiter, follows⟩ := ends.exists_cons
  rw [follows] at unread
  obtain ⟨read, crosses⟩ := readValue_text objects typed spellable (.inr exact)
    leading laid trailing isDelimiter unread
  rw [exact.readBack?, Value.resolved_eq_self _ typed.knownIn.pruned] at read
  rw [exact.readErrors] at crosses
  have left : (c.readValue objects field.type).2.skipBlanks.rest =
      comma ++ rest := by
    have passed := crosses.rest.symm.trans unread
    rw [follows]
    simpa using passed
  have behind := Cursor.Passes.eq_behind crosses typed.knownIn
  have finished : finishArgument (c.readValue objects field.type).2 =
      (c.behind (before ++ (lexeme ++ (after ++ comma)))
        rest).leaveArgument := by
    rw [ends.finishArgument left, behind, Cursor.behind_behind]
    simp
  simp only [passField, readField_eq_give, read, finished]
  rfl

/-- A value in front of a comma or a parenthesis is read for the next field. -/
theorem argumentStep_position {dialect : Dialect}
    (positional : dialect.positional = true) (objects : ObjectTable)
    (start : Nat) {state : ArgumentList} {field : Field}
    (next : positionalField? state = some field) {lead body : List Char}
    (leading : IsSpace lead) {head : Char} {tail : List Char}
    (opens : body = head :: tail) (visible : isBlank head = false)
    (noMark : head ≠ ',' ∧ head ≠ ')') (noName : argumentName? body = none)
    (unread : state.cursor.rest = lead ++ body) :
    argumentStep dialect objects start state =
      .continued (passField objects field
        ((state.cursor.behind lead body).inArgument field.name)
        { state with passed := passedBy state field }) := by
  have here : state.cursor.skipBlanks = state.cursor.behind lead body := by
    rw [opens] at unread ⊢
    exact Cursor.skipBlanks_space leading unread visible
  have argument : readArgument dialect objects
      (state.cursor.behind lead body) state =
        readField objects field
          ((state.cursor.behind lead body).inArgument field.name)
          { state with passed := passedBy state field } := by
    simp only [readArgument, Cursor.rest_behind, noName, readPositional,
      positional, if_true, next]
  unfold argumentStep
  simp only [here, Cursor.rest_behind, opens, noMark.1, noMark.2, if_false]
  rw [← opens, argument]
  rfl

theorem behind_leaveArgument {c : Cursor} (outside : c.argument = none)
    (name : String) (first second body rest : List Char) :
    (((c.behind first body).inArgument name).behind second
        rest).leaveArgument = c.behind (first ++ second) rest := by
  simp [Cursor.behind, Cursor.inArgument, Cursor.leaveArgument, outside,
    Nat.add_assoc]

/-- An entry is read and passed together with the comma behind it. -/
theorem argumentStep_entry {objects : ObjectTable} (start : Nat)
    {state : ArgumentList}
    (apart : state.invocation.fields.Pairwise fun left right =>
      ∀ name, left.accepts name = true → right.accepts name = false)
    {entry : GivenValue} (sound : entry.IsSound objects state.invocation.fields)
    (unset : state.invocation.arguments.isSet entry.field.name = false)
    (next : entry.name = none → positionalField? state = some entry.field)
    (outside : state.cursor.argument = none)
    {lead lexeme after comma rest : List Char} (leading : IsBlanks lead)
    (spells : entry.Spells lexeme) (trailing : IsBlanks after)
    (ends : EndsArgument comma rest)
    (unread : state.cursor.rest =
      lead ++ (lexeme ++ (after ++ (comma ++ rest)))) :
    argumentStep {} objects start state =
      .continued { state.bind entry with
        cursor := state.cursor.behind (lead ++ (lexeme ++ (after ++ comma)))
          rest } := by
  cases spells with
  | @named field value name separator lexeme equals separates laid =>
      have word := sound.word name rfl
      have found := find?_accepts apart sound.member (sound.accepted name rfl)
      obtain ⟨front, blanks, rfl, areBlanks, named⟩ :=
        argumentName?_separates word separates
      obtain ⟨head, tail, chars, visible, begins, noEquals⟩ :=
        begins_laid sound.spellable sound.nonNull laid
      have named : argumentName? (name.toList ++ (front ++ (blanks ++
          (lexeme ++ (after ++ (comma ++ rest)))))) =
            some (⟨name, equals⟩, blanks ++
              (lexeme ++ (after ++ (comma ++ rest)))) := by
        rw [chars]
        exact named head _ (isPlainBlank_eq_false visible) begins noEquals
      have split : state.cursor.rest = lead ++ (name.toList ++ (front ++
          (blanks ++ (lexeme ++ (after ++ (comma ++ rest)))))) := by
        rw [unread]
        simp
      have allowed : ∀ c, checkSeparator {} equals c = c := by
        intro c
        cases equals <;> rfl
      rw [argumentStep_named {} objects start leading word named found
        sound.scriptable unset split, allowed,
        passField_value sound.typed sound.spellable sound.exact areBlanks laid
          trailing ends rfl, behind_leaveArgument outside]
      simp [ArgumentList.bind]
  | @alone field value lexeme laid =>
      obtain ⟨head, tail, chars, visible, begins, _⟩ :=
        begins_laid sound.spellable sound.nonNull laid
      have noMark : head ≠ ',' ∧ head ≠ ')' := by
        constructor <;> rintro rfl <;> exact absurd begins (by decide)
      have noName : argumentName? (lexeme ++ (after ++ (comma ++ rest))) =
          none := by
        rcases ends with rfl | ⟨rfl, more, rfl⟩
        · exact argumentName?_laid sound.spellable sound.nonNull laid trailing
            (.inl rfl) _
        · exact argumentName?_laid sound.spellable sound.nonNull laid trailing
            (.inr rfl) _
      rw [argumentStep_position rfl objects start (next rfl) leading.isSpace
        (by rw [chars]; rfl) visible noMark noName unread,
        passField_value sound.typed sound.spellable sound.exact isBlanks_nil
          laid trailing ends rfl, behind_leaveArgument outside]
      rfl

/-! ### One argument after another -/

/-- Each entry is for a field that is not set yet, and one without a name is for
the field that is next. -/
def ArgumentList.Awaits : ArgumentList → List GivenValue → Prop
  | _, [] => True
  | state, entry :: entries =>
    state.invocation.arguments.isSet entry.field.name = false ∧
      (entry.name = none → positionalField? state = some entry.field) ∧
      (state.bind entry).Awaits entries

/-- It does not depend on where the list stands. -/
theorem ArgumentList.Awaits.elsewhere {entries : List GivenValue}
    {state : ArgumentList} (awaits : state.Awaits entries) (c : Cursor) :
    { state with cursor := c }.Awaits entries := by
  induction entries generalizing state with
  | nil => trivial
  | cons entry entries induction =>
      exact ⟨awaits.1, awaits.2.1, induction awaits.2.2⟩

/-- Entries that are awaited set their fields one after another. -/
theorem readArguments_entries {objects : ObjectTable} (start : Nat)
    {entries : List GivenValue} {text : List Char}
    (spaced : Spaced GivenValue.Spells entries text) (state : ArgumentList)
    (apart : state.invocation.fields.Pairwise fun left right =>
      ∀ name, left.accepts name = true → right.accepts name = false)
    (sound : ∀ entry ∈ entries, entry.IsSound objects state.invocation.fields)
    (awaits : state.Awaits entries) (outside : state.cursor.argument = none)
    {rest : List Char} (unread : state.cursor.rest = text ++ ')' :: rest) :
    readArguments {} objects start state =
      ({ state.invocation with
          arguments := state.invocation.arguments.setAll
            (entries.map GivenValue.setting) },
        state.cursor.behind (text ++ [')']) rest) := by
  induction spaced generalizing state with
  | nil areBlanks =>
      rw [readArguments_of_finished (argumentStep_close _ _ _ areBlanks unread)]
      rfl
  | @last entry before lexeme after leading spells trailing =>
      have split : state.cursor.rest =
          before ++ (lexeme ++ (after ++ ([] ++ ')' :: rest))) := by
        simp [unread]
      have step := argumentStep_entry start apart
        (sound entry List.mem_cons_self) awaits.1 awaits.2.1 outside leading
        spells trailing (.inr ⟨rfl, rest, rfl⟩) split
      rw [readArguments_of_continued step,
        readArguments_of_finished (argumentStep_close _ _ _ isBlanks_nil rfl)]
      simp [Cursor.behind_behind, ArgumentList.bind, Invocation.set,
        GivenValue.setting, Arguments.setAll]
  | @cons entry entries before lexeme after text leading spells trailing more
      others induction =>
      have split : state.cursor.rest = before ++ (lexeme ++
          (after ++ ([','] ++ (text ++ ')' :: rest)))) := by
        simp [unread]
      have step := argumentStep_entry start apart
        (sound entry List.mem_cons_self) awaits.1 awaits.2.1 outside leading
        spells trailing (.inl rfl) split
      have later := induction
        { state.bind entry with
          cursor := state.cursor.behind
            (before ++ (lexeme ++ (after ++ [','])))
            (text ++ ')' :: rest) } apart
        (fun other member => sound other (List.mem_cons_of_mem entry member))
        (awaits.2.2.elsewhere _) outside rfl
      rw [readArguments_of_continued step, later, Cursor.behind_behind]
      simp [ArgumentList.bind, Invocation.set, GivenValue.setting,
        Arguments.setAll_cons]

/-! ### Which field is next -/

/-- The fields that scripts may set. -/
def scriptables (fields : List Field) : List Field :=
  fields.filter (·.scriptable)

/-- The fields that positional values can still reach. -/
def ArgumentList.ahead (state : ArgumentList) : List Field :=
  (scriptables state.invocation.fields).drop state.passed

theorem passedBy_eq {state : ArgumentList} {front back : List Field}
    {field : Field}
    (split : scriptables state.invocation.fields = front ++ field :: back)
    (distinct : ((scriptables state.invocation.fields).map (·.name)).Nodup) :
    passedBy state field = front.length + 1 := by
  rw [split, List.map_append, List.map_cons, List.nodup_middle,
    List.nodup_cons] at distinct
  have absent : front.findIdx? (·.name == field.name) = none := by
    rw [List.findIdx?_eq_none_iff]
    intro other member
    rw [beq_eq_false_iff_ne]
    intro same
    exact distinct.1 (List.mem_append_left _ (same ▸
      List.mem_map.mpr ⟨other, member, rfl⟩))
  have found : (scriptables state.invocation.fields).findIdx?
      (·.name == field.name) = some front.length := by
    rw [split, List.findIdx?_append, absent, List.findIdx?_cons]
    simp
  rw [scriptables] at found
  rw [passedBy, found]

/-- Values without names are awaited for the fields that are ahead and not set
yet, in their order. -/
theorem awaits_alone (values : Field → Value) (fields : List Field)
    (state : ArgumentList)
    (distinct : ((scriptables state.invocation.fields).map (·.name)).Nodup)
    (unset : state.ahead.filter
      (!state.invocation.arguments.isSet ·.name) = fields) :
    state.Awaits (fields.map fun field => ⟨field, values field, none⟩) := by
  induction fields generalizing state with
  | nil => trivial
  | cons field fields induction =>
      obtain ⟨skipped, back, split, allSet, isUnset, rest⟩ :=
        List.filter_eq_cons_iff.mp unset
      have whole : scriptables state.invocation.fields =
          ((scriptables state.invocation.fields).take state.passed ++
            skipped) ++ field :: back := by
        rw [List.append_assoc, ← split]
        exact (List.take_append_drop _ _).symm
      have passed := passedBy_eq whole distinct
      generalize (scriptables state.invocation.fields).take state.passed ++
        skipped = front at whole passed
      refine ⟨by simpa using isUnset, fun _ => ?_, ?_⟩
      · have first := List.head?_filter (p := fun field =>
          !state.invocation.arguments.isSet field.name) (l := state.ahead)
        rw [unset] at first
        exact first.symm
      · refine induction _ distinct ?_
        have ahead : (state.bind ⟨field, values field, none⟩).ahead =
            back := by
          change (scriptables state.invocation.fields).drop
            (passedBy state field) = back
          rw [passed, whole]
          simp
        rw [ahead, ← rest]
        rw [whole, List.map_append, List.map_cons, List.nodup_middle,
          List.nodup_cons] at distinct
        refine List.filter_congr fun other member => ?_
        have differs : other.name ≠ field.name := by
          intro same
          exact distinct.1 (List.mem_append_right _ (same ▸
            List.mem_map.mpr ⟨other, member, rfl⟩))
        exact congrArg (!·) (Arguments.isSet_set_of_ne differs _ _)

/-- The entries of a script that gives these fields by these names, and then
other fields by their position. -/
def mixed (values : Field → Value) (named : List (Field × String))
    (others : List Field) : List GivenValue :=
  named.map (fun pair => ⟨pair.1, values pair.1, some pair.2⟩) ++
    others.map fun field => ⟨field, values field, none⟩

/-- Whether the field is among those given by name. -/
def isNamed (named : List (Field × String)) (field : Field) : Bool :=
  named.any (·.1.name == field.name)

theorem isSet_bind (state : ArgumentList) {entry : GivenValue}
    (present : entry.field.name ∈
      state.invocation.arguments.slots.map (·.name)) (name : String) :
    (state.bind entry).invocation.arguments.isSet name =
      (entry.field.name == name ||
        state.invocation.arguments.isSet name) := by
  by_cases same : entry.field.name = name
  · subst same
    rw [beq_self_eq_true, Bool.true_or]
    exact Arguments.isSet_set_self _ present
  · rw [beq_eq_false_iff_ne.mpr same, Bool.false_or]
    exact Arguments.isSet_set_of_ne (Ne.symm same) _ _

/-- Fields given by name are passed over by the values behind them. -/
theorem awaits_mixed (values : Field → Value) (named : List (Field × String))
    (others : List Field) (state : ArgumentList)
    (distinct : ((scriptables state.invocation.fields).map (·.name)).Nodup)
    (present : ∀ pair ∈ named,
      pair.1.name ∈ state.invocation.arguments.slots.map (·.name))
    (once : (named.map (·.1.name)).Nodup)
    (unset : ∀ pair ∈ named,
      state.invocation.arguments.isSet pair.1.name = false)
    (rest : (state.ahead.filter fun field =>
      !(state.invocation.arguments.isSet field.name ||
        isNamed named field)) = others) :
    state.Awaits (mixed values named others) := by
  induction named generalizing state with
  | nil =>
      refine awaits_alone values others state distinct ?_
      simpa [isNamed] using rest
  | cons pair named induction =>
      rw [List.map_cons, List.nodup_cons] at once
      have here := present pair List.mem_cons_self
      change state.Awaits
        (⟨pair.1, values pair.1, some pair.2⟩ :: mixed values named others)
      refine ⟨unset pair List.mem_cons_self, fun noName => (by cases noName),
        ?_⟩
      have isSet := @isSet_bind state ⟨pair.1, values pair.1, some pair.2⟩ here
      refine induction _ distinct ?_ once.2 ?_ ?_
      · intro other member
        have later := present other (List.mem_cons_of_mem pair member)
        rw [← Arguments.names_setSlots pair.1.name (values pair.1).pruned]
          at later
        exact later
      · intro other member
        have differs : pair.1.name ≠ other.1.name := by
          intro same
          exact once.1 (same ▸ List.mem_map.mpr ⟨other, member, rfl⟩)
        rw [isSet, unset other (List.mem_cons_of_mem pair member),
          beq_eq_false_iff_ne.mpr differs]
        rfl
      · rw [← rest]
        refine List.filter_congr fun field _ => ?_
        rw [isSet, isNamed, isNamed, List.any_cons]
        cases pair.1.name == field.name <;> simp

/-- The settings of such a script are those of all fields that scripts may set,
in some order. -/
theorem perm_mixed (values : Field → Value) {fields : List Field}
    {named : List (Field × String)}
    (distinct : ((scriptables fields).map (·.name)).Nodup)
    (inside : ∀ pair ∈ named, pair.1 ∈ scriptables fields)
    (once : (named.map (·.1.name)).Nodup) :
    ((mixed values named
        ((scriptables fields).filter (!isNamed named ·))).map
          GivenValue.setting).Perm
      ((scriptables fields).map fun field =>
        (field, (values field).pruned)) := by
  have front : (named.map (·.1)).Perm
      ((scriptables fields).filter (isNamed named)) := by
    rw [List.perm_ext_iff_of_nodup]
    · intro field
      simp only [List.mem_map, List.mem_filter, isNamed, List.any_eq_true,
        beq_iff_eq]
      constructor
      · rintro ⟨pair, member, rfl⟩
        exact ⟨inside pair member, pair, member, rfl⟩
      · rintro ⟨member, pair, inNamed, same⟩
        exact ⟨pair, inNamed,
          Field.eq_of_name_eq distinct (inside pair inNamed) member same⟩
    · exact List.Nodup.of_map Field.name (by rwa [List.map_map])
    · exact (List.Nodup.of_map Field.name distinct).filter _
  have whole := (front.append_right _).trans
    (List.filter_append_perm (isNamed named) (scriptables fields))
  have settings := whole.map fun field => (field, (values field).pruned)
  simpa [mixed, GivenValue.setting, Function.comp_def] using settings

end Parser

/-- A command with values for the fields that scripts may set, and the names
that a script gives some of these fields by. -/
structure MixedScene where
  registry : Registry
  objects : ObjectTable := .empty
  keyword : String
  command : Command
  values : Field → Value
  /-- The fields that are given by name, in the order of the script. -/
  named : List (Field × String)

namespace MixedScene

/-- The names of the command tell its fields apart, the values are ones that
script text can say, and each field is given by one of its own names. -/
structure Proper (scene : MixedScene) : Prop where
  registered : scene.registry.get? scene.keyword = some scene.command
  isKeyword : IsIdentifier scene.keyword
  wellNamed : scene.command.WellNamed
  typed : ∀ field ∈ Parser.scriptables scene.command.fields,
    (scene.values field).HasType scene.objects field.type
  exact : ∀ field ∈ Parser.scriptables scene.command.fields,
    (scene.values field).Exact
  nonNull : ∀ field ∈ Parser.scriptables scene.command.fields,
    (scene.values field).isNullReference = false
  inside : ∀ pair ∈ scene.named,
    pair.1 ∈ Parser.scriptables scene.command.fields
  word : ∀ pair ∈ scene.named, IsIdentifier pair.2
  accepted : ∀ pair ∈ scene.named, pair.1.accepts pair.2 = true
  once : (scene.named.map (·.1.name)).Nodup

/-- Every value has a text that is its own. -/
def Spellable (scene : MixedScene) : Prop :=
  ∀ field ∈ Parser.scriptables scene.command.fields,
    (scene.values field).Spellable

/-- The entries of the script: the named fields, and then the other ones in the
order of the command. -/
def entries (scene : MixedScene) : List Parser.GivenValue :=
  Parser.mixed scene.values scene.named
    ((Parser.scriptables scene.command.fields).filter
      (!Parser.isNamed scene.named ·))

/-- A script that consists of the keyword and this argument list. -/
def script (scene : MixedScene) (text : List Char) : String :=
  String.ofList (scene.keyword.toList ++ '(' :: (text ++ [')']))

/-- The script that names every field, in the order of the command. -/
def fullScript (scene : MixedScene) : String :=
  scene.script (commaSeparated
    ((Parser.scriptables scene.command.fields).map fun field =>
      argumentText (field, scene.values field)))

/-- The use of the command that has every value. -/
def invocation (scene : MixedScene) : Invocation :=
  { keyword := scene.keyword
    line := 1
    command := scene.command
    arguments := scene.command.filled scene.values }

theorem Proper.distinct {scene : MixedScene} (proper : scene.Proper) :
    ((Parser.scriptables scene.command.fields).map (·.name)).Nodup :=
  (Parser.nodup_names proper.wellNamed.apart).sublist
    (List.filter_sublist.map _)

theorem Proper.sound {scene : MixedScene} (proper : scene.Proper)
    (spellable : scene.Spellable) :
    ∀ entry ∈ scene.entries,
      entry.IsSound scene.objects scene.command.fields := by
  intro entry member
  rcases List.mem_append.mp member with inNamed | inOthers
  · obtain ⟨pair, inside, rfl⟩ := List.mem_map.mp inNamed
    have inFields := proper.inside pair inside
    obtain ⟨member, scriptable⟩ := List.mem_filter.mp inFields
    refine ⟨member, scriptable, ?_, ?_, proper.typed _ inFields,
      spellable _ inFields, proper.exact _ inFields, proper.nonNull _ inFields⟩
    · rintro name ⟨⟩
      exact proper.word pair inside
    · rintro name ⟨⟩
      exact proper.accepted pair inside
  · obtain ⟨field, inside, rfl⟩ := List.mem_map.mp inOthers
    have inFields := (List.mem_filter.mp inside).1
    obtain ⟨member, scriptable⟩ := List.mem_filter.mp inFields
    exact ⟨member, scriptable, fun _ noName => (by cases noName),
      fun _ noName => (by cases noName), proper.typed _ inFields,
      spellable _ inFields, proper.exact _ inFields, proper.nonNull _ inFields⟩

/-- The list of the script awaits these values in this order. -/
theorem Proper.awaits {scene : MixedScene} (proper : scene.Proper)
    (c : Cursor) (body : List Char) :
    (Parser.openedBy scene.keyword scene.command c [] body).Awaits
      scene.entries := by
  have noneSet := Arguments.isSet_ofDefaults scene.command.fields
  refine Parser.awaits_mixed scene.values scene.named _ _ proper.distinct ?_
    proper.once (fun pair _ => noneSet pair.1.name) ?_
  · intro pair member
    have inFields := (List.mem_filter.mp (proper.inside pair member)).1
    change pair.1.name ∈
      (Arguments.ofDefaults scene.command.fields).slots.map (·.name)
    rw [Arguments.names_ofDefaults]
    exact List.mem_map.mpr ⟨pair.1, inFields, rfl⟩
  · refine List.filter_congr fun field _ => ?_
    exact congrArg (fun set => !(set || Parser.isNamed scene.named field))
      (noneSet field.name)

/-- All its values are set. -/
theorem Proper.setAll_entries {scene : MixedScene} (proper : scene.Proper) :
    (Arguments.ofDefaults scene.command.fields).setAll
        (scene.entries.map Parser.GivenValue.setting) =
      scene.command.filled scene.values := by
  have perm := Parser.perm_mixed scene.values proper.distinct proper.inside
    proper.once
  have once := (perm.map (·.1.name)).nodup_iff.mpr (by
    rw [List.map_map]
    exact proper.distinct)
  exact (Arguments.setAll_perm perm once _).trans
    (scene.command.setAll_ofDefaults scene.values
      (Parser.nodup_names proper.wellNamed.apart))

/-- The named fields and the other ones in any layout are read as one use of the
command with every value, and without a diagnostic. -/
theorem parseScript_spaced {scene : MixedScene} (proper : scene.Proper)
    (spellable : scene.Spellable) {text : List Char}
    (spaced : Spaced Parser.GivenValue.Spells scene.entries text) :
    parseScript scene.registry {} scene.objects (scene.script text) =
      ⟨[scene.invocation], []⟩ := by
  let c := Cursor.ofText (scene.script text)
  have unread : c.rest =
      scene.keyword.toList ++ ([] ++ '(' :: (text ++ [')'])) := by
    simp [c, Cursor.ofText, script]
  obtain ⟨start, statement⟩ := Parser.readStatement_openedBy proper.registered
    proper.isKeyword {} scene.objects isBlanks_nil.isSpace unread
  rw [Parser.readArguments_entries start spaced
    (Parser.openedBy scene.keyword scene.command c [] (text ++ [')']))
    proper.wellNamed.apart (proper.sound spellable) (proper.awaits c _) rfl
    rfl] at statement
  obtain ⟨head, tail, chars, starts, _⟩ :=
    Parser.exists_cons_of_isIdentifier proper.isKeyword
  rw [chars] at unread
  rw [parseScript, Parser.readScript_statement _ _ unread starts, statement]
  have done := Parser.readScript_end scene.registry {} scene.objects
    (c := ((Parser.openedBy scene.keyword scene.command c []
      (text ++ [')'])).cursor.behind (text ++ [')']) []).leaveCommand) rfl
  have filled := proper.setAll_entries
  dsimp only
  rw [done]
  simp only [Parser.openedBy, Invocation.ofCommand, filled]
  rfl

/-- The scene in which every field is given by its own name, in order. -/
def full (scene : MixedScene) : MixedScene :=
  { scene with
    named := (Parser.scriptables scene.command.fields).map fun field =>
      (field, field.name) }

theorem Proper.full {scene : MixedScene} (proper : scene.Proper) :
    scene.full.Proper := by
  refine { proper with inside := ?_, word := ?_, accepted := ?_, once := ?_ }
  · intro pair member
    obtain ⟨field, inFields, rfl⟩ := List.mem_map.mp member
    exact inFields
  · intro pair member
    obtain ⟨field, inFields, rfl⟩ := List.mem_map.mp member
    exact proper.wellNamed.fields field (List.mem_filter.mp inFields).1
  · intro pair member
    obtain ⟨field, inFields, rfl⟩ := List.mem_map.mp member
    exact Parser.accepts_name field
  · have names : (scene.full.named.map (·.1.name)) =
        (Parser.scriptables scene.command.fields).map (·.name) := by
      simp [MixedScene.full, Function.comp_def]
    rw [names]
    exact proper.distinct

theorem entries_full (scene : MixedScene) :
    scene.full.entries =
      (Parser.scriptables scene.command.fields).map fun field =>
        ⟨field, scene.values field, some field.name⟩ := by
  have none : (Parser.scriptables scene.command.fields).filter
      (!Parser.isNamed scene.full.named ·) = [] := by
    rw [List.filter_eq_nil_iff]
    intro field member
    have isNamed : Parser.isNamed scene.full.named field = true := by
      rw [Parser.isNamed, List.any_eq_true]
      exact ⟨(field, field.name), List.mem_map.mpr ⟨field, member, rfl⟩,
        beq_self_eq_true _⟩
    rw [isNamed]
    exact Bool.false_ne_true
  have named : scene.full.command = scene.command := rfl
  rw [entries, named, none, Parser.mixed, List.map_nil, List.append_nil]
  simp [MixedScene.full, Function.comp_def]

theorem spaced_full (scene : MixedScene) :
    Spaced Parser.GivenValue.Spells scene.full.entries (commaSeparated
      ((Parser.scriptables scene.command.fields).map fun field =>
        argumentText (field, scene.values field))) := by
  have spells : ∀ entry ∈ scene.full.entries,
      entry.Spells (argumentText (entry.field, entry.value)) := by
    intro entry member
    rw [entries_full] at member
    obtain ⟨field, _, rfl⟩ := List.mem_map.mp member
    exact .named (.equals isBlanks_nil isBlanks_nil)
      (scene.values field).laid_encodeChars
  have spaced := spaced_commaSeparated isBlanks_nil _ spells
  rw [List.nil_append, entries_full, List.map_map] at spaced
  rw [entries_full]
  exact spaced

/-- Some fields by name and the other ones by position say the same as all
fields by name: the one use of the command with every value set, and no
diagnostic. -/
theorem parseScript_mixed {scene : MixedScene} (proper : scene.Proper)
    (spellable : scene.Spellable) {text : List Char}
    (spaced : Spaced Parser.GivenValue.Spells scene.entries text) :
    parseScript scene.registry {} scene.objects (scene.script text) =
        ⟨[scene.invocation], []⟩ ∧
      parseScript scene.registry {} scene.objects scene.fullScript =
        ⟨[scene.invocation], []⟩ :=
  ⟨parseScript_spaced proper spellable spaced,
    parseScript_spaced proper.full spellable (spaced_full scene)⟩

/-- A command with two names for one field, and an internal field in between. -/
def drill : Command :=
  { name := "drill"
    fields :=
      [{ name := "mode", type := .enumeration ⟨"Mode", ["FAST", "SLOW"]⟩
         default := .variant "FAST" },
        { name := "serial", type := .int, default := .int 7
          scriptable := false },
        { name := "depth", type := .int, default := .int 0
          otherName := some "d" },
        { name := "steps", type := .array .int, default := .array [] }]
    run := fun _ => pure .ok }

/-- A use of it that gives the depth by its other name. -/
def drilling : MixedScene :=
  { registry := { commands := [drill] }
    keyword := "drill"
    command := drill
    values := fun field =>
      match field.type with
      | .int => .int (-3)
      | .enumeration _ => .variant "SLOW"
      | _ => .array [.int 1, .int 2]
    named := (drill.fields.drop 2).take 1 |>.map fun field => (field, "d") }

/-- The text of its argument list. -/
def drillingText : List Char :=
  ['d', '\t', '-', '3', ',', 'S', 'L', 'O', 'W', ' ', ',', '\n', '[', '1', ',',
    ' ', '2', ']']

theorem spaced_drilling :
    Spaced Parser.GivenValue.Spells drilling.entries drillingText := by
  have depth : Parser.GivenValue.Spells
      ⟨{ name := "depth", type := .int, default := .int 0
         otherName := some "d" }, .int (-3), some "d"⟩ ['d', '\t', '-', '3'] :=
    .named (.blanks (by decide) (List.cons_ne_nil '\t' []))
      (Value.laid_encodeChars (.int (-3)))
  have mode : Parser.GivenValue.Spells
      ⟨{ name := "mode", type := .enumeration ⟨"Mode", ["FAST", "SLOW"]⟩
         default := .variant "FAST" }, .variant "SLOW", none⟩
        ['S', 'L', 'O', 'W'] :=
    .alone (Value.laid_encodeChars (.variant "SLOW"))
  have steps : Parser.GivenValue.Spells
      ⟨{ name := "steps", type := .array .int, default := .array [] },
        .array [.int 1, .int 2], none⟩ ['[', '1', ',', ' ', '2', ']'] :=
    .alone (Value.laid_encodeChars (.array [.int 1, .int 2]))
  have space : IsBlanks [' '] := by decide
  have newline : IsBlanks ['\n'] := by decide
  exact .cons isBlanks_nil depth isBlanks_nil (List.cons_ne_nil _ _)
    (.cons isBlanks_nil mode space (List.cons_ne_nil _ _)
      (.last newline steps isBlanks_nil))

theorem parseScript_mixed_drilling :
    parseScript { commands := [drill] } {} .empty
        (drilling.script drillingText) = ⟨[drilling.invocation], []⟩ ∧
      parseScript { commands := [drill] } {} .empty drilling.fullScript =
        ⟨[drilling.invocation], []⟩ := by
  have inside : ∀ pair ∈ drilling.named,
      pair.1 ∈ Parser.scriptables drilling.command.fields := by
    intro pair member
    rw [List.mem_singleton.mp member]
    exact .tail _ (.head _)
  have proper : drilling.Proper :=
    ⟨rfl, by decide, ⟨by decide, by decide,
      Parser.pairwise_of_nodup_names (by decide)⟩, by decide +kernel,
      by decide +kernel, by decide +kernel, inside, by decide +kernel,
      by decide +kernel, by decide⟩
  have spellable : ∀ field ∈ Parser.scriptables drilling.command.fields,
      (drilling.values field).Spellable := by
    decide +kernel
  exact parseScript_mixed proper spellable spaced_drilling

/-- A use of a command with a variant that is two words. -/
def painting : MixedScene :=
  let paint : Command :=
    { name := "paint"
      fields :=
        [{ name := "shade"
           type := .enumeration ⟨"Shade", ["dark", "light grey"]⟩
           default := .variant "dark" }]
      run := fun _ => pure .ok }
  { registry := { commands := [paint] }
    keyword := "paint"
    command := paint
    values := fun _ => .variant "light grey"
    named := [] }

/-- A variant that is no word cannot be given by its position. -/
theorem not_forall_parseScript_mixed :
    ¬∀ scene : MixedScene, scene.Proper → ∀ text : List Char,
      Spaced Parser.GivenValue.Spells scene.entries text →
        parseScript scene.registry {} scene.objects (scene.script text) =
          ⟨[scene.invocation], []⟩ := by
  intro all
  have proper : painting.Proper :=
    ⟨rfl, by decide, ⟨by decide, by decide,
      Parser.pairwise_of_nodup_names (by decide)⟩, by decide +kernel,
      by decide +kernel, by decide +kernel, by simp [painting],
      by simp [painting], by simp [painting], by decide⟩
  have spaced : Spaced Parser.GivenValue.Spells painting.entries
      ([] ++ ((Value.variant "light grey").encodeChars ++ [])) :=
    .last isBlanks_nil (.alone (Value.laid_encodeChars _)) isBlanks_nil
  have parsed := congrArg ParsedScript.diagnostics
    (all painting proper _ spaced)
  revert parsed
  decide +kernel

end MixedScene

end GridScript
