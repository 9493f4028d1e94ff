import GridScript.Proofs.IdleArguments
import GridScript.Proofs.OwnText
import GridScript.Proofs.PositionalArguments
import GridScript.Proofs.SourceOrder

/-!
# Lists that are not closed

A list whose bracket is missing ends at the parenthesis of its argument list.
Its items are read as if the bracket were there, so that all that is lost is
told by one error, for the line where the text of the list stops.
-/

namespace GridScript

/-! ### The last visible character -/

/-- The last character of the text is visible. -/
def EndsVisibly (text : List Char) : Prop :=
  ∃ front last, text = front ++ [last] ∧ isBlank last = false

theorem trimBackChars_append_space {text space : List Char}
    (ends : EndsVisibly text) (isSpace : IsSpace space) :
    trimBackChars (text ++ space) = text := by
  obtain ⟨front, last, rfl, visible⟩ := ends
  have blanks : ∀ c ∈ space.reverse, isBlank c = true :=
    fun c member => isSpace c (List.mem_reverse.mp member)
  rw [trimBackChars, List.reverse_append,
    List.dropWhile_append_of_pos blanks]
  simp [visible]

theorem endsVisibly_laid {value : Value} (spellable : value.Spellable)
    (nonNull : value.isNullReference = false) {lexeme : List Char}
    (laid : value.Laid lexeme) : EndsVisibly lexeme := by
  have opens := Cursor.opensToken_laid spellable nonNull laid
  cases laid with
  | @array items text spaced => exact ⟨'[' :: text, ']', rfl, by decide⟩
  | atom single =>
      obtain ⟨head, tail, chars, _⟩ := opens
      have some : value.encodeChars ≠ [] := by simp [chars]
      have split := (List.dropLast_append_getLast some).symm
      obtain ⟨last, member, visible, _⟩ := Cursor.exists_visible_of_suffix
        spellable (List.cons_ne_nil _ [])
        ⟨value.encodeChars.dropLast, split.symm⟩
      rw [List.mem_singleton.mp member] at visible
      exact ⟨_, _, split, visible⟩

/-- Items between commas and white space, up to the last item or comma. -/
inductive Spread {α : Type} (spells : α → List Char → Prop) :
    List α → List Char → Prop where
  | nil : Spread spells [] []
  | comma {items : List α} {space text : List Char} (isSpace : IsSpace space)
      (others : Spread spells items text) :
      Spread spells items (space ++ ',' :: text)
  | item {item : α} {items : List α} {space lexeme text : List Char}
      (isSpace : IsSpace space) (spelled : spells item lexeme)
      (ends : EndsToken text) (others : Spread spells items text) :
      Spread spells (item :: items) (space ++ (lexeme ++ text))

theorem Spread.endsVisibly {α : Type} {spells : α → List Char → Prop}
    {items : List α} {text : List Char} (spread : Spread spells items text)
    (visibly : ∀ item ∈ items, ∀ lexeme, spells item lexeme →
      EndsVisibly lexeme) {front : List Char} (before : EndsVisibly front) :
    EndsVisibly (front ++ text) := by
  induction spread generalizing front with
  | nil => rwa [List.append_nil]
  | @comma items space text isSpace _ induction =>
      have comma : EndsVisibly (front ++ (space ++ [','])) :=
        ⟨front ++ space, ',', by simp, by decide⟩
      simpa using induction visibly comma
  | @item item items space lexeme text isSpace spelled _ _ induction =>
      obtain ⟨own, last, rfl, visible⟩ :=
        visibly item List.mem_cons_self _ spelled
      have lexeme : EndsVisibly (front ++ (space ++ (own ++ [last]))) :=
        ⟨front ++ (space ++ own), last, by simp, visible⟩
      simpa using induction
        (fun other member => visibly other (List.mem_cons_of_mem item member))
        lexeme

/-! ### The items of a list, whatever its end -/

namespace Cursor

theorem endsToken_append {text tail : List Char} (ends : EndsToken text)
    (endsBehind : EndsToken tail) : EndsToken (text ++ tail) := by
  cases text with
  | nil => exact endsBehind
  | cons head text =>
      apply endsToken_cons
      exact ends head rfl

/-- The items are read the same whatever ends the list. -/
theorem readItems_spread {α β : Type} {item : Cursor → Option β × Cursor}
    {spells : α → List Char → Prop} {items : List α} {text : List Char}
    (spread : Spread spells items text)
    (reads : ∀ source ∈ items, ∀ lexeme, spells source lexeme →
      OpensToken lexeme ∧ ReadsAlone item lexeme) (c : Cursor) :
    ∃ (values : List β) (last : Cursor), c.Beyond text last ∧
      ∀ tail, EndsToken tail →
        readItems item (c.facing (text ++ tail)) =
          (values ++ (readItems item (last.facing tail)).1,
            (readItems item (last.facing tail)).2) := by
  induction spread generalizing c with
  | nil => exact ⟨[], c, ⟨rfl, rfl, rfl⟩, fun _ _ => rfl⟩
  | @comma items space text isSpace _ induction =>
      obtain ⟨values, last, beyond, later⟩ :=
        induction reads (c.behind (space ++ [',']) [])
      have whole := (c.beyond_behind (space ++ [',']) []).trans beyond
      refine ⟨values, last, by simpa using whole, fun tail ends => ?_⟩
      have split : (c.facing ((space ++ ',' :: text) ++ tail)).rest =
          space ++ ',' :: (text ++ tail) := by
        simp [facing]
      rw [readItems_of_continued (listStep_comma isSpace split)]
      exact later tail ends
  | @item source items space lexeme text isSpace spelled endsText _ induction =>
      obtain ⟨opens, alone⟩ := reads source List.mem_cons_self _ spelled
      obtain ⟨value, behind, beyond, step⟩ :=
        listStep_alone alone opens isSpace c
      obtain ⟨values, last, further, later⟩ := induction
        (fun other member => reads other (List.mem_cons_of_mem source member))
        behind
      have whole := beyond.trans further
      refine ⟨value.toList ++ values, last, by simpa using whole,
        fun tail ends => ?_⟩
      have split : (space ++ (lexeme ++ text)) ++ tail =
          space ++ (lexeme ++ (text ++ tail)) := by
        simp
      have endsBehind := endsToken_append endsText ends
      rw [split, readItems_of_continued (step _ endsBehind), later tail ends,
        List.append_assoc]

/-- A parenthesis ends the list too, with an error for the line where the text
of the list stopped. -/
theorem listStep_unclosed {α : Type} {item : Cursor → Option α × Cursor}
    {c : Cursor} {space rest : List Char} (isSpace : IsSpace space)
    (unread : c.rest = space ++ ')' :: rest) :
    listStep item c = .finished
      ((c.behind space (')' :: rest)).errorAt c.line .missingArrayEnd) := by
  have here := skipBlanks_space isSpace unread (by decide)
  have first : c.skipBlanks.rest = ')' :: rest := by rw [here]; rfl
  rw [listStep_of_cons item first, if_neg (by decide), if_neg (by decide),
    if_pos (.inl rfl), here]

/-- What a reader makes of a list that is closed, and of one that is not: the
same items, and one error more. -/
structure ReadsEither {α : Type} (read : Cursor → Option α × Cursor)
    (c : Cursor) (text : List Char) (value : α) (last : Cursor) : Prop where
  beyond : c.Beyond text last
  closed : ∀ gap rest, IsSpace gap →
    read (c.facing (text ++ (gap ++ ']' :: rest))) =
      (some value, last.behind (gap ++ [']']) rest)
  unclosed : ∀ gap rest, IsSpace gap →
    read (c.facing (text ++ (gap ++ ')' :: rest))) =
      (some value, (last.behind gap (')' :: rest)).errorAt last.line
        .missingArrayEnd)

theorem readList_spread {α β : Type} {item : Cursor → Option β × Cursor}
    {spells : α → List Char → Prop} {items : List α} {text : List Char}
    (spread : Spread spells items text)
    (reads : ∀ source ∈ items, ∀ lexeme, spells source lexeme →
      OpensToken lexeme ∧ ReadsAlone item lexeme) (c : Cursor) :
    ∃ values last, ReadsEither (readList item) c ('[' :: text) values last := by
  obtain ⟨values, last, beyond, later⟩ :=
    readItems_spread spread reads (c.behind ['['] [])
  have opened : ∀ rest, readList item (c.facing ('[' :: rest)) =
      (some (readItems item ((c.behind ['['] []).facing rest)).1,
        (readItems item ((c.behind ['['] []).facing rest)).2) := by
    intro rest
    have unread : (c.facing ('[' :: rest)).rest = '[' :: rest := rfl
    have next : (c.facing ('[' :: rest)).next =
        (c.behind ['['] []).facing rest :=
      next_eq_behind unread
    simp only [readList, skipBlanks_eq_self unread (by decide), peek?, unread,
      List.head?_cons, if_true, next]
  refine ⟨values, last, (c.beyond_behind ['['] []).trans beyond, ?_, ?_⟩
  · intro gap rest isSpace
    have ends : EndsToken (gap ++ ']' :: rest) :=
      endsToken_space isSpace (endsToken_cons (by decide))
    have close : listStep item (last.facing (gap ++ ']' :: rest)) =
        .finished (last.behind (gap ++ [']']) rest) :=
      listStep_close isSpace rfl
    rw [List.cons_append, opened, later _ ends, readItems_of_finished close,
      List.append_nil]
  · intro gap rest isSpace
    have ends : EndsToken (gap ++ ')' :: rest) :=
      endsToken_space isSpace (endsToken_cons (by decide))
    have close : listStep item (last.facing (gap ++ ')' :: rest)) =
        .finished ((last.behind gap (')' :: rest)).errorAt last.line
          .missingArrayEnd) :=
      listStep_unclosed isSpace rfl
    rw [List.cons_append, opened, later _ ends, readItems_of_finished close,
      List.append_nil]

theorem ReadsEither.unlessEnd {α : Type} {read : Cursor → Option α × Cursor}
    {c last : Cursor} {text : List Char} {value : α}
    (either : ReadsEither read c ('[' :: text) value last) (wrap : α → Value) :
    ReadsEither (unlessEnd fun c => (read c).map (Option.map wrap) id) c
      ('[' :: text) (wrap value) last := by
  have opens : OpensToken ['['] := ⟨'[', [], rfl, by decide⟩
  refine ⟨either.beyond, ?_, ?_⟩
  · intro gap rest isSpace
    rw [unlessEnd_opensToken opens rfl, either.closed gap rest isSpace]
    rfl
  · intro gap rest isSpace
    rw [unlessEnd_opensToken opens rfl, either.unclosed gap rest isSpace]
    rfl

/-- A typed list is read the same with and without its bracket. -/
theorem readValue_spread {shape : ObjectTable} (objects : ObjectTable)
    {type : ValueType} {items : List Value}
    (typed : (Value.array items).HasType shape type)
    (spellable : (Value.array items).Spellable) {text : List Char}
    (spread : Spread Value.Laid
      (items.filter fun item => !item.isNullReference) text) (c : Cursor) :
    ∃ value last, ReadsEither (readValue objects type) c ('[' :: text) value
      last := by
  cases typed with
  | @array element _ typed =>
      obtain ⟨values, last, either⟩ := readList_spread spread
        (fun item member lexeme laid => by
          obtain ⟨inItems, isItem⟩ := List.mem_filter.mp member
          have nonNull : item.isNullReference = false := by simpa using isItem
          have spells := spellable.item inItems
          exact ⟨opensToken_laid spells nonNull laid,
            readsAlone_readValue objects (typed item inItems) spells nonNull
              laid⟩) c
      exact ⟨_, last, either.unlessEnd Value.array⟩
  | @references className _ typed =>
      obtain ⟨values, last, either⟩ := readList_spread spread
        (fun item member lexeme laid => by
          obtain ⟨inItems, isItem⟩ := List.mem_filter.mp member
          have nonNull : item.isNullReference = false := by simpa using isItem
          have spells := spellable.item inItems
          exact ⟨opensToken_laid spells nonNull laid,
            readsAlone_laid_reference objects (typed item inItems) spells
              nonNull laid⟩) c
      exact ⟨_, last, either.unlessEnd fun references =>
        Value.array (references.map Value.reference)⟩

end Cursor

namespace Parser

/-! ### Up to the last argument -/

/-- The argument list in front of another text. -/
def ArgumentList.facing (rest : List Char) (state : ArgumentList) :
    ArgumentList :=
  { state with cursor := state.cursor.facing rest }

/-- Reading the text comes from the one state to the other, whatever follows. -/
def ArgumentList.LeadsTo (dialect : Dialect) (objects : ObjectTable)
    (before : ArgumentList) (text : List Char) (after : ArgumentList) : Prop :=
  ∀ tail, ComesTo dialect objects (before.facing (text ++ tail))
    (after.facing tail)

section

variable {dialect : Dialect} {objects : ObjectTable}

theorem command_checkSeparator (equals : Bool) (c : Cursor) :
    (checkSeparator dialect equals c).command = c.command := by
  unfold checkSeparator
  split <;> rfl

theorem command_readField (field : Field) (c : Cursor) (state : ArgumentList) :
    (readField objects field c state).cursor.command = c.command := by
  have read := (Cursor.reads_readValue objects field.type c).place.1
  unfold readField
  dsimp only
  split <;> exact read

theorem command_readNamed (found : ArgumentName) (c : Cursor)
    (state : ArgumentList) :
    (readNamed dialect objects found c state).cursor.command = c.command := by
  have checked := @command_checkSeparator dialect found.equals
    (c.inArgument found.name)
  unfold readNamed
  dsimp only
  split
  · exact checked
  · split
    · split
      · exact (command_readField _ _ _).trans checked
      · exact (command_readField _ _ _).trans checked
    · exact checked

theorem command_readPositional (c : Cursor) (state : ArgumentList) :
    (readPositional dialect objects c state).cursor.command = c.command := by
  unfold readPositional
  split
  · split
    · exact command_readField _ _ _
    · rfl
  · rfl

theorem command_readArgument (c : Cursor) (state : ArgumentList) :
    (readArgument dialect objects c state).cursor.command = c.command := by
  unfold readArgument
  split
  · exact command_readNamed _ _ _
  · exact command_readPositional _ _

theorem place_finishArgument (c : Cursor) :
    (finishArgument c).command = c.command ∧
      (finishArgument c).argument = none := by
  unfold finishArgument
  dsimp only
  split
  · exact ⟨rfl, rfl⟩
  · split
    · exact ⟨rfl, rfl⟩
    · split
      · exact ⟨rfl, rfl⟩
      · unfold skipComma
        split <;> exact ⟨rfl, rfl⟩

/-- Between two arguments the same command is read, and no argument. -/
theorem place_argumentStep {start : Nat} {state next : ArgumentList}
    (step : argumentStep dialect objects start state = .continued next) :
    next.cursor.command = state.cursor.command ∧
      (state.cursor.argument = none → next.cursor.argument = none) := by
  unfold argumentStep at step
  dsimp only at step
  split at step
  · cases step
  · split at step
    · cases step
    · split at step
      · cases step
        exact ⟨rfl, id⟩
      · cases step
        obtain ⟨command, outside⟩ := place_finishArgument
          (readArgument dialect objects state.cursor.skipBlanks state).cursor
        exact ⟨command.trans (command_readArgument _ _), fun _ => outside⟩

theorem ComesTo.place {state last : ArgumentList}
    (comes : ComesTo dialect objects state last) :
    last.cursor.command = state.cursor.command ∧
      (state.cursor.argument = none → last.cursor.argument = none) := by
  induction comes with
  | here => exact ⟨rfl, id⟩
  | step stepped _ induction =>
      obtain ⟨command, outside⟩ := place_argumentStep stepped
      exact ⟨induction.1.trans command, induction.2 ∘ outside⟩

namespace ArgumentList

theorem LeadsTo.line {before after : ArgumentList} {text : List Char}
    (leads : before.LeadsTo dialect objects text after) :
    after.cursor.line = before.cursor.line + text.count '\n' :=
  (leads []).reaches.line_eq rfl

theorem leadsTo_nil (state : ArgumentList) :
    state.LeadsTo dialect objects [] state :=
  fun _ => .here _

/-- An entry of the list leads over its text and the comma behind it. -/
theorem leadsTo_entry {state : ArgumentList}
    (apart : state.invocation.fields.Pairwise fun left right =>
      ∀ name, left.accepts name = true → right.accepts name = false)
    {entry : GivenValue} (sound : entry.IsSound objects state.invocation.fields)
    (unset : state.invocation.arguments.isSet entry.field.name = false)
    (next : entry.name = none → positionalField? state = some entry.field)
    (outside : state.cursor.argument = none)
    {leading lexeme trailing : List Char} (isLeading : IsBlanks leading)
    (spells : entry.Spells lexeme) (isTrailing : IsBlanks trailing) :
    state.LeadsTo {} objects (leading ++ (lexeme ++ (trailing ++ [','])))
      { state.bind entry with
        cursor := state.cursor.behind
          (leading ++ (lexeme ++ (trailing ++ [',']))) [] } := by
  intro tail
  let here := state.facing
    ((leading ++ (lexeme ++ (trailing ++ [',']))) ++ tail)
  have unread : here.cursor.rest =
      leading ++ (lexeme ++ (trailing ++ ([','] ++ tail))) := by
    simp [here, ArgumentList.facing, Cursor.facing]
  have step := @argumentStep_entry objects 1 here apart entry sound unset next
    outside leading lexeme trailing [','] tail isLeading spells isTrailing
    (.inl rfl) unread
  exact .step step (.here _)

/-- The front of an argument whose value is the next to be read: a name with its
separator, or white space where a value without a name goes to the field. -/
inductive Introduces (dialect : Dialect) (state : ArgumentList)
    (field : Field) : String → List Char → Prop where
  | named {name : String} {leading separator trailing : List Char}
      {equals : Bool} (isSpace : IsSpace leading) (word : IsIdentifier name)
      (separates : Separates separator equals)
      (isTrailing : IsSpace trailing)
      (found : state.invocation.fields.find? (·.accepts name) = some field) :
      Introduces dialect state field name
        (leading ++ (name.toList ++ (separator ++ trailing)))
  | position {leading : List Char} (isSpace : IsSpace leading)
      (positional : dialect.positional = true)
      (next : positionalField? state = some field) :
      Introduces dialect state field field.name leading

end ArgumentList

/-- What is told of the name of an argument for the field. -/
def heedName (dialect : Dialect) (field : Field) (found : ArgumentName)
    (state : ArgumentList) (c : Cursor) : Cursor :=
  let checked := checkSeparator dialect found.equals (c.inArgument found.name)
  if state.invocation.arguments.isSet field.name then
    checked.warn (.repeatedArgument found.name)
  else checked

theorem readNamed_heedName (objects : ObjectTable) {field : Field}
    {found : ArgumentName} {state : ArgumentList}
    (leads : state.invocation.fields.find? (·.accepts found.name) = some field)
    (scriptable : field.scriptable = true) (c : Cursor) :
    readNamed dialect objects found c state =
      readField objects field (heedName dialect field found state c) state := by
  unfold readNamed heedName
  simp only [leads, scriptable, if_true]
  split <;> rfl

theorem heedName_facing (field : Field) (found : ArgumentName)
    (state : ArgumentList) (c : Cursor) (rest : List Char) :
    heedName dialect field found state (c.facing rest) =
      (heedName dialect field found state c).facing rest := by
  have checked : checkSeparator dialect found.equals
      ((c.facing rest).inArgument found.name) =
        (checkSeparator dialect found.equals
          (c.inArgument found.name)).facing rest := by
    unfold checkSeparator
    split <;> rfl
  unfold heedName
  simp only [checked]
  split <;> rfl

theorem place_heedName (field : Field) (found : ArgumentName)
    (state : ArgumentList) (c : Cursor) :
    (heedName dialect field found state c).line = c.line ∧
      (heedName dialect field found state c).command = c.command ∧
      (heedName dialect field found state c).argument = some found.name := by
  unfold heedName checkSeparator
  dsimp only
  split <;> split <;> exact ⟨rfl, rfl, rfl⟩

/-- The value of a field is read behind white space. -/
theorem readField_space (objects : ObjectTable) (field : Field) {c : Cursor}
    {space : List Char} (isSpace : IsSpace space) {head : Char}
    {rest : List Char} (unread : c.rest = space ++ head :: rest)
    (visible : isBlank head = false) (state : ArgumentList) :
    readField objects field c state =
      readField objects field (c.behind space (head :: rest)) state := by
  have start := Cursor.skipBlanks_space isSpace unread visible
  have here : (c.behind space (head :: rest)).skipBlanks =
      c.behind space (head :: rest) :=
    Cursor.skipBlanks_eq_self rfl visible
  have read := Cursor.readValue_skipBlanks objects field.type start here
  simp only [readField, read]

theorem Separates.append {separator : List Char} {equals : Bool}
    (separates : Separates separator equals) {blanks : List Char}
    (areBlanks : IsBlanks blanks) : Separates (separator ++ blanks) equals := by
  cases separates with
  | @equals before after leading trailing =>
      have split : before ++ '=' :: after ++ blanks =
          before ++ '=' :: (after ++ blanks) := by
        simp
      rw [split]
      exact .equals leading fun c member =>
        (List.mem_append.mp member).elim (trailing c) (areBlanks c)
  | blanks between nonEmpty =>
      exact .blanks (fun c member =>
        (List.mem_append.mp member).elim (between c) (areBlanks c))
        (List.append_ne_nil_of_left_ne_nil nonEmpty _)

theorem isDelimiter_eq_false {c : Char} (blank : isBlank c = true) :
    isDelimiter c = false := by
  rw [Bool.eq_false_iff]
  intro delimits
  simp only [isDelimiter, Bool.or_eq_true, beq_iff_eq] at delimits
  rcases delimits with ((rfl | rfl) | rfl) | rfl <;>
    exact absurd blank (by decide)

/-- A name is told from a list behind its separator and any white space. -/
theorem argumentName?_list {name : String} (word : IsIdentifier name)
    {separator : List Char} {equals : Bool}
    (separates : Separates separator equals) {trailing : List Char}
    (isSpace : IsSpace trailing) :
    ∃ front space, separator ++ trailing = front ++ space ∧ IsSpace space ∧
      ∀ rest, argumentName? (name.toList ++ (front ++ (space ++ '[' :: rest))) =
        some (⟨name, equals⟩, space ++ '[' :: rest) := by
  let plain := trailing.takeWhile isPlainBlank
  let others := trailing.dropWhile isPlainBlank
  have split : plain ++ others = trailing := List.takeWhile_append_dropWhile
  have areBlanks : IsBlanks plain :=
    List.all_eq_true.mp List.all_takeWhile
  have isOthers : IsSpace others := fun c member =>
    isSpace c ((List.dropWhile_suffix isPlainBlank).subset member)
  obtain ⟨front, blanks, same, isFront, named⟩ :=
    argumentName?_separates word (separates.append areBlanks)
  refine ⟨front, blanks ++ others, ?_, isFront.isSpace.append isOthers, ?_⟩
  · rw [← split, ← List.append_assoc, same, List.append_assoc]
  · intro rest
    rw [List.append_assoc]
    cases left : others with
    | nil => exact named '[' rest (by decide) (by decide) (by decide)
    | cons head tail =>
        have visible : isBlank head = true :=
          isOthers head (left ▸ List.mem_cons_self)
        have apart : isPlainBlank head = false := by
          have first := List.head?_dropWhile_not isPlainBlank trailing
          rw [show trailing.dropWhile isPlainBlank = head :: tail from left]
            at first
          simpa using first
        refine named head _ apart (isDelimiter_eq_false visible) ?_
        rintro rfl
        exact absurd visible (by decide)

namespace ArgumentList

/-- The introduced list is read as the value of the field. -/
theorem Introduces.argumentStep {field : Field} {name : String}
    {lead : List Char} {state : ArgumentList}
    (introduces : state.Introduces dialect field name lead)
    (scriptable : field.scriptable = true) :
    ∃ (here : Cursor) (after : ArgumentList),
      here.line = state.cursor.line + lead.count '\n' ∧
      here.command = state.cursor.command ∧ here.argument = some name ∧
      ∀ start tail, argumentStep dialect objects start
          (state.facing (lead ++ '[' :: tail)) =
        .continued (passField objects field (here.facing ('[' :: tail))
          after) := by
  cases introduces with
  | @named name leading separator trailing equals isSpace word separates
      isTrailing found =>
      obtain ⟨front, space, same, isBetween, named⟩ :=
        argumentName?_list word separates isTrailing
      let told := heedName dialect field ⟨name, equals⟩ state
        (state.cursor.behind (leading ++ (name.toList ++ front)) [])
      obtain ⟨line, command, argument⟩ := @place_heedName dialect field
        ⟨name, equals⟩ state
        (state.cursor.behind (leading ++ (name.toList ++ front)) [])
      refine ⟨told.behind space [], state, ?_, command, argument, ?_⟩
      · rw [same, Cursor.line_behind, line]
        simp [List.count_append, Nat.add_assoc]
      · intro start tail
        have split : (state.facing ((leading ++ (name.toList ++
            (separator ++ trailing))) ++ '[' :: tail)).cursor.rest = leading ++
              (name.toList ++ (front ++ (space ++ '[' :: tail))) := by
          rw [same]
          simp [ArgumentList.facing, Cursor.facing]
        rw [argumentStep_name dialect objects start isSpace word (named tail)
          split, readNamed_heedName objects found scriptable]
        have here := @heedName_facing dialect field ⟨name, equals⟩ state
          (state.cursor.behind (leading ++ (name.toList ++ front)) [])
          (space ++ '[' :: tail)
        have moved : readField objects field
            (told.facing (space ++ '[' :: tail)) state =
              readField objects field
                ((told.behind space []).facing ('[' :: tail)) state :=
          readField_space objects field isBetween rfl (by decide) state
        rw [passField, ← moved, ← here]
        rfl
  | position isSpace positional next =>
      refine ⟨(state.cursor.behind lead []).inArgument field.name,
        { state with passed := passedBy state field }, rfl, rfl, rfl, ?_⟩
      intro start tail
      have next : positionalField? (state.facing (lead ++ '[' :: tail)) =
          some field := next
      have opens : '[' :: tail = '[' :: tail := rfl
      exact argumentStep_position positional objects start next isSpace opens
        (by decide) (by decide) (argumentName?_of_head _ (by decide)) rfl

end ArgumentList

/-! ### The last argument -/

/-- An argument whose value is read up to white space and the parenthesis is the
last one. -/
theorem readArguments_last (start : Nat) {state after : ArgumentList}
    {field : Field} {c read : Cursor} {value : Value} {space rest : List Char}
    (step : argumentStep dialect objects start state =
      .continued (passField objects field c after))
    (reads : c.readValue objects field.type = (some value, read))
    (isSpace : IsSpace space) (unread : read.rest = space ++ ')' :: rest) :
    readArguments dialect objects start state =
      (after.invocation.set field.name value,
        (read.behind space rest).leaveArgument) := by
  have here := Cursor.skipBlanks_space isSpace unread (by decide)
  have finished : finishArgument read =
      (read.behind space (')' :: rest)).leaveArgument := by
    rw [finishArgument_close (by rw [here]; rfl), here]
  have passed : passField objects field c after =
      { after with
        cursor := (read.behind space (')' :: rest)).leaveArgument
        invocation := after.invocation.set field.name value } := by
    simp only [passField, readField, reads, finished]
  rw [readArguments_of_continued step, passed, readArguments_of_finished
    (argumentStep_close dialect objects start isBlanks_nil rfl)]
  rfl

/-- A list in the last argument is read the same with its bracket and without
it, but for one error. -/
theorem readArguments_either {shape : ObjectTable} {field : Field}
    {name : String} {lead : List Char} {state : ArgumentList}
    (introduces : state.Introduces dialect field name lead)
    (scriptable : field.scriptable = true) {items : List Value}
    (typed : (Value.array items).HasType shape field.type)
    (spellable : (Value.array items).Spellable) {text : List Char}
    (spread : Spread Value.Laid
      (items.filter fun item => !item.isNullReference) text)
    {gap behind : List Char} (isGap : IsSpace gap) (isBehind : IsSpace behind) :
    ∃ (invocation : Invocation) (last : Cursor) (told : List Diagnostic),
      ∀ start rest,
        readArguments dialect objects start (state.facing (lead ++ '[' ::
            (text ++ (gap ++ ']' :: (behind ++ ')' :: rest))))) =
          (invocation, last.placed 0 told rest) ∧
        readArguments dialect objects start (state.facing (lead ++ '[' ::
            (text ++ (gap ++ (behind ++ ')' :: rest))))) =
          (invocation, last.placed 0 (told ++
            [⟨.error, state.cursor.line + (lead ++ '[' :: text).count '\n',
              .missingArrayEnd, state.cursor.command, some name⟩]) rest) := by
  obtain ⟨here, after, line, command, argument, step⟩ :=
    @ArgumentList.Introduces.argumentStep dialect objects field name lead state
      introduces scriptable
  obtain ⟨value, last, either⟩ :=
    Cursor.readValue_spread objects typed spellable spread here
  have lines : last.line =
      state.cursor.line + (lead ++ '[' :: text).count '\n' := by
    rw [either.beyond.line, line, List.count_append, Nat.add_assoc]
  refine ⟨after.invocation.set field.name value,
    { (last.behind (gap ++ behind) []).leaveArgument with diagnostics := [] },
    last.diagnostics, fun start rest => ⟨?_, ?_⟩⟩
  · refine (readArguments_last start (step start _) (either.closed gap _ isGap)
      isBehind rfl).trans ?_
    simp [Cursor.behind, Cursor.placed, Cursor.facing, Cursor.shift,
      Cursor.leaveArgument, Nat.add_assoc]
  · have isSpace := isGap.append isBehind
    have none : IsSpace [] := isBlanks_nil.isSpace
    rw [← List.append_assoc gap]
    refine (readArguments_last start (step start _)
      (either.unclosed (gap ++ behind) rest isSpace) none rfl).trans ?_
    simp [Cursor.behind, Cursor.placed, Cursor.facing, Cursor.shift,
      Cursor.leaveArgument, Cursor.errorAt, Cursor.report, lines,
      either.beyond.command, either.beyond.argument, command, argument]

end

end Parser

/-- A command with a list in its last argument, and any text behind it. -/
structure ListScene where
  registry : Registry
  dialect : Dialect := {}
  objects : ObjectTable := .empty
  keyword : String
  command : Command
  /-- The white space in front of the parenthesis. -/
  space : List Char := []
  /-- The text in front of the last argument. -/
  front : List Char := []
  /-- The text of the last argument in front of the list. -/
  lead : List Char
  field : Field
  /-- The name that the list is given under. -/
  name : String
  items : List Value
  /-- The text of the items. -/
  text : List Char
  /-- The white space in front of the bracket. -/
  gap : List Char := []
  /-- The white space behind the bracket. -/
  behind : List Char := []
  rest : String

namespace ListScene

/-- The argument list where it is opened. -/
def opened (scene : ListScene) : Parser.ArgumentList :=
  Parser.openedBy scene.keyword scene.command (.ofText "") scene.space []

/-- Reading comes to the last argument, which gives a field of the command a
list of its type. -/
structure Proper (scene : ListScene) : Prop where
  comment : isWord scene.dialect.comment = false
  registered : scene.registry.get? scene.keyword = some scene.command
  isKeyword : IsIdentifier scene.keyword
  isSpace : IsSpace scene.space
  leads : ∃ state,
    scene.opened.LeadsTo scene.dialect scene.objects scene.front state ∧
      state.Introduces scene.dialect scene.field scene.name scene.lead
  typed : ∃ shape, (Value.array scene.items).HasType shape scene.field.type
  spread : Spread Value.Laid
    (scene.items.filter fun item => !item.isNullReference) scene.text
  isGap : IsSpace scene.gap
  isBehind : IsSpace scene.behind

/-- The items have texts of their own. -/
def Spellable (scene : ListScene) : Prop :=
  (Value.array scene.items).Spellable

/-- The text up to the list. -/
def start (scene : ListScene) : List Char :=
  scene.keyword.toList ++
    (scene.space ++ '(' :: (scene.front ++ scene.lead))

/-- The text up to the parenthesis that closes the argument list. -/
def head (scene : ListScene) (bracket : List Char) : List Char :=
  scene.start ++ '[' ::
    (scene.text ++ (scene.gap ++ (bracket ++ scene.behind)))

/-- What is read with this bracket. -/
def parse (scene : ListScene) (bracket : List Char) : ParsedScript :=
  parseScript scene.registry scene.dialect scene.objects
    (String.ofList (scene.head bracket ++ ')' :: scene.rest.toList))

/-- What is read where the list is closed. -/
def closed (scene : ListScene) : ParsedScript :=
  scene.parse [']']

/-- What is read where the bracket is missing. -/
def unclosed (scene : ListScene) : ParsedScript :=
  scene.parse []

/-- The line of the last visible character in front of the parenthesis. -/
def line (scene : ListScene) : Nat :=
  1 + (trimBackChars (scene.head [])).count '\n'

/-- The error for the missing bracket. -/
def report (scene : ListScene) : Diagnostic :=
  ⟨.error, scene.line, .missingArrayEnd, some scene.keyword, some scene.name⟩

theorem trimBackChars_head {scene : ListScene} (proper : scene.Proper)
    (spellable : scene.Spellable) :
    trimBackChars (scene.head []) = scene.start ++ '[' :: scene.text := by
  have bracket : EndsVisibly (scene.start ++ ['[']) :=
    ⟨scene.start, '[', rfl, by decide⟩
  have visibly := proper.spread.endsVisibly (fun item member lexeme laid => by
    obtain ⟨inItems, isItem⟩ := List.mem_filter.mp member
    exact endsVisibly_laid (Value.Spellable.item spellable inItems)
      (by simpa using isItem) laid) bracket
  have split : scene.head [] = (scene.start ++ ['['] ++ scene.text) ++
      (scene.gap ++ scene.behind) := by
    simp [head]
  rw [split, trimBackChars_append_space visibly
    (proper.isGap.append proper.isBehind)]
  simp

/-- The script is read like what follows the command, behind what is read from
its last argument. -/
theorem parse_eq {scene : ListScene} (proper : scene.Proper)
    {state : Parser.ArgumentList}
    (leads : scene.opened.LeadsTo scene.dialect scene.objects scene.front state)
    {bracket : List Char} {invocation : Invocation} {last : Cursor}
    {told : List Diagnostic}
    (read : ∀ start, Parser.readArguments scene.dialect scene.objects start
        (state.facing (scene.lead ++ '[' :: (scene.text ++ (scene.gap ++
          (bracket ++ (scene.behind ++ ')' :: scene.rest.toList)))))) =
      (invocation, last.placed 0 told scene.rest.toList)) :
    let others := Parser.readScript scene.registry scene.dialect scene.objects
      (last.leaveCommand.facing scene.rest.toList)
    scene.parse bracket =
      ⟨invocation :: others.1, told ++ others.2.diagnostics⟩ := by
  let body := scene.lead ++ '[' :: (scene.text ++ (scene.gap ++
    (bracket ++ (scene.behind ++ ')' :: scene.rest.toList))))
  have unread : (String.ofList (scene.head bracket ++
      ')' :: scene.rest.toList)).toList = scene.keyword.toList ++
        (scene.space ++ '(' :: (scene.front ++ body)) := by
    simp [head, start, body]
  refine parseScript_argumentList_here proper.comment proper.registered
    proper.isKeyword proper.isSpace unread fun start => ?_
  have opened : ∀ text, Parser.openedBy scene.keyword scene.command
      (.ofText text) scene.space (scene.front ++ body) =
        scene.opened.facing (scene.front ++ body) :=
    fun _ => rfl
  rw [opened, (leads body).readArguments_eq start]
  exact read start

/-- A missing bracket costs one error, for the line where the text of the list
stops, and nothing else. -/
theorem unclosed_gains {scene : ListScene} (proper : scene.Proper)
    (scriptable : scene.field.scriptable = true)
    (spellable : scene.Spellable) :
    ∃ first others earlier later,
      scene.closed = ⟨first :: others, earlier ++ later⟩ ∧
      scene.unclosed = ⟨first :: others, earlier ++ scene.report :: later⟩ := by
  obtain ⟨state, leads, introduces⟩ := proper.leads
  obtain ⟨shape, typed⟩ := proper.typed
  obtain ⟨invocation, last, told, either⟩ := @Parser.readArguments_either
    scene.dialect scene.objects _ _ _ _ _ introduces scriptable _ typed
    spellable _ proper.spread _ _ proper.isGap proper.isBehind
  have command : state.cursor.command = some scene.keyword :=
    (leads []).place.1
  have line : state.cursor.line +
      (scene.lead ++ '[' :: scene.text).count '\n' = scene.line := by
    have opened : scene.opened.cursor.line = 1 +
        (scene.keyword.toList ++ (scene.space ++ ['('])).count '\n' := rfl
    rw [ListScene.line, trimBackChars_head proper spellable, leads.line, opened]
    simp only [start, List.count_append, List.count_cons, List.count_nil]
    omega
  have closed := @parse_eq _ proper _ leads [']'] _ _ _ fun start =>
    (either start scene.rest.toList).1
  have unclosed := @parse_eq _ proper _ leads [] _ _ _ fun start =>
    (either start scene.rest.toList).2
  rw [command, line] at unclosed
  exact ⟨_, _, told, _, closed, unclosed.trans (by rw [List.append_assoc]; rfl)⟩

/-- A use of `drill` that gives a list behind its depth, with white space of all
kinds and a comma behind the last item. -/
def stepping : ListScene :=
  { registry := { commands := [MixedScene.drill] }
    keyword := "drill"
    command := MixedScene.drill
    space := ['\t']
    front := ['d', ' ', '-', '3', ',']
    lead := ['\x0c', 's', 't', 'e', 'p', 's', ' ', '=', ' ']
    field := { name := "steps", type := .array .int, default := .array [] }
    name := "steps"
    items := [.int 1, .int 2]
    text := ['1', ' ', ',', '\n', '2', ',']
    gap := ['\n', '\n']
    behind := ['\r']
    rest := "\ndrill(SLOW" }

theorem unclosed_gains_stepping :
    ∃ first others earlier later,
      stepping.closed = ⟨first :: others, earlier ++ later⟩ ∧
      stepping.unclosed = ⟨first :: others, earlier ++
        ⟨.error, 2, .missingArrayEnd, some "drill", some "steps"⟩ ::
          later⟩ := by
  have apart : MixedScene.drill.fields.Pairwise fun left right =>
      ∀ name, left.accepts name = true → right.accepts name = false :=
    Parser.pairwise_of_nodup_names (by decide)
  let entry : Parser.GivenValue :=
    ⟨{ name := "depth", type := .int, default := .int 0
       otherName := some "d" }, .int (-3), some "d"⟩
  have sound : entry.IsSound .empty MixedScene.drill.fields := by
    refine ⟨.tail _ (.tail _ (.head _)), rfl, ?_, ?_, .int (by decide),
      by decide +kernel, by decide +kernel, rfl⟩
    · rintro name ⟨⟩
      decide
    · rintro name ⟨⟩
      decide
  have spells : entry.Spells ['d', ' ', '-', '3'] :=
    .named (.blanks (by decide) (List.cons_ne_nil ' ' []))
      (Value.laid_encodeChars (.int (-3)))
  have leads := @Parser.ArgumentList.leadsTo_entry .empty stepping.opened apart
    entry sound rfl (fun noName => by cases noName) rfl [] _ [] isBlanks_nil
    spells isBlanks_nil
  have isSeparator : Parser.Separates [' ', '=', ' '] true :=
    @Parser.Separates.equals [' '] [' '] (by decide) (by decide)
  have introduces : ∀ c, { stepping.opened.bind entry with
      cursor := c }.Introduces {} stepping.field "steps" stepping.lead :=
    fun c => @Parser.ArgumentList.Introduces.named _ _ _ "steps" ['\x0c']
      [' ', '=', ' '] [] true (by decide) (by decide) isSeparator (by decide)
      rfl
  have second : Spread Value.Laid [.int 2] ['\n', '2', ','] :=
    @Spread.item _ _ _ _ ['\n'] ['2'] [','] (by decide)
      (Value.laid_encodeChars (.int 2)) (endsToken_cons (by decide))
      (@Spread.comma _ _ _ [] [] (by decide) .nil)
  have first : Spread Value.Laid [.int 1, .int 2] stepping.text :=
    @Spread.item _ _ _ _ [] ['1'] [' ', ',', '\n', '2', ','] (by decide)
      (Value.laid_encodeChars (.int 1)) (endsToken_cons (by decide))
      (@Spread.comma _ _ _ [' '] ['\n', '2', ','] (by decide) second)
  have proper : stepping.Proper :=
    ⟨by decide, rfl, by decide, by decide, ⟨_, leads, introduces _⟩,
      ⟨.empty, .array (by decide +kernel)⟩, first, by decide, by decide⟩
  have spellable : (Value.array stepping.items).Spellable := by
    decide +kernel
  exact unclosed_gains proper rfl spellable

/-- A list of a variant with brackets in its name. -/
def plotting : ListScene :=
  let cells : Field :=
    { name := "cells", type := .array (.enumeration ⟨"Cell", ["T[0]"]⟩)
      default := .array [] }
  let plot : Command :=
    { name := "plot", fields := [cells], run := fun _ => pure .ok }
  { registry := { commands := [plot] }
    keyword := "plot"
    command := plot
    lead := ['c', 'e', 'l', 'l', 's', '=']
    field := cells
    name := "cells"
    items := [.variant "T[0]"]
    text := ['T', '[', '0', ']']
    rest := "" }

/-- A list for a field that scripts may not set. -/
def numbering : ListScene :=
  let serials : Field :=
    { name := "serials", type := .array .int, default := .array []
      scriptable := false }
  let plot : Command :=
    { name := "plot", fields := [serials], run := fun _ => pure .ok }
  { registry := { commands := [plot] }
    keyword := "plot"
    command := plot
    lead := ['s', 'e', 'r', 'i', 'a', 'l', 's', '=']
    field := serials
    name := "serials"
    items := [.int 1]
    text := ['1']
    rest := "\nplot()" }

theorem introduces_named {scene : ListScene} (word : IsIdentifier scene.name)
    (lead : scene.lead = scene.name.toList ++ ['='])
    (found : scene.command.fields.find? (·.accepts scene.name) =
      some scene.field) :
    scene.opened.Introduces scene.dialect scene.field scene.name
      scene.lead := by
  have separates : Parser.Separates ([] ++ '=' :: []) true :=
    .equals isBlanks_nil isBlanks_nil
  have named := @Parser.ArgumentList.Introduces.named scene.dialect
    scene.opened scene.field scene.name [] _ [] true isBlanks_nil.isSpace word
    separates isBlanks_nil.isSpace found
  rw [lead]
  simpa using named

/-- A variant that is no word may close the list itself, and a list that no
field takes is passed over up to its own bracket. -/
theorem not_forall_unclosed_gains :
    (¬∀ scene : ListScene, scene.Proper → scene.field.scriptable = true →
      ∃ first others earlier later,
        scene.closed = ⟨first :: others, earlier ++ later⟩ ∧
        scene.unclosed =
          ⟨first :: others, earlier ++ scene.report :: later⟩) ∧
    ¬∀ scene : ListScene, scene.Proper → scene.Spellable →
      ∃ first others earlier later,
        scene.closed = ⟨first :: others, earlier ++ later⟩ ∧
        scene.unclosed =
          ⟨first :: others, earlier ++ scene.report :: later⟩ := by
  constructor
  · intro gains
    have spread : Spread Value.Laid [.variant "T[0]"] plotting.text :=
      @Spread.item _ _ _ _ [] ['T', '[', '0', ']'] [] (by decide)
        (Value.laid_encodeChars (.variant "T[0]")) endsToken_nil .nil
    have proper : plotting.Proper :=
      ⟨by decide, rfl, by decide, by decide,
        ⟨_, Parser.ArgumentList.leadsTo_nil _,
          introduces_named (by decide) (by decide) rfl⟩,
        ⟨.empty, .array (by decide +kernel)⟩, spread, by decide, by decide⟩
    obtain ⟨_, _, _, _, closed, unclosed⟩ := gains plotting proper rfl
    have counts : plotting.unclosed.diagnostics.length =
        plotting.closed.diagnostics.length + 1 := by
      rw [closed, unclosed]
      simp only [List.length_append, List.length_cons]
      omega
    revert counts
    decide +kernel
  · intro gains
    have spread : Spread Value.Laid [.int 1] numbering.text :=
      @Spread.item _ _ _ _ [] ['1'] [] (by decide)
        (Value.laid_encodeChars (.int 1)) endsToken_nil .nil
    have proper : numbering.Proper :=
      ⟨by decide, rfl, by decide, by decide,
        ⟨_, Parser.ArgumentList.leadsTo_nil _,
          introduces_named (by decide) (by decide) rfl⟩,
        ⟨.empty, .array (by decide +kernel)⟩, spread, by decide, by decide⟩
    have spellable : (Value.array numbering.items).Spellable := by
      decide +kernel
    obtain ⟨_, _, _, _, closed, unclosed⟩ := gains numbering proper spellable
    have counts : numbering.unclosed.invocations.length =
        numbering.closed.invocations.length := by
      rw [closed, unclosed]
    revert counts
    decide +kernel

end ListScene

end GridScript
