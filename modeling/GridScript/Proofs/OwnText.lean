import GridScript.Proofs.Rereading

/-!
# Values read from their own text

What is read from the text of a typed value, and what is reported of it, does
not depend on where this text stands and on what follows it.  That is so of
doubles as well that are read as another one, or not at all.
-/

namespace GridScript

namespace Cursor

/-- The cursor with this text in front of it. -/
def facing (c : Cursor) (rest : List Char) : Cursor :=
  { c with rest }

/-- The second cursor stands in the same argument, further down by the lines
that the lexeme takes. -/
structure Beyond (before : Cursor) (lexeme : List Char) (after : Cursor) :
    Prop where
  line : after.line = before.line + lexeme.count '\n'
  command : after.command = before.command
  argument : after.argument = before.argument

theorem beyond_behind (c : Cursor) (lexeme rest : List Char) :
    c.Beyond lexeme (c.behind lexeme rest) :=
  ⟨rfl, rfl, rfl⟩

theorem Beyond.trans {first second third : Cursor} {left right : List Char}
    (leftBeyond : first.Beyond left second)
    (rightBeyond : second.Beyond right third) :
    first.Beyond (left ++ right) third := by
  refine ⟨?_, rightBeyond.command.trans leftBeyond.command,
    rightBeyond.argument.trans leftBeyond.argument⟩
  rw [rightBeyond.line, leftBeyond.line, List.count_append, Nat.add_assoc]

/-- From any cursor on, the same is read from the lexeme, whatever follows it
as the end of a token. -/
def ReadsAlone {α : Type} (read : Cursor → α × Cursor)
    (lexeme : List Char) : Prop :=
  ∀ c : Cursor, ∃ (value : α) (after : Cursor), c.Beyond lexeme after ∧
    ∀ rest, EndsToken rest →
      read (c.facing (lexeme ++ rest)) = (value, after.facing rest)

theorem readsAlone_of_behind {α : Type} {read : Cursor → α × Cursor}
    {lexeme : List Char} {value : α}
    (reads : ∀ (c : Cursor) (rest : List Char), EndsToken rest →
      c.rest = lexeme ++ rest → read c = (value, c.behind lexeme rest)) :
    ReadsAlone read lexeme :=
  fun c => ⟨value, c.behind lexeme [], c.beyond_behind lexeme [],
    fun rest ends => reads _ rest ends rfl⟩

/-! ### Tokens -/

theorem readsAlone_readDouble (d : Binary64) :
    ReadsAlone readDouble d.scientific.toList := by
  rcases d.scientific_cases with ⟨_, n, wellFormed, text⟩ | ⟨infinite, _⟩
  · rw [← text]
    refine @readsAlone_of_behind _ _ _ (some n.toBinary64) ?_
    intro c rest ends unread
    simp only [readDouble, readNumeral_text wellFormed ends unread]
  · intro c
    exact ⟨none, (c.behind d.scientific.toList []).error _, ⟨rfl, rfl, rfl⟩,
      fun rest ends => readDouble_word infinite ends rfl⟩

theorem readsAlone_readReferenceItem (objects : ObjectTable)
    {object : ObjectRef} (word : IsWordText object.className)
    (inside : object.id < 0x10000000000000000) :
    ReadsAlone (readReferenceItem objects object.className)
      object.text.toList := by
  have item : ∀ (c : Cursor) (rest : List Char), EndsToken rest →
      c.rest = object.text.toList ++ rest →
        c.readReferenceItem objects object.className =
          let read := (c.behind object.text.toList rest).resolveReference
            objects object.className object.text
          (some read.1, read.2) :=
    fun c rest ends unread => readReferenceItem_of_token (isEmpty_text object)
      (readReferenceToken_text word ends unread)
  intro c
  by_cases known : objects.contains object.className object.id = true
  · refine ⟨some (some object), c.behind object.text.toList [],
      c.beyond_behind _ _, ?_⟩
    intro rest ends
    rw [item _ rest ends rfl, resolveReference_text _ word inside,
      if_pos known]
    rfl
  · refine ⟨some none, (c.behind object.text.toList []).warn
      (.unknownObject object.text), ⟨rfl, rfl, rfl⟩, ?_⟩
    intro rest ends
    rw [item _ rest ends rfl, resolveReference_text _ word inside,
      if_neg known]
    rfl

theorem readsAlone_readReference (objects : ObjectTable)
    {object : ObjectRef} (word : IsWordText object.className)
    (inside : object.id < 0x10000000000000000) :
    ReadsAlone (readReference objects object.className)
      object.text.toList := by
  intro c
  obtain ⟨value, after, beyond, reads⟩ :=
    readsAlone_readReferenceItem objects word inside c
  refine ⟨value.getD none, after, beyond, ?_⟩
  intro rest ends
  have token := @readReferenceToken_text
    (c.facing (object.text.toList ++ rest)) object rest word ends rfl
  rw [readReference_eq_item (by rw [token]; exact isEmpty_text object),
    reads rest ends]

/-! ### Lists -/

theorem listStep_alone {α : Type} {item : Cursor → Option α × Cursor}
    {lexeme : List Char} (alone : ReadsAlone item lexeme)
    (opens : OpensToken lexeme) {space : List Char}
    (isSpace : IsSpace space) (c : Cursor) :
    ∃ (value : Option α) (after : Cursor), c.Beyond (space ++ lexeme) after ∧
      ∀ rest, EndsToken rest →
        listStep item (c.facing (space ++ (lexeme ++ rest))) =
          .continued value (after.facing rest) := by
  obtain ⟨value, after, beyond, reads⟩ := alone (c.behind space [])
  refine ⟨value, after, (c.beyond_behind space []).trans beyond,
    fun rest ends => ?_⟩
  have here : item ((c.facing (space ++ (lexeme ++ rest))).behind space
      (lexeme ++ rest)) = (value, after.facing rest) := reads rest ends
  rw [listStep_opens isSpace opens rfl (by rw [here]; rfl), here]

theorem readItems_alone {α β : Type} {item : Cursor → Option β × Cursor}
    {spells : α → List Char → Prop} {items : List α} {text : List Char}
    (spaced : Spaced spells items text)
    (reads : ∀ source ∈ items, ∀ lexeme, spells source lexeme →
      OpensToken lexeme ∧ ReadsAlone item lexeme) (c : Cursor) :
    ∃ (values : List β) (after : Cursor), c.Beyond (text ++ [']']) after ∧
      ∀ rest, readItems item (c.facing (text ++ ']' :: rest)) =
        (values, after.facing rest) := by
  induction spaced generalizing c with
  | @nil blanks areBlanks =>
      refine ⟨[], c.behind (blanks ++ [']']) [], c.beyond_behind _ _,
        fun rest => ?_⟩
      exact readItems_of_finished (listStep_close areBlanks.isSpace rfl)
  | @last source before lexeme after leading spelled trailing =>
      obtain ⟨opens, alone⟩ := reads _ List.mem_cons_self _ spelled
      obtain ⟨value, behind, beyond, step⟩ :=
        listStep_alone alone opens leading.isSpace c
      have whole := beyond.trans (behind.beyond_behind (after ++ [']']) [])
      refine ⟨value.toList, behind.behind (after ++ [']']) [],
        by simpa using whole, fun rest => ?_⟩
      have ends : EndsToken (after ++ ']' :: rest) :=
        endsToken_blanks trailing (endsToken_cons (by decide))
      have close : listStep item (behind.facing (after ++ ']' :: rest)) =
          .finished ((behind.behind (after ++ [']']) []).facing rest) :=
        listStep_close trailing.isSpace rfl
      rw [List.append_assoc, List.append_assoc,
        readItems_of_continued (step _ ends), readItems_of_finished close,
        List.append_nil]
  | @cons source sources before lexeme after text leading spelled trailing more
      others induction =>
      obtain ⟨opens, alone⟩ := reads _ List.mem_cons_self _ spelled
      obtain ⟨value, behind, beyond, step⟩ :=
        listStep_alone alone opens leading.isSpace c
      obtain ⟨values, last, further, later⟩ := induction
        (fun other member => reads other (List.mem_cons_of_mem _ member))
        (behind.behind (after ++ [',']) [])
      have whole := (beyond.trans
        (behind.beyond_behind (after ++ [',']) [])).trans further
      refine ⟨value.toList ++ values, last, by simpa using whole,
        fun rest => ?_⟩
      have ends : EndsToken (after ++ ',' :: (text ++ ']' :: rest)) :=
        endsToken_blanks trailing (endsToken_cons (by decide))
      have comma : listStep item
          (behind.facing (after ++ ',' :: (text ++ ']' :: rest))) =
            .continued none ((behind.behind (after ++ [',']) []).facing
              (text ++ ']' :: rest)) :=
        listStep_comma trailing.isSpace rfl
      have split : (before ++ (lexeme ++ (after ++ ',' :: text))) ++
          ']' :: rest =
            before ++ (lexeme ++ (after ++ ',' :: (text ++ ']' :: rest))) := by
        simp
      rw [split, readItems_of_continued (step _ ends),
        readItems_of_continued comma, later rest]
      rfl

theorem readsAlone_readList {α β : Type} {item : Cursor → Option β × Cursor}
    {spells : α → List Char → Prop} {items : List α} {text : List Char}
    (spaced : Spaced spells items text)
    (reads : ∀ source ∈ items, ∀ lexeme, spells source lexeme →
      OpensToken lexeme ∧ ReadsAlone item lexeme) :
    ReadsAlone (readList item) ('[' :: (text ++ [']'])) := by
  intro c
  obtain ⟨values, after, beyond, later⟩ :=
    readItems_alone spaced reads (c.behind ['['] [])
  refine ⟨some values, after, (c.beyond_behind ['['] []).trans beyond,
    fun rest _ => ?_⟩
  have opened : (c.facing ('[' :: (text ++ [']']) ++ rest)).rest =
      '[' :: (text ++ ']' :: rest) := by
    simp [facing]
  have start := skipBlanks_eq_self opened (by decide)
  have next : (c.facing ('[' :: (text ++ [']']) ++ rest)).next =
      (c.behind ['['] []).facing (text ++ ']' :: rest) :=
    next_eq_behind opened
  simp only [readList, start, peek?, opened, List.head?_cons, if_true, next,
    later rest]

/-! ### Values -/

theorem readsAlone_unlessEnd {α : Type} {read : Cursor → α × Cursor}
    {lexeme : List Char} (opens : OpensToken lexeme)
    (alone : ReadsAlone read lexeme) (value : α → Option Value) :
    ReadsAlone (unlessEnd fun c => (read c).map value id) lexeme := by
  intro c
  obtain ⟨found, after, beyond, reads⟩ := alone c
  refine ⟨value found, after, beyond, fun rest ends => ?_⟩
  rw [unlessEnd_opensToken opens rfl, reads rest ends]
  rfl

theorem readsAlone_laid_reference {shape : ObjectTable} (objects : ObjectTable)
    {className : String} {item : Value}
    (typed : item.HasType shape (.reference className))
    (spellable : item.Spellable) (nonNull : item.isNullReference = false)
    {lexeme : List Char} (laid : item.Laid lexeme) :
    ReadsAlone (readReferenceItem objects className) lexeme := by
  cases typed with
  | null => cases nonNull
  | @object _ id inside _ =>
      have word := spellable.className ⟨className, id⟩ (by simp [Value.leaves])
      obtain rfl := laid.eq_encodeChars rfl
      exact @readsAlone_readReferenceItem objects ⟨className, id⟩ word inside

/-- A typed value is read from its own text alone. -/
theorem readsAlone_readValue {shape : ObjectTable} (objects : ObjectTable)
    {type : ValueType} {value : Value} (typed : value.HasType shape type)
    (spellable : value.Spellable) (nonNull : value.isNullReference = false)
    {lexeme : List Char} (laid : value.Laid lexeme) :
    ReadsAlone (readValue objects type) lexeme := by
  have opens := opensToken_laid spellable nonNull laid
  induction typed generalizing lexeme with
  | string text =>
      obtain rfl := laid.eq_encodeChars rfl
      exact readsAlone_unlessEnd opens (readsAlone_of_behind
        fun _ _ _ unread => readString_quoteChars unread) _
  | bool value =>
      obtain rfl := laid.eq_encodeChars rfl
      exact readsAlone_unlessEnd opens (readsAlone_of_behind
        fun _ _ ends unread => readBool_text ends unread) _
  | int inside =>
      obtain rfl := laid.eq_encodeChars rfl
      exact readsAlone_unlessEnd opens (readsAlone_of_behind
        fun _ _ ends unread => readInt_text inside ends unread) _
  | double d =>
      obtain rfl := laid.eq_encodeChars rfl
      exact readsAlone_unlessEnd opens (readsAlone_readDouble d) _
  | @variant names name member =>
      obtain rfl := laid.eq_encodeChars rfl
      have word := spellable.variant name (by simp [Value.leaves])
      exact readsAlone_unlessEnd opens (readsAlone_of_behind
        fun _ _ ends unread => readVariant_word member word ends unread) _
  | null className => cases nonNull
  | @object className id inside _ =>
      obtain rfl := laid.eq_encodeChars rfl
      have word := spellable.className ⟨className, id⟩ (by simp [Value.leaves])
      exact readsAlone_unlessEnd opens
        (readsAlone_readReference objects word inside) _
  | @array element items typed induction =>
      cases laid with
      | atom single => cases single
      | @array _ text spaced =>
          refine readsAlone_unlessEnd opens (readsAlone_readList spaced ?_) _
          intro item member lexeme laid
          obtain ⟨inItems, isItem⟩ := List.mem_filter.mp member
          have nonNull : item.isNullReference = false := by simpa using isItem
          have spells := spellable.item inItems
          have opens := opensToken_laid spells nonNull laid
          exact ⟨opens, induction item inItems spells nonNull laid opens⟩
  | @references className items typed _ =>
      cases laid with
      | atom single => cases single
      | @array _ text spaced =>
          refine readsAlone_unlessEnd opens (readsAlone_readList spaced ?_) _
          intro item member lexeme laid
          obtain ⟨inItems, isItem⟩ := List.mem_filter.mp member
          have nonNull : item.isNullReference = false := by simpa using isItem
          have spells := spellable.item inItems
          exact ⟨opensToken_laid spells nonNull laid,
            readsAlone_laid_reference objects (typed item inItems) spells
              nonNull laid⟩

end Cursor

end GridScript
