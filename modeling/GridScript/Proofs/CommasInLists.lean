import GridScript.Proofs.Settling
import Mathlib.Data.List.Chain

/-!
# Commas in lists

A list passes over commas as it passes over blanks, so that nothing is reported
where a comma is missing.  What keeps two items apart is where the first one
breaks off: between them stand blanks and commas, and where nothing stands
there no word goes on from the one to the other.
-/

namespace GridScript

/-- No array inside the value has two items. -/
def Value.IsSparse : Value → ValueType → Prop
  | array items, .array element =>
    items.length ≤ 1 ∧ ∀ item ∈ items, item.IsSparse element
  | array items, .references _ => items.length ≤ 1
  | _, _ => True

namespace Cursor

/-! ### The items of a list in its text -/

/-- The text between two cursors. -/
def passed (before after : Cursor) : List Char :=
  before.rest.take (before.rest.length - after.rest.length)

/-- Where an item of a list starts, its text, and what stands between it and
the next item or the end of the list. -/
structure ListItem where
  start : Cursor
  text : List Char
  gap : List Char

/-- What stands in front of the first item that is read, and the items. -/
def listItems {α : Type} (item : Cursor → Option α × Cursor) (c : Cursor) :
    List Char × List ListItem :=
  match _step : listStep item c with
  | .finished _ => (passed c c.skipBlanks, [])
  | .continued none after =>
    let later := listItems item after
    (passed c after ++ later.1, later.2)
  | .continued (some _) after =>
    let later := listItems item after
    (passed c c.skipBlanks,
      ⟨c.skipBlanks, passed c.skipBlanks after, later.1⟩ :: later.2)
termination_by c.rest.length
decreasing_by all_goals exact listStep_length_lt _step

/-- Blanks and commas stand between two items.  Where nothing does, it is not
inside a word that the one ends and the other begins. -/
structure ListItem.Apart (left right : ListItem) : Prop where
  gap : ∀ mark ∈ left.gap, isBlank mark = true ∨ mark = ','
  touching : left.gap = [] → ∀ last next, left.text.getLast? = some last →
    right.start.peek? = some next → isWord last = false ∨ isWord next = false

/-- A comma stands between two items. -/
def ListItem.CommaBetween (left _right : ListItem) : Prop :=
  ',' ∈ left.gap

/-- In every list of the value that is read here, at any depth, neighbouring
items are apart in the given sense. -/
def PartedBy (apart : ListItem → ListItem → Prop) (objects : ObjectTable) :
    ValueType → Cursor → Prop
  | .array element, c =>
    let items := (listItems (readValue objects element) c.skipBlanks.next).2
    items.IsChain apart ∧
      ∀ item ∈ items, PartedBy apart objects element item.start
  | .references className, c =>
    (listItems (readReferenceItem objects className)
      c.skipBlanks.next).2.IsChain apart
  | _, _ => True

/-- The value is read without a diagnostic. -/
structure ReadsSilently (objects : ObjectTable) (type : ValueType) (c : Cursor)
    (value : Value) : Prop where
  value : (c.readValue objects type).1 = some value
  silent : c.Silent (c.readValue objects type).2

section

variable {α : Type} {item : Cursor → Option α × Cursor} {c after : Cursor}

theorem passed_eq {lexeme : List Char} (split : c.rest = lexeme ++ after.rest) :
    passed c after = lexeme := by
  simp [passed, split]

theorem rest_eq_passed (reached : c.Reaches after) :
    c.rest = passed c after ++ after.rest := by
  obtain ⟨lexeme, split⟩ := reached.suffix
  rw [passed_eq split.symm, split]

theorem isBlank_of_mem_passed {mark : Char}
    (member : mark ∈ passed c c.skipBlanks) : isBlank mark = true := by
  rw [passed_eq c.skipBlanks_eq_behind.1] at member
  exact List.all_eq_true.mp List.all_takeWhile mark member

theorem listItems_of_finished (step : listStep item c = .finished after) :
    listItems item c = (passed c c.skipBlanks, []) := by
  rw [listItems]
  split <;> rename_i found <;> rw [step] at found <;> cases found

theorem listItems_of_none (step : listStep item c = .continued none after) :
    listItems item c = (passed c after ++ (listItems item after).1,
      (listItems item after).2) := by
  rw [listItems]
  split <;> rename_i found <;> rw [step] at found <;> cases found
  rfl

theorem listItems_of_some {value : α}
    (step : listStep item c = .continued (some value) after) :
    listItems item c = (passed c c.skipBlanks,
      ⟨c.skipBlanks, passed c.skipBlanks after, (listItems item after).1⟩ ::
        (listItems item after).2) := by
  rw [listItems]
  split <;> rename_i found <;> rw [step] at found <;> cases found
  rfl

/-- The items are those that are read, in their order. -/
theorem filterMap_listItems (item : Cursor → Option α × Cursor) (c : Cursor) :
    (listItems item c).2.filterMap (fun found => (item found.start).1) =
      (readItems item c).1 := by
  cases step : listStep item c with
  | finished after =>
      rw [listItems_of_finished step, readItems_of_finished step]
      rfl
  | continued value after =>
      have less := listStep_length_lt step
      have later := filterMap_listItems item after
      cases value with
      | none =>
          rw [listItems_of_none step, readItems_of_continued step]
          exact later
      | some value =>
          rcases cases_of_listStep_continued step with
            ⟨_, none, _⟩ | ⟨_, read, _⟩
          · cases none
          · rw [listItems_of_some step, readItems_of_continued step, ← later]
            simp [← read]
termination_by c.rest.length

end

/-! ### Lists that are read in silence -/

/-- The item is read in silence as the value. -/
structure ListItem.Gives {α : Type} (item : Cursor → Option α × Cursor)
    (found : ListItem) (value : α) : Prop where
  opens : OpensToken found.start.rest
  value : (item found.start).1 = some value
  silent : found.start.Silent (item found.start).2

/-- How a list that is read in silence stands in its text. -/
structure Parted {α : Type} (item : Cursor → Option α × Cursor) (c : Cursor) :
    Prop where
  apart : (listItems item c).2.IsChain ListItem.Apart
  before : ∀ mark ∈ (listItems item c).1, isBlank mark = true ∨ mark = ','
  first : ∀ found ∈ (listItems item c).2.head?,
    c.rest = (listItems item c).1 ++ found.start.rest
  values : List.Forall₂ (ListItem.Gives item) (listItems item c).2
    (readItems item c).1
  closed : ∃ front, c.rest = front ++ ']' :: (readItems item c).2.rest

section

variable {α : Type} {item : Cursor → Option α × Cursor} {c after : Cursor}

theorem parted_finished (step : listStep item c = .finished after)
    (silent : c.Silent after) : Parted item c := by
  obtain ⟨tail, closes, rfl⟩ := closes_of_listStep_finished step silent
  have items := listItems_of_finished step
  have read := readItems_of_finished step
  refine ⟨by rw [items]; exact .nil, ?_, by rw [items]; nofun, ?_, ?_⟩
  · rw [items]
    exact fun mark member => .inl (isBlank_of_mem_passed member)
  · rw [items, read]
    exact .nil
  · refine ⟨c.rest.takeWhile isBlank, ?_⟩
    rw [read, rest_next, closes, List.tail_cons, ← closes]
    exact c.skipBlanks_eq_behind.1

/-- A comma joins what stands in front of the next item. -/
theorem parted_comma {tail : List Char}
    (step : listStep item c = .continued none after)
    (comma : c.skipBlanks.rest = ',' :: tail)
    (moved : after = c.skipBlanks.next) (later : Parted item after) :
    Parted item c := by
  subst moved
  have items := listItems_of_none step
  have read := readItems_of_continued step
  have split : c.rest = (c.rest.takeWhile isBlank ++ [',']) ++
      c.skipBlanks.next.rest := by
    rw [rest_next, comma, List.tail_cons, List.append_assoc]
    have blanks := c.skipBlanks_eq_behind.1
    rwa [comma] at blanks
  have gap := passed_eq split
  refine ⟨by rw [items]; exact later.apart, ?_, ?_, ?_, ?_⟩
  · rw [items, gap]
    intro mark member
    rcases List.mem_append.mp member with inside | further
    · rcases List.mem_append.mp inside with blank | last
      · exact .inl (List.all_eq_true.mp List.all_takeWhile mark blank)
      · exact .inr (List.mem_singleton.mp last)
    · exact later.before mark further
  · rw [items, gap]
    intro found isFirst
    rw [List.append_assoc, ← later.first found isFirst]
    exact split
  · rw [items, read]
    exact later.values
  · obtain ⟨front, closed⟩ := later.closed
    refine ⟨(c.rest.takeWhile isBlank ++ [',']) ++ front, ?_⟩
    rw [read, List.append_assoc, ← closed]
    exact split

theorem parted_item {value : α}
    (step : listStep item c = .continued (some value) after)
    (opens : OpensToken c.skipBlanks.rest)
    (read : (item c.skipBlanks).1 = some value)
    (silent : c.skipBlanks.Silent (item c.skipBlanks).2)
    (reached : c.skipBlanks.Reaches after)
    (off : BreaksOff c.skipBlanks.rest after.rest) (later : Parted item after) :
    Parted item c := by
  have items := listItems_of_some step
  have others := readItems_of_continued step
  have split := rest_eq_passed reached
  refine ⟨?_, ?_, ?_, ?_, ?_⟩
  · rw [items]
    refine List.isChain_cons.mpr ⟨fun right isFirst => ?_, later.apart⟩
    refine ⟨later.before, fun touching last next isLast isNext => ?_⟩
    -- Nothing stands between the two, so that the second starts where the
    -- first one broke off.
    have start := later.first right isFirst
    dsimp only at touching isLast
    rw [touching, List.nil_append] at start
    rcases off with stops | ⟨front, mark, whole, noWord⟩
    · exact .inr (stops next (by rw [start]; exact isNext))
    · have text : passed c.skipBlanks after = front ++ [mark] :=
        passed_eq (by simpa using whole)
      rw [text, List.getLast?_concat] at isLast
      cases isLast
      exact .inl noWord
  · rw [items]
    exact fun mark member => .inl (isBlank_of_mem_passed member)
  · rw [items]
    rintro found ⟨⟩
    rw [passed_eq c.skipBlanks_eq_behind.1]
    exact c.skipBlanks_eq_behind.1
  · rw [items, others]
    exact .cons ⟨opens, read, silent⟩ later.values
  · obtain ⟨front, closed⟩ := later.closed
    refine ⟨c.rest.takeWhile isBlank ++
      (passed c.skipBlanks after ++ front), ?_⟩
    rw [others, List.append_assoc, List.append_assoc, ← closed, ← split]
    exact c.skipBlanks_eq_behind.1

/-- What keeps the items of a list apart that is read in silence, from what
their reader does where a token opens. -/
theorem parted_of_silent {spells : α → List Char → Prop}
    (forward : ∀ c : Cursor, c.Reaches (item c).2)
    (settles : Settles item spells) (c : Cursor)
    (silent : c.Silent (readItems item c).2) : Parted item c := by
  have reached := reaches_listStep forward c
  cases step : listStep item c with
  | finished after =>
      rw [readItems_of_finished step] at silent
      exact parted_finished step silent
  | continued value after =>
      have less := listStep_length_lt step
      rw [step] at reached
      rw [readItems_of_continued step] at silent
      obtain ⟨first, others⟩ := silent.halves reached
        (reaches_readItems forward after)
      have later := parted_of_silent forward settles after others
      rcases cases_of_listStep_continued step with
        ⟨⟨tail, comma⟩, rfl, moved⟩ | ⟨opens, rfl, moved⟩
      · exact parted_comma step comma moved later
      · subst moved
        have quiet : c.skipBlanks.Silent (item c.skipBlanks).2 :=
          silent_of_progress first
        obtain ⟨off, value, _, read, _⟩ := settles _ opens quiet
        rw [read] at step
        exact parted_item step opens read quiet (reaches_progress (forward _))
          (breaksOff_progress (forward _) opens off) later
termination_by c.rest.length

end

/-! ### Lists without commas -/

/-- A list of these texts with a blank in front of each, and without commas. -/
def listText (texts : List (List Char)) : List Char :=
  '[' :: (texts.flatMap (' ' :: ·) ++ [']'])

section

variable {α : Type} {item : Cursor → Option α × Cursor} {c : Cursor}

theorem listText_append (texts : List (List Char)) (rest : List Char) :
    listText texts ++ rest =
      '[' :: (texts.flatMap (' ' :: ·) ++ ']' :: rest) := by
  simp [listText]

theorem endsToken_texts (texts : List (List Char)) (rest : List Char) :
    EndsToken (texts.flatMap (' ' :: ·) ++ ']' :: rest) := by
  cases texts with
  | nil => exact endsToken_cons (by decide)
  | cons text texts => exact endsToken_cons (by decide)

theorem listStep_spelled {value : α} {text rest : List Char}
    (spells : Spells item value text) (ends : EndsToken rest)
    (unread : c.rest = ' ' :: (text ++ rest)) :
    listStep item c =
      .continued (some value) (c.behind (' ' :: text) rest) := by
  have blank : IsBlanks [' '] := by decide
  obtain ⟨after, step, left, passes⟩ :=
    listStep_item spells.reads spells.opens blank ends unread
  rw [step, passes.eq_behind trivial, left]
  rfl

theorem readItems_spelled {values : List α} {texts : List (List Char)}
    (spelled : List.Forall₂ (Spells item) values texts) {rest : List Char}
    (unread : c.rest = texts.flatMap (' ' :: ·) ++ ']' :: rest) :
    readItems item c =
      (values, c.behind (texts.flatMap (' ' :: ·) ++ [']']) rest) := by
  induction spelled generalizing c with
  | nil =>
      have space : IsSpace [] := by decide
      exact readItems_of_finished (listStep_close space unread)
  | @cons value text values texts spells _ induction =>
      have split : c.rest =
          ' ' :: (text ++ (texts.flatMap (' ' :: ·) ++ ']' :: rest)) := by
        simpa using unread
      rw [readItems_of_continued
          (listStep_spelled spells (endsToken_texts texts rest) split),
        induction rfl, behind_behind]
      simp

theorem listItems_spelled {value : α} {text rest : List Char}
    (spells : Spells item value text) (ends : EndsToken rest)
    (unread : c.rest = ' ' :: (text ++ rest)) :
    listItems item c = ([' '], ⟨c.behind [' '] (text ++ rest), text,
        (listItems item (c.behind (' ' :: text) rest)).1⟩ ::
      (listItems item (c.behind (' ' :: text) rest)).2) := by
  have blank : IsSpace [' '] := by decide
  have start : c.skipBlanks = c.behind [' '] (text ++ rest) :=
    skipBlanks_opens blank spells.opens unread
  have gap : passed c (c.behind [' '] (text ++ rest)) = [' '] :=
    passed_eq unread
  have own : passed (c.behind [' '] (text ++ rest))
      (c.behind (' ' :: text) rest) = text := passed_eq rfl
  rw [listItems_of_some (listStep_spelled spells ends unread), start, gap, own]

/-- No two items of such a list have a comma between them. -/
theorem length_le_one_of_commas {values : List α} {texts : List (List Char)}
    (spelled : List.Forall₂ (Spells item) values texts) {rest : List Char}
    (unread : c.rest = texts.flatMap (' ' :: ·) ++ ']' :: rest)
    (commas : (listItems item c).2.IsChain ListItem.CommaBetween) :
    values.length ≤ 1 := by
  cases spelled with
  | nil => exact Nat.zero_le 1
  | @cons _ text _ texts first later =>
      cases later with
      | nil => exact Nat.le_refl 1
      | @cons _ next _ texts second _ =>
          have split : c.rest = ' ' ::
              (text ++ (' ' :: (next ++
                (texts.flatMap (' ' :: ·) ++ ']' :: rest)))) := by
            simpa using unread
          rw [listItems_spelled first (endsToken_cons (by decide)) split,
            listItems_spelled second (endsToken_texts texts rest) rfl] at commas
          have comma := (List.isChain_cons.mp commas).1 _ rfl
          simp [ListItem.CommaBetween] at comma

theorem spells_readList {values : List α} {texts : List (List Char)}
    (spelled : List.Forall₂ (Spells item) values texts) :
    Spells (readList item) values (listText texts) := by
  refine spells_of_behind ⟨'[', _, rfl, by decide⟩ fun c rest _ unread => ?_
  have opened := unread.trans (listText_append texts rest)
  have items := @readItems_spelled _ _ c.next _ _ spelled rest
    (by simp [opened])
  simp only [readList, skipBlanks_eq_self opened (by decide), peek?, opened,
    List.head?_cons, if_true, items]
  rw [next_eq_behind opened, behind_behind]
  rfl

theorem exists_texts {spells : α → List Char → Prop}
    (settles : Settles item spells) {found : List ListItem} {values : List α}
    (given : List.Forall₂ (ListItem.Gives item) found values) :
    ∃ texts, List.Forall₂ spells values texts := by
  induction given with
  | nil => exact ⟨[], .nil⟩
  | cons gives _ induction =>
      obtain ⟨texts, others⟩ := induction
      obtain ⟨_, _, text, same, spelled⟩ := settles _ gives.opens gives.silent
      rw [gives.value] at same
      cases same
      exact ⟨text :: texts, .cons spelled others⟩

theorem settles_readList {spells : α → List Char → Prop}
    (forward : ∀ c : Cursor, c.Reaches (item c).2)
    (settles : Settles item spells) :
    Settles (readList item) fun values text =>
      ∃ texts, List.Forall₂ spells values texts ∧ text = listText texts := by
  intro c opens silent
  obtain ⟨⟨tail, opened⟩, read⟩ := eq_some_of_silent_readList silent
  rw [read] at silent ⊢
  rw [skipBlanks_of_opens opens] at opened silent ⊢
  have parted := parted_of_silent forward settles c.next silent
  obtain ⟨front, closed⟩ := parted.closed
  obtain ⟨texts, spelled⟩ := exists_texts settles parted.values
  refine ⟨.inr ⟨'[' :: front, ']', ?_, by decide⟩, _, listText texts, rfl,
    texts, spelled, rfl⟩
  rw [rest_next, opened, List.tail_cons] at closed
  rw [opened, List.cons_append, ← closed]

end

/-! ### Values -/

/-- The text is read as the value, and its lists are without commas. -/
structure SpellsValue (objects : ObjectTable) (type : ValueType) (value : Value)
    (text : List Char) : Prop where
  spells : Spells (readValue objects type) value text
  sparse : ∀ (c : Cursor) (rest : List Char), EndsToken rest →
    c.rest = text ++ rest →
      PartedBy ListItem.CommaBetween objects type c → value.IsSparse type

theorem spellsValue_array {objects : ObjectTable} {element : ValueType}
    {values : List Value} {texts : List (List Char)}
    (spelled : List.Forall₂ (SpellsValue objects element) values texts) :
    SpellsValue objects (.array element) (.array values) (listText texts) := by
  have items : List.Forall₂ (Spells (readValue objects element)) values texts :=
    spelled.imp fun _ _ => SpellsValue.spells
  refine ⟨(spells_readList items).map fun c => unlessEnd_of_opens, ?_⟩
  intro c rest ends unread parted
  have opened := unread.trans (listText_append texts rest)
  have start := skipBlanks_eq_self opened (by decide)
  have behind : c.next.rest = texts.flatMap (' ' :: ·) ++ ']' :: rest := by
    simp [opened]
  rw [PartedBy, start] at parted
  obtain ⟨commas, inside⟩ := parted
  have few := length_le_one_of_commas items behind commas
  refine ⟨few, ?_⟩
  cases spelled with
  | nil => nofun
  | @cons value text _ _ first others =>
      cases others with
      | cons => simp at few
      | nil =>
          have split : c.next.rest = ' ' :: (text ++ ']' :: rest) := by
            simpa using behind
          have endsItem : EndsToken (']' :: rest) := endsToken_cons (by decide)
          rw [listItems_spelled first.spells endsItem split] at inside
          intro item member
          obtain rfl := List.mem_singleton.mp member
          exact first.sparse _ _ endsItem rfl
            (inside _ List.mem_cons_self)

theorem spellsValue_references {objects : ObjectTable} {className : String}
    {values : List (Option ObjectRef)} {texts : List (List Char)}
    (spelled : List.Forall₂ (Spells (readReferenceItem objects className))
      values texts) :
    SpellsValue objects (.references className)
      (.array (values.map Value.reference)) (listText texts) := by
  have lists := @Spells.map _ _ (readList (readReferenceItem objects className))
    (readValue objects (.references className))
    (fun values => .array (values.map Value.reference))
    (fun c => unlessEnd_of_opens) _ _ (spells_readList spelled)
  refine ⟨lists, fun c rest ends unread parted => ?_⟩
  have opened := unread.trans (listText_append texts rest)
  rw [PartedBy, skipBlanks_eq_self opened (by decide)] at parted
  have few := @length_le_one_of_commas _ _ c.next _ _ spelled rest
    (by simp [opened]) parted
  simpa [Value.IsSparse] using few

section

variable {objects : ObjectTable} {type : ValueType} {α : Type}
  {item : Cursor → Option α × Cursor} {value : α → Value}

theorem spellsValue_leaf
    (same : ∀ c : Cursor, OpensToken c.rest →
      readValue objects type c = ((item c).1.map value, (item c).2))
    (sparse : ∀ found, (value found).IsSparse type) {found : α}
    {text : List Char} (spells : Spells item found text) :
    SpellsValue objects type (value found) text :=
  ⟨spells.map same, fun _ _ _ _ _ => sparse found⟩

theorem settles_leaf
    (same : ∀ c : Cursor, OpensToken c.rest →
      readValue objects type c = ((item c).1.map value, (item c).2))
    (sparse : ∀ found, (value found).IsSparse type)
    (settles : Settles item (Spells item)) :
    Settles (readValue objects type) (SpellsValue objects type) :=
  settles.map same fun _ _ => spellsValue_leaf same sparse

end

theorem spellsValue_int (objects : ObjectTable) {value : Int}
    (inside : InInt64 value) :
    SpellsValue objects .int (.int value) (intText value).toList :=
  @spellsValue_leaf objects .int _ _ Value.int (fun _ => unlessEnd_of_opens)
    (fun _ => trivial) _ _ (spells_readInt inside)

/-- What is read in silence has a text without commas that is read as the
same value. -/
theorem settles_readValue (objects : ObjectTable) (type : ValueType) :
    Settles (readValue objects type) (SpellsValue objects type) := by
  induction type with
  | string =>
      exact @settles_leaf _ _ _ _ Value.string (fun c => unlessEnd_of_opens)
        (fun _ => trivial) settles_readString
  | bool =>
      exact @settles_leaf _ _ _ _ Value.bool (fun c => unlessEnd_of_opens)
        (fun _ => trivial) settles_readBool
  | int =>
      exact @settles_leaf _ _ _ _ Value.int (fun c => unlessEnd_of_opens)
        (fun _ => trivial) settles_readInt
  | double =>
      exact @settles_leaf _ _ _ _ Value.double (fun c => unlessEnd_of_opens)
        (fun _ => trivial) settles_readDouble
  | enumeration names =>
      exact @settles_leaf _ _ _ _ Value.variant (fun c => unlessEnd_of_opens)
        (fun _ => trivial) (settles_readVariant names)
  | reference className =>
      refine @settles_leaf _ _ _ _ Value.reference (fun c opens => ?_)
        (fun _ => trivial) (settles_readReferenceItem objects className)
      have read : readValue objects (.reference className) c =
          (c.readReference objects className).map (some ∘ Value.reference) id :=
        unlessEnd_of_opens opens
      rw [read, ← readReference_of_opens objects className opens]
      generalize c.readReference objects className = found
      rfl
  | array element induction =>
      refine (settles_readList (reaches_readValue objects element)
        induction).map (fun c => unlessEnd_of_opens) ?_
      rintro values text ⟨texts, spelled, rfl⟩
      exact spellsValue_array spelled
  | references className =>
      refine (settles_readList (reaches_readReferenceItem objects className)
        (settles_readReferenceItem objects className)).map
        (fun c => unlessEnd_of_opens) ?_
      rintro values text ⟨texts, spelled, rfl⟩
      exact spellsValue_references spelled

/-! ### The separation of items -/

section

variable {objects : ObjectTable} {type : ValueType} {c : Cursor} {value : Value}

theorem Spells.readsSilently {text rest : List Char}
    (spells : Spells (readValue objects type) value text)
    (ends : EndsToken rest) (unread : c.rest = text ++ rest) :
    c.ReadsSilently objects type value := by
  obtain ⟨read, passes⟩ := spells.reads c rest ends unread
  refine ⟨read, ?_⟩
  rw [passes.eq_behind trivial]
  rfl

/-- A list that is read in silence has its bracket, and its items are read in
silence behind it. -/
theorem items_of_silent {α : Type} {item : Cursor → Option α × Cursor}
    {wrap : List α → Value}
    (read : (c.unlessEnd fun c =>
      (c.readList item).map (Option.map wrap) id).1 = some value)
    (silent : c.Silent (c.unlessEnd fun c =>
      (c.readList item).map (Option.map wrap) id).2) :
    OpensToken c.skipBlanks.rest ∧
      value = wrap (readItems item c.skipBlanks.next).1 ∧
      c.skipBlanks.next.Silent (readItems item c.skipBlanks.next).2 := by
  unfold unlessEnd at read silent
  dsimp only at read silent
  split at read
  · cases read
  · rename_i unread
    rw [if_neg unread] at silent
    have list := @eq_some_of_silent_readList _ item c.skipBlanks silent
    rw [skipBlanks_skipBlanks] at list
    obtain ⟨⟨tail, opened⟩, same⟩ := list
    rw [same] at read silent
    cases read
    exact ⟨⟨'[', tail, opened, by decide⟩, rfl, silent⟩

theorem exists_given {α : Type} {item : Cursor → Option α × Cursor}
    {places : List ListItem} {values : List α}
    (given : List.Forall₂ (ListItem.Gives item) places values)
    {found : ListItem} (member : found ∈ places) :
    ∃ value ∈ values, found.Gives item value := by
  induction given with
  | nil => cases member
  | cons gives _ induction =>
      rcases List.mem_cons.mp member with rfl | later
      · exact ⟨_, List.mem_cons_self, gives⟩
      · obtain ⟨value, inside, gives⟩ := induction later
        exact ⟨value, List.mem_cons_of_mem _ inside, gives⟩

theorem Parted.chain {α : Type} {item : Cursor → Option α × Cursor}
    (parted : Parted item c) {apart : ListItem → ListItem → Prop}
    (kept : (∀ left right : ListItem, left.Apart right → apart left right) ∨
      (readItems item c).1.length ≤ 1) :
    (listItems item c).2.IsChain apart := by
  rcases kept with weaker | few
  · exact parted.apart.imp weaker
  · rw [← parted.values.length_eq] at few
    match items : (listItems item c).2 with
    | [] => exact .nil
    | [_] => exact .singleton _
    | _ :: _ :: _ => simp [items] at few

/-- All lists of a value that is read in silence are parted in any sense that
is no stronger than `ListItem.Apart`, and in every sense if there is nothing to
part. -/
theorem partedBy_of_readsSilently {apart : ListItem → ListItem → Prop}
    (reads : c.ReadsSilently objects type value)
    (kept : (∀ left right : ListItem, left.Apart right → apart left right) ∨
      value.IsSparse type) : PartedBy apart objects type c := by
  induction type generalizing c value with
  | array element induction =>
      obtain ⟨_, rfl, silent⟩ := items_of_silent reads.value reads.silent
      have parted := parted_of_silent (reaches_readValue objects element)
        (settles_readValue objects element) _ silent
      refine ⟨parted.chain (kept.imp_right And.left), fun item member => ?_⟩
      obtain ⟨found, inside, gives⟩ := exists_given parted.values member
      exact induction ⟨gives.value, gives.silent⟩
        (kept.imp_right fun sparse => sparse.2 found inside)
  | references className =>
      obtain ⟨_, rfl, silent⟩ := items_of_silent reads.value reads.silent
      have parted := parted_of_silent
        (reaches_readReferenceItem objects className)
        (settles_readReferenceItem objects className) _ silent
      exact parted.chain (kept.imp_right fun sparse => by
        simpa [Value.IsSparse] using sparse)
  | _ => trivial

theorem opens_or_isSparse (reads : c.ReadsSilently objects type value) :
    OpensToken c.skipBlanks.rest ∨ value.IsSparse type := by
  cases type with
  | array element =>
      exact .inl (items_of_silent reads.value reads.silent).1
  | references className =>
      exact .inl (items_of_silent reads.value reads.silent).1
  | _ => exact .inr (by cases value <;> trivial)

end

/-- Wherever a value is read in silence, nothing but blanks and commas stands
between the items of its lists, and no word goes on from one to the next.
Commas are sure to stand there only where there is nothing to separate: every
other value is read in silence from a text without commas as well. -/
theorem items_parted_and_commas_iff {objects : ObjectTable} {type : ValueType}
    {value : Value}
    (readable : ∃ c : Cursor, c.ReadsSilently objects type value) :
    (∀ c : Cursor, c.ReadsSilently objects type value →
        PartedBy ListItem.Apart objects type c) ∧
      ((∀ c : Cursor, c.ReadsSilently objects type value →
          PartedBy ListItem.CommaBetween objects type c) ↔
        value.IsSparse type) := by
  refine ⟨fun c reads => partedBy_of_readsSilently reads (.inl fun _ _ => id),
    fun commas => ?_,
    fun sparse c reads => partedBy_of_readsSilently reads (.inr sparse)⟩
  obtain ⟨c, reads⟩ := readable
  rcases opens_or_isSparse reads with opens | sparse
  · have same := readValue_skipBlanks objects type rfl c.skipBlanks_skipBlanks
    obtain ⟨_, found, text, read, spelled⟩ :=
      settles_readValue objects type c.skipBlanks opens
        (by rw [← same]; exact reads.silent)
    rw [← same, reads.value] at read
    cases read
    let here : Cursor := { rest := text }
    have unread : here.rest = text ++ [] := (List.append_nil text).symm
    exact spelled.sparse here [] endsToken_nil unread
      (commas here (spelled.spells.readsSilently endsToken_nil unread))
  · exact sparse

/-- Lists of integers. -/
def numbers : ValueType := .array .int

theorem items_parted_and_commas_iff_numbers :
    (∃ c : Cursor, c.ReadsSilently .empty numbers (.array [.int 1, .int 2])) ∧
    (∀ c : Cursor, c.ReadsSilently .empty numbers (.array [.int 1, .int 2]) →
        PartedBy ListItem.Apart .empty numbers c) ∧
      ((∀ c : Cursor,
          c.ReadsSilently .empty numbers (.array [.int 1, .int 2]) →
            PartedBy ListItem.CommaBetween .empty numbers c) ↔
        (Value.array [.int 1, .int 2]).IsSparse numbers) := by
  have spelled := spellsValue_array
    (.cons (spellsValue_int .empty (by decide : InInt64 1))
      (.cons (spellsValue_int .empty (by decide : InInt64 2)) .nil))
  have readable : ∃ c : Cursor,
      c.ReadsSilently .empty numbers (.array [.int 1, .int 2]) :=
    ⟨{ rest := _ },
      spelled.spells.readsSilently endsToken_nil (List.append_nil _).symm⟩
  exact ⟨readable, items_parted_and_commas_iff readable⟩

theorem not_forall_commas :
    ¬∀ (objects : ObjectTable) (type : ValueType) (c : Cursor) (value : Value),
      c.ReadsSilently objects type value →
        PartedBy ListItem.CommaBetween objects type c := by
  intro commas
  let here : Cursor := { rest := ['[', '1', ' ', '2', ']'] }
  have isRead : (here.readValue .empty numbers).1.isSome = true := by
    decide +kernel
  have silent : (here.readValue .empty numbers).2.diagnostics = [] := by
    decide +kernel
  obtain ⟨value, read⟩ := Option.isSome_iff_exists.mp isRead
  have chain := (commas .empty numbers here value ⟨read, silent⟩).1
  have gaps : (listItems (readValue .empty .int) here.skipBlanks.next).2.map
      ListItem.gap = [[' '], []] := by
    decide +kernel
  obtain ⟨first, others, items, blank, later⟩ := List.map_eq_cons_iff.mp gaps
  obtain ⟨second, _, rfl, _⟩ := List.map_eq_cons_iff.mp later
  rw [items] at chain
  have comma := (List.isChain_cons.mp chain).1 second rfl
  rw [ListItem.CommaBetween, blank] at comma
  simp at comma

end Cursor

end GridScript
