import GridScript.Proofs.Characters
import GridScript.Proofs.QuotedText
import GridScript.Toml.Reader

/-!
# Documents line by line

`Toml.Lines` relates the text of a document to its statements: headers and
assignments on lines of their own, and empty lines.  Such a text is read as
these statements, and sections of distinct names denote the tables that they
spell out.
-/

namespace GridScript

namespace Toml

/-! ### Names -/

/-- A name that is written without quotes. -/
def IsBareName (name : String) : Prop :=
  name.toList ≠ [] ∧ ∀ c ∈ name.toList, isBare c = true

instance (name : String) : Decidable (IsBareName name) :=
  decidable_of_iff ((!name.toList.isEmpty && name.toList.all isBare) = true)
    (by simp [IsBareName])

/-- Names with points between them. -/
def dotted : List String → List Char
  | [] => []
  | [name] => name.toList
  | name :: more => name.toList ++ '.' :: dotted more

theorem skipSpaces_eq_self {c : Char} (visible : isSpace c = false)
    (rest : List Char) : skipSpaces (c :: rest) = c :: rest :=
  List.dropWhile_cons_of_neg (by simp [visible])

theorem isSpace_of_isBare {c : Char} (bare : isBare c = true) :
    isSpace c = false := by
  cases space : isSpace c with
  | false => rfl
  | true =>
      rw [isSpace, Bool.or_eq_true, beq_iff_eq, beq_iff_eq] at space
      rcases space with rfl | rfl <;> exact absurd bare (by decide)

/-- A bare name begins with a character of its own. -/
theorem IsBareName.exists_cons {name : String} (bare : IsBareName name) :
    ∃ head tail, name.toList = head :: tail ∧ isBare head = true := by
  obtain ⟨head, tail, chars⟩ := List.exists_cons_of_ne_nil bare.1
  exact ⟨head, tail, chars, bare.2 head (by simp [chars])⟩

theorem IsBareName.append_ne {name : String} (bare : IsBareName name)
    {c : Char} (other : isBare c = false) (rest more : List Char) :
    name.toList ++ rest ≠ c :: more := by
  intro starts
  obtain ⟨head, tail, chars, first⟩ := bare.exists_cons
  rw [chars, List.cons_append] at starts
  injection starts with same _
  rw [same, other] at first
  cases first

theorem readName?_bare {name : String} (bare : IsBareName name)
    {rest : List Char} (stops : ∀ c, rest.head? = some c → isBare c = false) :
    readName? (name.toList ++ rest) = some (name.toList, rest) := by
  obtain ⟨taken, dropped⟩ := takeWhile_token bare.2 stops
  have some : name.toList.isEmpty = false := by simpa using bare.1
  unfold readName?
  split
  · rename_i starts
    exact absurd starts (bare.append_ne (by decide) _ _)
  · rename_i starts
    exact absurd starts (bare.append_ne (by decide) _ _)
  · simp [taken, dropped, some]

theorem IsBareName.skipSpaces_append {name : String} (bare : IsBareName name)
    (rest : List Char) :
    skipSpaces (name.toList ++ rest) = name.toList ++ rest := by
  obtain ⟨head, tail, chars, first⟩ := bare.exists_cons
  rw [chars, List.cons_append]
  exact skipSpaces_eq_self (isSpace_of_isBare first) _

/-- A name that no point follows is the last one. -/
theorem readNames?_last {name : String} (bare : IsBareName name)
    {rest : List Char} (stops : ∀ c, rest.head? = some c → isBare c = false)
    (ends : ∀ more, skipSpaces rest ≠ '.' :: more) :
    readNames? (name.toList ++ rest) = some ([name], skipSpaces rest) := by
  rw [readNames?, bare.skipSpaces_append, readName?_bare bare stops]
  dsimp only
  split
  · rename_i more point
    exact absurd point (ends more)
  · rw [String.ofList_toList]

theorem readNames?_point {name : String} (bare : IsBareName name)
    (rest : List Char) :
    readNames? (name.toList ++ '.' :: rest) =
      (readNames? rest).map fun (names, rest) => (name :: names, rest) := by
  have stops : ∀ c, ('.' :: rest).head? = some c → isBare c = false := by
    rintro c ⟨⟩
    decide
  have shorter : rest.length < (name.toList ++ '.' :: rest).length := by
    rw [List.length_append, List.length_cons]
    omega
  rw [readNames?, bare.skipSpaces_append, readName?_bare bare stops]
  simp only [skipSpaces_eq_self (by decide : isSpace '.' = false),
    if_pos shorter, String.ofList_toList]

/-- Names with points between them begin with a character of a name. -/
theorem dotted_append_ne {names : List String} (some : names ≠ [])
    (bare : ∀ name ∈ names, IsBareName name) {c : Char}
    (other : isBare c = false) (rest more : List Char) :
    dotted names ++ rest ≠ c :: more := by
  match names with
  | [] => exact absurd rfl some
  | [name] => exact (bare name List.mem_cons_self).append_ne other rest more
  | name :: next :: names =>
      have first := bare name List.mem_cons_self
      simpa [dotted] using
        first.append_ne other ('.' :: (dotted (next :: names) ++ rest)) more

/-- Names are read up to where neither a character of a name nor a point
follows. -/
theorem readNames?_dotted {names : List String} (some : names ≠ [])
    (bare : ∀ name ∈ names, IsBareName name) {rest : List Char}
    (stops : ∀ c, rest.head? = .some c → isBare c = false)
    (ends : ∀ more, skipSpaces rest ≠ '.' :: more) :
    readNames? (dotted names ++ rest) = .some (names, skipSpaces rest) := by
  induction names with
  | nil => exact absurd rfl some
  | cons name names induction =>
      have isBare := bare name List.mem_cons_self
      cases names with
      | nil => exact readNames?_last isBare stops ends
      | cons next names =>
          have text : dotted (name :: next :: names) ++ rest =
              name.toList ++ '.' :: (dotted (next :: names) ++ rest) := by
            simp [dotted]
          have others := induction (List.cons_ne_nil _ _)
            fun other member => bare other (List.mem_cons_of_mem name member)
          rw [text, readNames?_point isBare, others]
          rfl

theorem readKey?_dotted {path : List String} {name : String}
    (few : path.length < 79) (bare : ∀ part ∈ path ++ [name], IsBareName part)
    {rest : List Char} (stops : ∀ c, rest.head? = some c → isBare c = false)
    (ends : ∀ more, skipSpaces rest ≠ '.' :: more) :
    readKey? (dotted (path ++ [name]) ++ rest) =
      some (path, name, skipSpaces rest) := by
  have shallow : path.length + 1 < depthLimit := by
    rw [depthLimit]
    omega
  simp [readKey?, readNames?_dotted (by simp) bare stops ends, shallow]

/-! ### Lines -/

/-- The text of a value, in front of the end of a line. -/
structure Spells (text : List Char) (value : Toml) : Prop where
  visible : ∀ c, text.head? = some c → isSpace c = false
  read : ∀ rest, readValue? (depthLimit - 1) (text ++ '\n' :: rest) =
    some (value, '\n' :: rest)

/-- The text of a document that has each of these statements on a line. -/
inductive Lines : List Char → List TomlStatement → Prop where
  | nil : Lines [] []
  | blank {text : List Char} {statements : List TomlStatement}
      (more : Lines text statements) : Lines ('\n' :: text) statements
  | header {text : List Char} {statements : List TomlStatement}
      (path : List String) (name : String) (few : path.length < 79)
      (bare : ∀ part ∈ path ++ [name], IsBareName part)
      (more : Lines text statements) :
      Lines ('[' :: (dotted (path ++ [name]) ++ ']' :: '\n' :: text))
        (.header path name :: statements)
  | assignment {text written : List Char} {statements : List TomlStatement}
      {name : String} {value : Toml} (bare : IsBareName name)
      (spells : Spells written value) (more : Lines text statements) :
      Lines (name.toList ++ ' ' :: '=' :: ' ' :: (written ++ '\n' :: text))
        (.assignment [] name value :: statements)

theorem restOfLine?_newline (rest : List Char) :
    restOfLine? ('\n' :: rest) = some rest := by
  have here : skipSpaces ('\n' :: rest) = '\n' :: rest :=
    skipSpaces_eq_self (by decide) rest
  simp [restOfLine?, here, skipComment, lineEnd?]

/-- A line that begins with a character of a name or with a bracket is not
empty. -/
theorem restOfLine?_eq_none {c : Char} (starts : isBare c = true ∨ c = '[')
    (rest : List Char) : restOfLine? (c :: rest) = none := by
  have apart : isSpace c = false ∧ c ≠ '#' ∧ c ≠ '\n' ∧ c ≠ '\r' := by
    rcases starts with bare | rfl
    · refine ⟨isSpace_of_isBare bare, ?_, ?_, ?_⟩ <;> rintro rfl <;>
        exact absurd bare (by decide)
    · decide
  obtain ⟨visible, noComment, noLine⟩ := apart
  have comment : skipComment (c :: rest) = c :: rest := by
    unfold skipComment
    split
    · rename_i starts
      injection starts with same _
      exact absurd same noComment
    · rfl
  rw [restOfLine?, skipSpaces_eq_self visible, comment]
  apply lineEnd?_eq_none
  rintro other ⟨⟩
  exact noLine

theorem readStatements?_cons {c : Char} {tail rest : List Char}
    {statement : TomlStatement} (starts : isBare c = true ∨ c = '[')
    (read : readStatement? (c :: tail) = some (statement, rest))
    (shorter : rest.length < (c :: tail).length) :
    readStatements? (c :: tail) =
      (readStatements? rest).map (statement :: ·) := by
  have visible : isSpace c = false := by
    rcases starts with bare | rfl
    · exact isSpace_of_isBare bare
    · decide
  rw [readStatements?, restOfLine?_eq_none starts, skipSpaces_eq_self visible]
  simp only [List.isEmpty_cons, Bool.false_eq_true, if_false, read, shorter,
    if_true]

theorem readStatement?_header {path : List String} {name : String}
    (few : path.length < 79) (bare : ∀ part ∈ path ++ [name], IsBareName part)
    (rest : List Char) :
    readStatement? ('[' :: (dotted (path ++ [name]) ++ ']' :: '\n' :: rest)) =
      some (.header path name, rest) := by
  have visible : skipSpaces (']' :: '\n' :: rest) = ']' :: '\n' :: rest :=
    skipSpaces_eq_self (by decide) _
  have stops : ∀ c, (']' :: '\n' :: rest).head? = some c →
      isBare c = false := by
    rintro c ⟨⟩
    decide
  have key := readKey?_dotted few bare stops
    (fun more point => by rw [visible] at point; cases point)
  rw [readStatement?]
  · simp [key, visible, afterChar?, restOfLine?_newline]
  · intro more
    exact dotted_append_ne (by simp) bare (by decide) _ _

theorem readStatement?_assignment {name : String} {written : List Char}
    {value : Toml} (bare : IsBareName name) (spells : Spells written value)
    (rest : List Char) :
    readStatement?
        (name.toList ++ ' ' :: '=' :: ' ' :: (written ++ '\n' :: rest)) =
      some (.assignment [] name value, rest) := by
  have space : ∀ rest, skipSpaces (' ' :: rest) = skipSpaces rest :=
    fun _ => rfl
  have equals : ∀ rest, skipSpaces ('=' :: rest) = '=' :: rest := fun _ => rfl
  have value :
      skipSpaces (written ++ '\n' :: rest) = written ++ '\n' :: rest := by
    cases written with
    | nil => exact skipSpaces_eq_self (by decide) _
    | cons head tail => exact skipSpaces_eq_self (spells.visible head rfl) _
  have stops : ∀ c, (' ' :: '=' :: ' ' :: (written ++ '\n' :: rest)).head? =
      some c → isBare c = false := by
    rintro c ⟨⟩
    decide
  have alone : ∀ part ∈ [] ++ [name], IsBareName part := by simpa using bare
  have key : readKey? (name.toList ++
      ' ' :: '=' :: ' ' :: (written ++ '\n' :: rest)) =
        some ([], name, '=' :: ' ' :: (written ++ '\n' :: rest)) :=
    readKey?_dotted (by decide : ([] : List String).length < 79) alone stops
      (fun more point => by rw [space, equals] at point; cases point)
  rw [readStatement?]
  · simp [readAssignment?, key, afterChar?, space, value, spells.read,
      restOfLine?_newline]
  · intro more
    exact bare.append_ne (by decide) _ _
  · intro more
    exact bare.append_ne (by decide) _ _

/-- A document is read statement by statement. -/
theorem Lines.read {text : List Char} {statements : List TomlStatement}
    (lines : Lines text statements) :
    readStatements? text = some statements := by
  induction lines with
  | nil =>
      rw [readStatements?]
      rfl
  | @blank text statements _ induction =>
      rw [readStatements?, restOfLine?_newline]
      simpa using induction
  | @header text statements path name few bare _ induction =>
      rw [readStatements?_cons (.inr rfl) (readStatement?_header few bare text),
        induction]
      · rfl
      · simp
        omega
  | @assignment text written statements name value bare spells _ induction =>
      obtain ⟨head, tail, chars, first⟩ := bare.exists_cons
      have read := readStatement?_assignment bare spells text
      rw [chars, List.cons_append] at read ⊢
      rw [readStatements?_cons (.inl first) read, induction]
      · rfl
      · simp
        omega

theorem Lines.parse? {text : String} {statements : List TomlStatement}
    (lines : Lines text.toList statements) :
    Toml.parse? text = ofStatements? statements := by
  have noMark : dropByteOrderMark text.toList = text.toList := by
    generalize text.toList = chars at lines
    cases lines with
    | nil => rfl
    | blank => rfl
    | header => rfl
    | assignment bare =>
        rw [dropByteOrderMark]
        intro rest
        exact bare.append_ne (by decide) _ _
  rw [Toml.parse?, noMark, lines.read, Option.bind_some]

/-- Quotes or apostrophes open every text that is written out. -/
theorem head_quoted (text rest : List Char) :
    ∃ tail, quoted text ++ rest = '"' :: tail ∨
      quoted text ++ rest = '\x27' :: tail := by
  unfold quoted
  split <;> simp [openLong]

theorem spells_quoted (text : String) :
    Spells (quoted text.toList) (.string text) := by
  constructor
  · intro c first
    obtain ⟨tail, starts | starts⟩ := head_quoted text.toList [] <;>
      rw [List.append_nil] at starts <;> rw [starts] at first <;>
      obtain rfl := Option.some.inj first <;> decide
  · intro rest
    have ends : EndsText ('\n' :: rest) := by simp [EndsText]
    have read := readText?_quoted text.toList ends
    obtain ⟨tail, starts | starts⟩ :=
        head_quoted text.toList ('\n' :: rest) <;>
      rw [starts] at read ⊢ <;>
      simp [depthLimit, readValue?, readScalar?, read]

/-! ### Tables -/

end Toml

namespace TomlEntries

theorem get?_eq_none {entries : TomlEntries} {name : String}
    (absent : name ∉ entries.map (·.1)) : entries.get? name = none := by
  rw [get?, Option.map_eq_none_iff, List.find?_eq_none]
  intro entry member same
  exact absent (List.mem_map.mpr ⟨entry, member, beq_iff_eq.mp same⟩)

/-- What stands before a name does not matter to it. -/
theorem get?_append_of_absent {entries : TomlEntries} {name : String}
    (absent : name ∉ entries.map (·.1)) (more : TomlEntries) :
    get? (entries ++ more) name = more.get? name := by
  have none := get?_eq_none absent
  rw [get?, Option.map_eq_none_iff] at none
  rw [get?, get?, List.find?_append, none, Option.none_or]

theorem put_append_of_absent {entries : TomlEntries} {name : String}
    (absent : name ∉ entries.map (·.1)) (more : TomlEntries) (value : Toml) :
    put (entries ++ more) name value = entries ++ more.put name value := by
  induction entries with
  | nil => rfl
  | cons entry entries induction =>
      rw [List.map_cons, List.mem_cons, not_or] at absent
      have other : (entry.1 == name) = false := by
        simpa using Ne.symm absent.1
      simp [put, other, induction absent.2]

theorem put_of_absent {entries : TomlEntries} {name : String}
    (absent : name ∉ entries.map (·.1)) (value : Toml) :
    entries.put name value = entries ++ [(name, value)] := by
  simpa [put] using put_append_of_absent absent [] value

end TomlEntries

namespace Toml

/-- The table of a header as an entry of the document: for every name of the
path there is a table on the way. -/
def nested (name : String) (fields : TomlEntries) :
    List String → String × Toml
  | [] => (name, .table .header fields)
  | outer :: path => (outer, .table .path [nested name fields path])

/-- The name of the entry does not depend on what the table holds. -/
theorem nested_fst (name : String) (fields others : TomlEntries)
    (path : List String) :
    (nested name fields path).1 = (nested name others path).1 := by
  cases path <;> rfl

/-- A header with a new name adds an empty table behind all others. -/
theorem updateAt_openTable {name : String} {path : List String}
    {entries : TomlEntries}
    (absent : (nested name [] path).1 ∉ entries.map (·.1)) (kind : TableKind) :
    updateAt false (fun _ => openTable name) path kind entries =
      some (entries ++ [nested name [] path]) := by
  induction path generalizing kind entries with
  | nil =>
      change name ∉ _ at absent
      simp [updateAt, openTable, TomlEntries.get?_eq_none absent,
        TomlEntries.put_of_absent absent, nested]
  | cons outer path induction =>
      change outer ∉ _ at absent
      have inner := @induction [] List.not_mem_nil .path
      simp [updateAt, TomlEntries.get?_eq_none absent, inner,
        TomlEntries.put_of_absent absent, nested]

/-- The first step on the way to a table that stands behind all others. -/
theorem updateAt_cons {name : String} {entries : TomlEntries}
    (absent : name ∉ entries.map (·.1)) {kind : TableKind}
    (passable : isPassable false kind = true)
    (change : TableKind → TomlEntries → Option TomlEntries)
    (path : List String) (outer : TableKind) (fields : TomlEntries) :
    updateAt false change (name :: path) outer
        (entries ++ [(name, .table kind fields)]) =
      (updateAt false change path kind fields).map fun changed =>
        entries ++ [(name, .table kind changed)] := by
  have found : TomlEntries.get? (entries ++ [(name, .table kind fields)]) name =
      some (.table kind fields) := by
    rw [TomlEntries.get?_append_of_absent absent]
    simp [TomlEntries.get?]
  have change : ∀ changed, TomlEntries.put
      (entries ++ [(name, .table kind fields)]) name (.table kind changed) =
        entries ++ [(name, .table kind changed)] := by
    intro changed
    rw [TomlEntries.put_append_of_absent absent]
    simp [TomlEntries.put]
  simp only [updateAt, found, passable, if_true, change]
  cases updateAt false _ path kind fields <;> rfl

/-- The path and the name of the last header lead to its table. -/
theorem updateAt_nested {name : String} {path : List String}
    {entries fields : TomlEntries}
    (absent : (nested name fields path).1 ∉ entries.map (·.1))
    (change : TableKind → TomlEntries → Option TomlEntries)
    (kind : TableKind) :
    updateAt false change (path ++ [name]) kind
        (entries ++ [nested name fields path]) =
      (change .header fields).map fun changed =>
        entries ++ [nested name changed path] := by
  induction path generalizing kind entries with
  | nil => exact updateAt_cons absent rfl change [] kind fields
  | cons outer path induction =>
      change outer ∉ _ at absent
      have inner := @induction [] List.not_mem_nil .path
      rw [List.nil_append] at inner
      rw [List.cons_append, nested,
        updateAt_cons absent (by rfl : isPassable false .path = true), inner,
        Option.map_map]
      rfl

/-! ### Sections -/

/-- A header, and names with their values below it. -/
structure Section where
  path : List String := []
  name : String
  fields : TomlEntries

namespace Section

def statements (part : Section) : List TomlStatement :=
  .header part.path part.name ::
    part.fields.map fun (name, value) => .assignment [] name value

/-- The entry of the document that a section denotes. -/
def entry (part : Section) : String × Toml :=
  nested part.name part.fields part.path

end Section

/-- Assignments of new names add to the table of the last header. -/
theorem foldlM_assignments {name : String} {path : List String}
    {entries fields : TomlEntries} (more : TomlEntries)
    (absent : (nested name fields path).1 ∉ entries.map (·.1))
    (distinct : ((fields ++ more).map (·.1)).Nodup) :
    (more.map fun (name, value) =>
        TomlStatement.assignment [] name value).foldlM Draft.add
        ⟨entries ++ [nested name fields path], path ++ [name]⟩ =
      some
        ⟨entries ++ [nested name (fields ++ more) path], path ++ [name]⟩ := by
  induction more generalizing fields with
  | nil => simp
  | cons field more induction =>
      obtain ⟨field, value⟩ := field
      have fresh : field ∉ fields.map (·.1) := by
        rw [List.map_append, List.map_cons] at distinct
        intro member
        exact (List.nodup_append.mp distinct).2.2 field member field
          List.mem_cons_self rfl
      have assigned : assign [] field value .header fields =
          some (fields ++ [(field, value)]) := by
        simp [assign, updateAt, TomlEntries.get?_eq_none fresh,
          TomlEntries.put_of_absent fresh]
      have others := @induction (fields ++ [(field, value)])
        (by rwa [nested_fst name _ fields path])
        (by rwa [List.append_assoc])
      rw [List.append_assoc] at others
      simp only [List.map_cons, List.foldlM_cons, Draft.add,
        updateAt_nested absent, assigned]
      exact others

/-- A section with a new name adds its table behind all others. -/
theorem foldlM_section (part : Section) {draft : Draft}
    (absent : part.entry.1 ∉ draft.entries.map (·.1))
    (distinct : (part.fields.map (·.1)).Nodup) :
    part.statements.foldlM Draft.add draft =
      some ⟨draft.entries ++ [part.entry], part.path ++ [part.name]⟩ := by
  rw [Section.entry, nested_fst part.name _ [] part.path] at absent
  have fields := foldlM_assignments part.fields absent (by simpa using distinct)
  simp only [Section.statements, List.foldlM_cons, Draft.add,
    updateAt_openTable absent]
  exact fields

/-- Sections of new names add their tables in turn. -/
theorem foldlM_sections {parts : List Section} {draft : Draft}
    (apart : (draft.entries.map (·.1) ++ parts.map (·.entry.1)).Nodup)
    (distinct : ∀ part ∈ parts, (part.fields.map (·.1)).Nodup) :
    ((parts.flatMap Section.statements).foldlM Draft.add draft).map
        (·.entries) = some (draft.entries ++ parts.map Section.entry) := by
  induction parts generalizing draft with
  | nil => simp
  | cons part parts induction =>
      have absent : part.entry.1 ∉ draft.entries.map (·.1) := by
        intro member
        exact (List.nodup_append.mp apart).2.2 _ member _ List.mem_cons_self rfl
      have added := foldlM_section part absent
        (distinct part List.mem_cons_self)
      have others := @induction
        ⟨draft.entries ++ [part.entry], part.path ++ [part.name]⟩
        (by simpa using apart)
        fun other member => distinct other (List.mem_cons_of_mem part member)
      rw [List.flatMap_cons, List.foldlM_append, added]
      simpa using others

/-- A document of sections with different names denotes one table for each. -/
theorem ofStatements?_sections {parts : List Section}
    (apart : (parts.map (·.entry.1)).Nodup)
    (distinct : ∀ part ∈ parts, (part.fields.map (·.1)).Nodup) :
    ofStatements? (parts.flatMap Section.statements) =
      some (parts.map Section.entry) :=
  @foldlM_sections parts {} apart distinct

end Toml

end GridScript
