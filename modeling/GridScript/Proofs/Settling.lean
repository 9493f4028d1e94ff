import GridScript.Proofs.Silence
import GridScript.Proofs.TypedReading

/-!
# Tokens that are read in silence

Where a token opens, whatever is read without a diagnostic is a value.  The
value has a text of its own, which is read as it before any end of a token, and
the reading breaks off where no word goes on.
-/

namespace GridScript

namespace Cursor

/-! ### Where a reading breaks off -/

section

variable {c after : Cursor}

/-- No word goes on where the reading broke off: the next character is no word
character, or the last one was none. -/
def BreaksOff (before after : List Char) : Prop :=
  (∀ next, after.head? = some next → isWord next = false) ∨
    ∃ front mark, before = front ++ mark :: after ∧ isWord mark = false

theorem breaksOff_of_ends {before rest : List Char} (ends : EndsToken rest) :
    BreaksOff before rest :=
  .inl fun next found => isWord_eq_false_of_ends (ends next found)

/-- One character that a reader leaves behind is stepped over; it was no word
character if the reader stopped there. -/
theorem breaksOff_progress (reached : c.Reaches after)
    (opens : OpensToken c.rest) (off : BreaksOff c.rest after.rest) :
    BreaksOff c.rest (c.progress after).rest := by
  by_cases moved : after.rest.length < c.rest.length
  · rwa [progress, if_pos moved]
  · have same := reached.rest_eq (Nat.not_lt.mp moved)
    obtain ⟨head, tail, shape, _⟩ := opens
    have stepped : (c.progress after).rest = tail := by
      rw [progress, if_neg moved]
      simp [shape]
    rw [stepped, shape]
    rcases off with stops | ⟨front, mark, split, _⟩
    · exact .inr ⟨[], head, rfl, stops head (by rw [same, shape]; rfl)⟩
    · have lengths := congrArg List.length split
      rw [same] at lengths
      simp at lengths
      omega

theorem skipBlanks_of_opens (opens : OpensToken c.rest) : c.skipBlanks = c := by
  obtain ⟨head, tail, shape, isOpen⟩ := opens
  exact skipBlanks_eq_self shape (OpensToken.visible isOpen).1

theorem endsToken_readBare (c : Cursor) :
    EndsToken (c.readBare isTokenEndOrBlank).2.rest := by
  intro next found
  have rest : (c.readBare isTokenEndOrBlank).2.rest =
      c.rest.dropWhile (!isTokenEndOrBlank ·) := rest_skipWhile c _
  have first := List.head?_dropWhile_not (!isTokenEndOrBlank ·) c.rest
  rw [← rest, found] at first
  simpa using first

theorem exists_quote_of_scanQuoted {body : List Char}
    (closed : (scanQuoted body).2.2 = true) :
    ∃ front, body = front ++ '"' :: (scanQuoted body).2.1 := by
  fun_induction scanQuoted body with
  | case1 => cases closed
  | case2 rest => exact ⟨[], rfl⟩
  | case3 => cases closed
  | case4 c rest _ induction =>
      obtain ⟨front, split⟩ := induction closed
      refine ⟨'\\' :: c :: front, ?_⟩
      rw [List.cons_append, List.cons_append, ← split]
  | case5 c rest _ _ _ _ induction =>
      obtain ⟨front, split⟩ := induction closed
      exact ⟨c :: front, by rw [List.cons_append, ← split]⟩

theorem breaksOff_readString (opens : OpensToken c.rest)
    (silent : c.Silent c.readString.2) :
    BreaksOff c.rest c.readString.2.rest := by
  rcases cases_of_silent_readString silent with
    ⟨body, opened, closed, rest⟩ | ⟨remainder, _, stops, rest⟩
  · obtain ⟨front, split⟩ := exists_quote_of_scanQuoted closed
    rw [skipBlanks_of_opens opens] at opened
    rw [rest]
    refine .inr ⟨'"' :: front, '"', ?_, by decide⟩
    rw [opened, List.cons_append, ← split]
  · rw [rest]
    exact .inl stops

theorem breaksOff_readToken {bare : Cursor → String × Cursor}
    (opens : OpensToken c.rest) (off : BreaksOff c.rest (bare c).2.rest)
    (silent : c.Silent (c.readToken bare).2) :
    BreaksOff c.rest (c.readToken bare).2.rest := by
  unfold readToken at silent ⊢
  simp only [skipBlanks_of_opens opens] at silent ⊢
  split at silent
  · rename_i quoted
    rw [if_pos quoted]
    exact breaksOff_readString opens silent
  · rename_i noQuote
    rwa [if_neg noQuote]

end

/-! ### Tokens and their texts -/

/-- The reader reads the text, which opens as a token, as the value. -/
structure Spells {α : Type} (item : Cursor → Option α × Cursor) (value : α)
    (text : List Char) : Prop where
  opens : OpensToken text
  reads : ReadsItem item True text value

/-- What is read in silence where a token opens is a value with a text, and no
word goes on behind it. -/
def Settles {α : Type} (item : Cursor → Option α × Cursor)
    (spells : α → List Char → Prop) : Prop :=
  ∀ c : Cursor, OpensToken c.rest → c.Silent (item c).2 →
    BreaksOff c.rest (item c).2.rest ∧
      ∃ value text, (item c).1 = some value ∧ spells value text

theorem spells_of_behind {α : Type} {item : Cursor → Option α × Cursor}
    {value : α} {text : List Char} (opens : OpensToken text)
    (reads : ∀ (c : Cursor) (rest : List Char), EndsToken rest →
      c.rest = text ++ rest → item c = (some value, c.behind text rest)) :
    Spells item value text := by
  refine ⟨opens, fun c rest ends unread => ?_⟩
  rw [reads c rest ends unread]
  exact ⟨rfl, passes_behind unread True⟩

section

variable {α β : Type} {item : Cursor → Option α × Cursor}
  {read : Cursor → Option β × Cursor} {value : α → β}

theorem Spells.map
    (same : ∀ c : Cursor, OpensToken c.rest →
      read c = ((item c).1.map value, (item c).2))
    {found : α} {text : List Char} (spells : Spells item found text) :
    Spells read (value found) text := by
  refine ⟨spells.opens, fun c rest ends unread => ?_⟩
  have opens : OpensToken c.rest := by
    rw [unread]
    exact opensToken_append spells.opens rest
  obtain ⟨result, passes⟩ := spells.reads c rest ends unread
  rw [same c opens, result]
  exact ⟨rfl, passes⟩

theorem Settles.map {spells : α → List Char → Prop}
    {spells' : β → List Char → Prop}
    (same : ∀ c : Cursor, OpensToken c.rest →
      read c = ((item c).1.map value, (item c).2))
    (carries : ∀ found text, spells found text → spells' (value found) text)
    (settles : Settles item spells) : Settles read spells' := by
  intro c opens silent
  rw [same c opens] at silent ⊢
  obtain ⟨off, found, text, result, spelled⟩ := settles c opens silent
  refine ⟨off, value found, text, ?_, carries found text spelled⟩
  rw [result]
  rfl

end

theorem settles_readString :
    Settles (fun c => (some c.readString.1, c.readString.2))
      (Spells fun c => (some c.readString.1, c.readString.2)) := by
  intro c opens silent
  refine ⟨breaksOff_readString opens silent, _,
    quoteChars c.readString.1.toList, rfl, ?_⟩
  refine spells_of_behind ⟨'"', _, rfl, by decide⟩ fun here rest _ unread => ?_
  rw [readString_quoteChars unread]

theorem settles_readBool :
    Settles (fun c => (some c.readBool.1, c.readBool.2))
      (Spells fun c => (some c.readBool.1, c.readBool.2)) := by
  intro c opens silent
  have token := (eq_token_of_silent_readBool silent).1
  dsimp only at silent ⊢
  rw [token] at silent ⊢
  refine ⟨breaksOff_readToken opens (breaksOff_of_ends (endsToken_readBare c))
    silent, _, (Value.bool c.readBool.1).encodeChars, rfl, ?_⟩
  refine spells_of_behind ?_ fun here rest ends unread => ?_
  · cases c.readBool.1 with
    | false => exact ⟨'f', _, rfl, by decide⟩
    | true => exact ⟨'t', _, rfl, by decide⟩
  · rw [readBool_text ends unread]

theorem breaksOff_readNumeral {c : Cursor} (silent : c.Silent c.readNumeral.2) :
    BreaksOff c.rest c.readNumeral.2.rest := by
  obtain ⟨numeral, remainder, _, free, read⟩ :=
    eq_some_of_silent_readNumeral silent
  rw [read]
  refine .inl fun next found => ?_
  obtain ⟨tail, shape⟩ := List.head?_eq_some_iff.mp found
  have unread : (c.skipBlanks.moveTo remainder).rest = next :: tail := shape
  simp only [isGlued, unread, Bool.or_eq_false_iff] at free
  exact free.1

theorem spells_readInt {value : Int} (inside : InInt64 value) :
    Spells readInt value (intText value).toList := by
  have spellable : (Value.int value).Spellable := ⟨nofun, nofun⟩
  exact spells_of_behind
    (opensToken_laid spellable rfl (Value.laid_encodeChars (.int value)))
    fun here rest ends unread => readInt_text inside ends unread

theorem settles_readInt : Settles readInt (Spells readInt) := by
  intro c opens silent
  obtain ⟨numeral, value, read⟩ := eq_some_of_silent_readInt silent
  have inside : InInt64 value := inInt64_of_readInt (c := c) (by rw [read])
  rw [read]
  exact ⟨breaksOff_readNumeral numeral, value, _, rfl, spells_readInt inside⟩

theorem settles_readDouble : Settles readDouble (Spells readDouble) := by
  intro c opens silent
  obtain ⟨isNumeral, numeral, found, read⟩ :=
    eq_some_of_silent_readDouble silent
  obtain ⟨scanned, remainder, scan, _, numeralRead⟩ :=
    eq_some_of_silent_readNumeral isNumeral
  rw [numeralRead] at found
  cases found
  have wellFormed := Numeral.wellFormed_padded scan
  rw [read]
  refine ⟨breaksOff_readNumeral isNumeral, _, numeral.padded.text, rfl, ?_⟩
  refine spells_of_behind ?_ fun here rest ends unread => ?_
  · obtain ⟨head, tail, shape⟩ := exists_cons_numeral wellFormed
    refine ⟨head, tail, shape, isTokenEndOrBlank_of_isBare ?_⟩
    exact isBare_of_mem_numeral wellFormed head (by simp [shape])
  · simp only [readDouble, readNumeral_text wellFormed ends unread,
      Numeral.toBinary64_padded]

theorem settles_readVariant (names : Enumeration) :
    Settles (readVariant names) (Spells (readVariant names)) := by
  intro c opens silent
  obtain ⟨name, found, read⟩ := eq_some_of_silent_readVariant silent
  have member : name ∈ names.variants := List.mem_of_find?_eq_some found
  have stops : BreaksOff c.rest c.readWord.2.rest := by
    refine .inl fun next first => ?_
    have rest : c.readWord.2.rest = c.rest.dropWhile isWord :=
      rest_skipWhile c _
    have refused := List.head?_dropWhile_not isWord c.rest
    rw [← rest, first] at refused
    simpa using refused
  rw [read] at silent ⊢
  refine ⟨breaksOff_readToken opens stops silent, name, quoteChars name.toList,
    rfl, ?_⟩
  refine spells_of_behind ⟨'"', _, rfl, by decide⟩ fun here rest _ unread => ?_
  have opened : here.rest =
      '"' :: (escapeChars name.toList ++ '"' :: rest) := by
    simp [unread, quoteChars]
  have token : here.readToken readWord = here.readString := by
    simp [readToken, skipBlanks_eq_self opened (by decide), peek?, opened]
  simp only [readVariant, token, readString_quoteChars unread,
    Enumeration.resolve?_of_mem member]

theorem readReferenceToken_of_opens {c : Cursor} (opens : OpensToken c.rest) :
    ∃ token, token ≠ [] ∧ (∀ mark ∈ token, isTokenEndOrBlank mark = false) ∧
      OpensToken token ∧ c.readReferenceToken =
        (String.ofList token, (c.readBare isTokenEndOrBlank).2) := by
  refine ⟨c.rest.takeWhile (!isTokenEndOrBlank ·), ?_, ?_, ?_, ?_⟩
  · obtain ⟨head, tail, shape, isOpen⟩ := opens
    simp [shape, isOpen]
  · intro mark member
    simpa using List.all_eq_true.mp List.all_takeWhile mark member
  · obtain ⟨head, tail, shape, isOpen⟩ := opens
    exact ⟨head, tail.takeWhile (!isTokenEndOrBlank ·), by simp [shape, isOpen],
      isOpen⟩
  · rw [readReferenceToken, skipBlanks_of_opens opens, readBare_visible]

theorem settles_readReferenceItem (objects : ObjectTable) (className : String) :
    Settles (readReferenceItem objects className)
      (Spells (readReferenceItem objects className)) := by
  intro c opens silent
  obtain ⟨token, some, inside, opened, read⟩ :=
    readReferenceToken_of_opens opens
  have item := @readReferenceItem_of_token objects className _ _ _
    (isEmpty_ofList some) read
  rw [item] at silent ⊢
  have named := (silent.halves (reaches_readBare _ c)
    (reaches_resolveReference _ _ _ _)).2
  obtain ⟨_, _, id, _, _, _, resolves⟩ :=
    eq_some_of_silent_resolveReference named
  rw [resolves]
  refine ⟨breaksOff_of_ends (endsToken_readBare c), _, token, rfl,
    spells_of_behind opened fun here rest ends unread => ?_⟩
  rw [readReferenceItem_of_token (isEmpty_ofList some)
    (readReferenceToken_of_token some inside ends unread), resolves]

theorem readReference_of_opens (objects : ObjectTable) (className : String)
    {c : Cursor} (opens : OpensToken c.rest) :
    (some (c.readReference objects className).1,
        (c.readReference objects className).2) =
      c.readReferenceItem objects className := by
  obtain ⟨token, some, _, _, read⟩ := readReferenceToken_of_opens opens
  have item := @readReferenceItem_of_token objects className _ _ _
    (isEmpty_ofList some) read
  have notEmpty : c.readReferenceToken.1.isEmpty = false := by
    rw [read]
    exact isEmpty_ofList some
  rw [readReference_eq_item notEmpty, item]
  rfl

theorem unlessEnd_of_opens {read : Cursor → Option Value × Cursor} {c : Cursor}
    (opens : OpensToken c.rest) : c.unlessEnd read = read c :=
  unlessEnd_opensToken opens (List.append_nil c.rest).symm

end Cursor

end GridScript
