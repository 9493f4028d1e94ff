import GridScript.Proofs.Arguments
import GridScript.Proofs.ValueText

/-!
# Doubles that cannot be read back

The text of a double that is not finite is a word, and no reader of numbers
takes a word: it is passed with an error, and there is no value.  Any other
double is read, though maybe as one of its neighbours.
-/

namespace GridScript

/-- What the text of the double is read as. -/
def Binary64.readBack? (d : Binary64) : Option Binary64 :=
  (Cursor.readDouble (.ofText d.scientific)).1

namespace Cursor

theorem scan?_word {word rest : List Char}
    (isWord : word ∈ ["NaN".toList, "inf".toList, "-inf".toList]) :
    Numeral.scan? (word ++ rest) = none := by
  simp only [List.mem_cons, List.not_mem_nil, or_false] at isWord
  rcases isWord with rfl | rfl | rfl
  · rfl
  · rfl
  · rfl

/-- The text of a double that is not finite is no numeral. -/
theorem readDouble_word {c : Cursor} {d : Binary64} {rest : List Char}
    (infinite : d.isFinite = false) (ends : EndsToken rest)
    (unread : c.rest = d.scientific.toList ++ rest) :
    c.readDouble = (none, (c.behind d.scientific.toList rest).error
      (.invalidNumber d.scientific)) := by
  have word : d.scientific.toList ∈
      ["NaN".toList, "inf".toList, "-inf".toList] := by
    rcases d.scientific_cases with ⟨finite, _⟩ | ⟨_, word⟩
    · rw [infinite] at finite
      cases finite
    · exact word
  obtain ⟨some, bare⟩ := isBare_of_mem_scientific d
  obtain ⟨head, tail, chars⟩ := List.exists_cons_of_ne_nil some
  have start : c.skipBlanks = c := by
    have opened : c.rest = head :: (tail ++ rest) := by
      rw [unread, chars]
      rfl
    exact skipBlanks_eq_self opened
      (isBlank_of_isBare (bare head (by simp [chars])))
  have scanned : Numeral.scan? c.rest = none := by
    rw [unread]
    exact scan?_word word
  simp only [readDouble, readNumeral, start, scanned, rejectNumber,
    readBare_token bare ends unread, String.ofList_toList]
  simp

/-- A double is read from its text, or its text is passed with an error. -/
theorem readDouble_scientific {c : Cursor} {d : Binary64} {rest : List Char}
    (ends : EndsToken rest) (unread : c.rest = d.scientific.toList ++ rest)
    (quiet : Prop) :
    c.readDouble.1 = d.readBack? ∧
      c.Crosses d.scientific.toList
        (if d.isFinite then [] else [.invalidNumber d.scientific]) quiet
        c.readDouble.2 := by
  have alone : (Cursor.ofText d.scientific).rest =
      d.scientific.toList ++ [] := by simp [ofText]
  rw [Binary64.readBack?]
  cases finite : d.isFinite with
  | false =>
      rw [readDouble_word finite ends unread,
        readDouble_word finite endsToken_nil alone]
      exact ⟨rfl, (passes_behind unread quiet).error _⟩
  | true =>
      rcases d.scientific_cases with ⟨_, n, wellFormed, text⟩ | ⟨infinite, _⟩
      · -- The numeral is scanned alike by itself and in its place.
        rw [← text] at unread alone
        simp only [readDouble, readNumeral_text wellFormed ends unread,
          readNumeral_text wellFormed endsToken_nil alone, ← text]
        exact ⟨trivial, passes_behind unread quiet⟩
      · rw [finite] at infinite
        cases infinite

end Cursor

theorem Binary64.isFinite_of_readsBack {d : Binary64} (back : d.ReadsBack) :
    d.isFinite = true := by
  have alone : (Cursor.ofText d.scientific).rest =
      d.scientific.toList ++ [] := by simp [Cursor.ofText]
  cases finite : d.isFinite with
  | true => rfl
  | false =>
      rw [ReadsBack, Cursor.readDouble_word finite endsToken_nil alone] at back
      cases back

namespace Value

/-- What the text of a value is read as, where these objects are known. -/
def readBack? (objects : ObjectTable) : Value → Option Value
  | double d => d.readBack?.map double
  | value => some (value.pruned.resolved objects)

/-- The errors that the text of a value is read with. -/
def readErrors : Value → List Problem
  | double d => if d.isFinite then [] else [.invalidNumber d.scientific]
  | _ => []

/-- Doubles in arrays are read back; one that stands alone need not be. -/
def Settled (value : Value) : Prop :=
  (∃ d, value = double d) ∨ value.Exact

theorem Exact.readBack? {value : Value} (exact : value.Exact)
    (objects : ObjectTable) :
    value.readBack? objects = some (value.pruned.resolved objects) := by
  unfold Value.readBack?
  split
  · rename_i d
    have back : d.readBack? = some d := exact d (by simp [leaves])
    rw [back]
    rfl
  · rfl

theorem Exact.readErrors {value : Value} (exact : value.Exact) :
    value.readErrors = [] := by
  unfold Value.readErrors
  split
  · rename_i d
    exact if_pos (Binary64.isFinite_of_readsBack (exact d (by simp [leaves])))
  · rfl

end Value

/-- A value is read from its text as far as it can be. -/
theorem Cursor.readValue_readBack {shape objects : ObjectTable}
    {type : ValueType} {value : Value} (typed : value.HasType shape type)
    (spellable : value.Spellable) (settled : value.Settled)
    (nonNull : value.isNullReference = false) {lexeme : List Char}
    (laid : value.Laid lexeme) {c : Cursor} {rest : List Char}
    (ends : EndsToken rest) (unread : c.rest = lexeme ++ rest) :
    (c.readValue objects type).1 = value.readBack? objects ∧
      c.Crosses lexeme value.readErrors (value.KnownIn objects)
        (c.readValue objects type).2 := by
  rcases settled with ⟨d, rfl⟩ | exact
  · cases typed with
    | double =>
        have opens := opensToken_laid spellable nonNull laid
        obtain rfl := laid.eq_encodeChars rfl
        rw [readValue, unlessEnd_opensToken opens unread]
        obtain ⟨read, crosses⟩ := readDouble_scientific ends unread
          ((Value.double d).KnownIn objects)
        exact ⟨congrArg (Option.map Value.double) read, crosses⟩
  · rw [exact.readBack?, exact.readErrors]
    exact readValue_laid typed spellable exact nonNull laid (.inr ends) unread

/-- The values that are read from the text of a list of arguments. -/
def readBack (objects : ObjectTable) (values : List (Field × Value)) :
    List (Field × Value) :=
  values.flatMap fun pair =>
    ((pair.2.readBack? objects).map (pair.1, ·)).toList

theorem readBack_cons (objects : ObjectTable) (pair : Field × Value)
    (values : List (Field × Value)) :
    readBack objects (pair :: values) =
      readBack objects [pair] ++ readBack objects values := by
  simp [readBack]

theorem readBack_of_exact {objects : ObjectTable}
    {values : List (Field × Value)}
    (exact : ∀ pair ∈ values, pair.2.Exact) :
    readBack objects values = reread objects values := by
  induction values with
  | nil => rfl
  | cons pair values induction =>
      have first := (exact pair List.mem_cons_self).readBack? objects
      rw [readBack, List.flatMap_cons, first, reread_cons, ← induction
        fun other member => exact other (List.mem_cons_of_mem _ member)]
      rfl

theorem Arguments.setAll_append (arguments : Arguments)
    (left right : List (Field × Value)) :
    arguments.setAll (left ++ right) = (arguments.setAll left).setAll right :=
  List.foldl_append

/-- Reading one argument sets no other field. -/
theorem Arguments.isSet_setAll_readBack {name : String} {pair : Field × Value}
    (differs : name ≠ pair.1.name) (objects : ObjectTable)
    (arguments : Arguments) :
    (arguments.setAll (readBack objects [pair])).isSet name =
      arguments.isSet name := by
  cases found : pair.2.readBack? objects with
  | none => simp [readBack, found, setAll]
  | some value =>
      rw [← isSet_set_of_ne differs arguments value]
      simp [readBack, found, setAll]

end GridScript
