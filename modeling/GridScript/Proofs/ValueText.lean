import GridScript.Proofs.Passing
import GridScript.Proofs.Stepping
import GridScript.Proofs.Typing

/-!
# Values read back from their text

Each reader is followed through the text of a value of its type, with an
arbitrary text behind it.  A string or an array ends itself; any other value
has to be followed by the end of a token.  Arrays may have blanks around their
items: `Value.Laid` relates a value to all of its texts, and `readValue_laid`
puts the readers together along the typing of the value.
-/

namespace GridScript

/-- A variant is found by its own name. -/
theorem Enumeration.resolve?_of_mem {names : Enumeration} {name : String}
    (member : name ∈ names.variants) : names.resolve? name = some name := by
  rw [resolve?]
  cases result : names.variants.find? (· == name) with
  | none =>
      have absent := List.find?_eq_none.mp result name member
      simp at absent
  | some other =>
      have same := List.find?_some result
      simpa using same

/-- The text of the value shows where it ends. -/
def Value.isClosed : Value → Bool
  | .string _ => true
  | .array _ => true
  | _ => false

namespace Cursor

/-! ### Strings -/

theorem scanQuoted_escapeChars (text rest : List Char) :
    scanQuoted (escapeChars text ++ '"' :: rest) = (text, rest, true) := by
  induction text with
  | nil => simp [escapeChars, scanQuoted]
  | cons c text induction =>
      by_cases special : c = '"' ∨ c = '\\'
      · rw [escapeChars, if_pos special]
        simp only [List.cons_append]
        rw [scanQuoted, induction]
      · rw [escapeChars, if_neg special, List.cons_append, scanQuoted]
        · rw [induction]
        · intro quote
          exact special (.inl quote)
        · intro backslash _
          exact special (.inr backslash)
        · intro _ _ backslash _
          exact special (.inr backslash)

theorem readString_quoteChars {c : Cursor} {text : String} {rest : List Char}
    (unread : c.rest = quoteChars text.toList ++ rest) :
    c.readString = (text, c.behind (quoteChars text.toList) rest) := by
  have opened : c.rest = '"' :: (escapeChars text.toList ++ '"' :: rest) := by
    simp [unread, quoteChars]
  have start : c.skipBlanks = c := skipBlanks_eq_self opened (by decide)
  simp only [readString, start]
  split
  · rename_i body found
    rw [opened] at found
    injection found with _ same
    subst same
    rw [scanQuoted_escapeChars]
    simp [moveTo_eq_behind unread]
  · rename_i noQuote
    exact absurd opened (noQuote _)

/-! ### Tokens without quotes -/

theorem trimBackChars_eq_self {token : List Char}
    (visible : ∀ c ∈ token, isBlank c = false) :
    trimBackChars token = token := by
  rw [trimBackChars]
  cases reversed : token.reverse with
  | nil => simpa using congrArg List.reverse reversed
  | cons last front =>
      have member : last ∈ token := by
        rw [← List.mem_reverse, reversed]
        exact List.mem_cons_self
      rw [List.dropWhile_cons_of_neg (by simp [visible last member]),
        ← reversed, List.reverse_reverse]

theorem trimChars_eq_self {token : List Char}
    (visible : ∀ c ∈ token, isBlank c = false) : trimChars token = token := by
  have front : trimFrontChars token = token := by
    cases token with
    | nil => rfl
    | cons head tail =>
        rw [trimFrontChars,
          List.dropWhile_cons_of_neg (by simp [visible head])]
  rw [trimChars, front, trimBackChars_eq_self visible]

theorem isBlank_of_isBare {c : Char} (bare : isBare c = true) :
    isBlank c = false := by
  have ends := isTokenEndOrBlank_of_isBare bare
  rw [isTokenEndOrBlank, Bool.or_eq_false_iff] at ends
  exact ends.2

/-- Raw text is read up to the first character that stops it. -/
theorem readBare_of_stop {stop : Char → Bool} {c : Cursor}
    {token rest : List Char} (inside : ∀ c ∈ token, stop c = false)
    (stops : ∀ c, rest.head? = some c → stop c = true)
    (visible : ∀ c ∈ token, isBlank c = false)
    (unread : c.rest = token ++ rest) :
    c.readBare stop = (String.ofList token, c.behind token rest) := by
  have taken : (token ++ rest).takeWhile (!stop ·) = token := by
    refine (takeWhile_token ?_ ?_).1
    · intro c member
      simp [inside c member]
    · intro c found
      simp [stops c found]
  simp only [readBare, unread, taken, trimBackChars_eq_self visible]
  rw [advance_eq_behind unread]

theorem readBare_token {c : Cursor} {token rest : List Char}
    (bare : ∀ c ∈ token, isBare c = true) (ends : EndsToken rest)
    (unread : c.rest = token ++ rest) :
    c.readBare isTokenEndOrBlank =
      (String.ofList token, c.behind token rest) :=
  readBare_of_stop (fun c member => isTokenEndOrBlank_of_isBare (bare c member))
    ends (fun c member => isBlank_of_isBare (bare c member)) unread

theorem readToken_bare {bare : Cursor → String × Cursor} {c : Cursor}
    {head : Char} {tail : List Char} (unread : c.rest = head :: tail)
    (visible : isBlank head = false) (noQuote : head ≠ '"') :
    c.readToken bare = bare c := by
  have start : c.skipBlanks = c := skipBlanks_eq_self unread visible
  simp [readToken, start, peek?, unread, noQuote]

theorem readBool_text {c : Cursor} {value : Bool} {rest : List Char}
    (ends : EndsToken rest)
    (unread : c.rest = (Value.bool value).encodeChars ++ rest) :
    c.readBool = (value, c.behind (Value.bool value).encodeChars rest) := by
  have bare : ∀ c ∈ (Value.bool value).encodeChars, isBare c = true := by
    apply List.all_eq_true.mp
    cases value <;> decide
  have token : c.readToken (readBare isTokenEndOrBlank) =
      (String.ofList (Value.bool value).encodeChars,
        c.behind (Value.bool value).encodeChars rest) := by
    rw [← readBare_token bare ends unread]
    cases value with
    | false => exact readToken_bare unread (by decide) (by decide)
    | true => exact readToken_bare unread (by decide) (by decide)
  simp only [readBool, token]
  cases value with
  | false => rfl
  | true => rfl

theorem readVariant_word {c : Cursor} {names : Enumeration} {name : String}
    {rest : List Char} (member : name ∈ names.variants) (word : IsWordText name)
    (ends : EndsToken rest) (unread : c.rest = name.toList ++ rest) :
    c.readVariant names = (some name, c.behind name.toList rest) := by
  obtain ⟨notEmpty, isWords⟩ := word
  obtain ⟨head, tail, chars⟩ := List.exists_cons_of_ne_nil notEmpty
  have first : isWord head = true := isWords head (by simp [chars])
  have opened : c.rest = head :: (tail ++ rest) := by simp [unread, chars]
  have stops : ∀ c, rest.head? = some c → isWord c = false :=
    fun c found => isWord_eq_false_of_ends (ends c found)
  have token : c.readToken readWord = (name, c.behind name.toList rest) := by
    rw [readToken_bare opened (isBlank_eq_false_of_isWord first)
      (ne_of_isWord first (by decide))]
    obtain ⟨taken, _⟩ := takeWhile_token isWords stops
    simp only [readWord, unread, taken, String.ofList_toList]
    rw [advance_eq_behind unread]
  simp only [readVariant, token, Enumeration.resolve?_of_mem member]

/-! ### References -/

theorem toList_text (object : ObjectRef) :
    object.text.toList =
      object.className.toList ++ ':' :: decimalDigits object.id := by
  simp [ObjectRef.text, toList_natText]

theorem isBare_of_mem_text {object : ObjectRef}
    (word : IsWordText object.className) :
    ∀ c ∈ object.text.toList, isBare c = true := by
  intro c member
  rw [toList_text, List.mem_append, List.mem_cons] at member
  rcases member with inClass | rfl | digit
  · exact isBare_of_isWord (word.2 c inClass)
  · decide
  · exact isBare_of_isWord (isWord_of_isDecimalDigit
      (isDecimalDigit_of_mem_decimalDigits digit))

theorem splitAtFirst?_append {token rest : List Char} {mark : Char}
    (apart : ∀ c ∈ token, c ≠ mark) :
    splitAtFirst? (· == mark) (token ++ mark :: rest) = some (token, rest) := by
  have parts :
      (token ++ mark :: rest).takeWhile (fun c => !(c == mark)) = token ∧
        (token ++ mark :: rest).dropWhile (fun c => !(c == mark)) =
          mark :: rest := by
    apply takeWhile_token
    · intro c member
      simp [apart c member]
    · intro c found
      cases found
      simp
  obtain ⟨taken, dropped⟩ := parts
  simp only [splitAtFirst?, taken, dropped]

theorem resolveReference_text {objects : ObjectTable} {object : ObjectRef}
    (c : Cursor) (word : IsWordText object.className)
    (inside : object.id < 0x10000000000000000) :
    c.resolveReference objects object.className object.text =
      if objects.contains object.className object.id then (some object, c)
      else (none, c.warn (.unknownObject object.text)) := by
  have noColon : ∀ c ∈ object.className.toList, c ≠ ':' := by
    intro c member
    exact ne_of_isWord (word.2 c member) (by decide)
  have classTrimmed : trimChars object.className.toList =
      object.className.toList :=
    trimChars_eq_self fun c member =>
      isBlank_eq_false_of_isWord (word.2 c member)
  have idTrimmed : trimChars (decimalDigits object.id) =
      decimalDigits object.id :=
    trimChars_eq_self fun c member => isBlank_eq_false_of_isWord
      (isWord_of_isDecimalDigit (isDecimalDigit_of_mem_decimalDigits member))
  simp only [resolveReference, toList_text, splitAtFirst?_append noColon,
    idTrimmed, parseNat64?_decimalDigits inside, classTrimmed,
    String.ofList_toList, ne_eq, not_true_eq_false, if_false]

theorem isEmpty_ofList {token : List Char} (some : token ≠ []) :
    (String.ofList token).isEmpty = false := by
  rw [← Bool.not_eq_true, String.isEmpty_iff, ← String.toList_eq_nil_iff,
    String.toList_ofList]
  exact some

/-- A token is read up to the character that ends it. -/
theorem readReferenceToken_of_token {c : Cursor} {token rest : List Char}
    (some : token ≠ []) (inside : ∀ c ∈ token, isTokenEndOrBlank c = false)
    (ends : EndsToken rest) (unread : c.rest = token ++ rest) :
    c.readReferenceToken = (String.ofList token, c.behind token rest) := by
  have visible : ∀ c ∈ token, isBlank c = false := fun c member =>
    (Bool.or_eq_false_iff.mp (inside c member)).2
  obtain ⟨head, tail, chars⟩ := List.exists_cons_of_ne_nil some
  have opened : c.rest = head :: (tail ++ rest) := by simp [unread, chars]
  have start : c.skipBlanks = c :=
    skipBlanks_eq_self opened (visible head (by simp [chars]))
  rw [readReferenceToken, start]
  exact readBare_of_stop inside ends visible unread

theorem readReferenceToken_text {c : Cursor} {object : ObjectRef}
    {rest : List Char} (word : IsWordText object.className)
    (ends : EndsToken rest) (unread : c.rest = object.text.toList ++ rest) :
    c.readReferenceToken = (object.text, c.behind object.text.toList rest) := by
  have some : object.text.toList ≠ [] := by simp [toList_text]
  have inside : ∀ c ∈ object.text.toList, isTokenEndOrBlank c = false :=
    fun c member =>
      isTokenEndOrBlank_of_isBare (isBare_of_mem_text word c member)
  rw [readReferenceToken_of_token some inside ends unread, String.ofList_toList]

theorem isEmpty_text (object : ObjectRef) : object.text.isEmpty = false := by
  rw [← @String.ofList_toList object.text]
  exact isEmpty_ofList (by simp [toList_text])

/-- Any token but the empty one is an item. -/
theorem readReferenceItem_of_token {objects : ObjectTable}
    {className token : String} {c after : Cursor}
    (notEmpty : token.isEmpty = false)
    (read : c.readReferenceToken = (token, after)) :
    c.readReferenceItem objects className =
      let object := after.resolveReference objects className token
      (some object.1, object.2) := by
  simp only [readReferenceItem, read, notEmpty, Bool.false_eq_true, if_false]

/-- What the text of a reference is read as in a list. -/
theorem readReferenceItem_text (objects : ObjectTable) {c : Cursor}
    {object : ObjectRef} {rest : List Char} (word : IsWordText object.className)
    (inside : object.id < 0x10000000000000000)
    (ends : EndsToken rest) (unread : c.rest = object.text.toList ++ rest) :
    (c.readReferenceItem objects object.className).1 =
        some (if objects.contains object.className object.id then some object
          else none) ∧
      c.Passes object.text.toList
        (objects.contains object.className object.id = true)
        (c.readReferenceItem objects object.className).2 := by
  have token := readReferenceToken_text word ends unread
  have passes := passes_behind unread
    (objects.contains object.className object.id = true)
  rw [readReferenceItem_of_token (isEmpty_text object) token,
    resolveReference_text _ word inside]
  by_cases known : objects.contains object.className object.id = true
  · simpa [known] using passes
  · simpa [known] using passes.warn (.unknownObject object.text) known

theorem readReference_eq_item {objects : ObjectTable} {className : String}
    {c : Cursor} (notEmpty : c.readReferenceToken.1.isEmpty = false) :
    c.readReference objects className =
      (((c.readReferenceItem objects className).1.getD none),
        (c.readReferenceItem objects className).2) := by
  simp [readReference, readReferenceItem, notEmpty]

/-- What the text of a reference is read as alone. -/
theorem readReference_text (objects : ObjectTable) {c : Cursor}
    {object : ObjectRef} {rest : List Char} (word : IsWordText object.className)
    (inside : object.id < 0x10000000000000000)
    (ends : EndsToken rest) (unread : c.rest = object.text.toList ++ rest) :
    (c.readReference objects object.className).1 =
        (if objects.contains object.className object.id then some object
          else none) ∧
      c.Passes object.text.toList
        (objects.contains object.className object.id = true)
        (c.readReference objects object.className).2 := by
  have token := readReferenceToken_text word ends unread
  have item := readReferenceItem_text objects word inside ends unread
  rw [readReference_eq_item (by rw [token]; exact isEmpty_text object), item.1]
  exact ⟨rfl, item.2⟩

/-! ### Numbers -/

theorem isBare_of_mem_numeral {n : Numeral} (wellFormed : n.WellFormed)
    (c : Char) (member : c ∈ n.text) : isBare c = true := by
  have sign : ∀ sign : List Char, Numeral.IsSign sign → c ∈ sign →
      isBare c = true := by
    intro sign isSign inSign
    rcases isSign with rfl | rfl | rfl
    · cases inSign
    · rw [List.mem_singleton.mp inSign]
      decide
    · rw [List.mem_singleton.mp inSign]
      decide
  have digit : isDecimalDigit c = true → isBare c = true :=
    fun digit => isBare_of_isWord (isWord_of_isDecimalDigit digit)
  rw [Numeral.text_eq, List.mem_append, List.mem_append, List.mem_append]
    at member
  rcases member with inSign | inWhole | inFraction | inExponent
  · exact sign n.sign wellFormed.sign inSign
  · exact digit (wellFormed.whole.2 c inWhole)
  · cases fraction : n.fraction with
    | none => simp [Numeral.fractionText, fraction] at inFraction
    | some digits =>
        rw [fraction, Numeral.fractionText, List.mem_cons] at inFraction
        rcases inFraction with rfl | inDigits
        · decide
        · exact digit (wellFormed.fraction digits fraction c inDigits)
  · cases exponent : n.exponent with
    | none => simp [Numeral.exponentText, exponent] at inExponent
    | some e =>
        obtain ⟨letter, isSign, isDigits⟩ := wellFormed.exponent e exponent
        rw [exponent, Numeral.exponentText, NumeralExponent.text,
          List.cons_append, List.mem_cons, List.mem_append] at inExponent
        rcases inExponent with rfl | inSign | inDigits
        · rcases letter with letter | letter <;> rw [letter] <;> decide
        · exact sign e.sign isSign inSign
        · exact digit (isDigits.2 c inDigits)

theorem exists_cons_numeral {n : Numeral} (wellFormed : n.WellFormed) :
    ∃ head tail, n.text = head :: tail := by
  apply List.exists_cons_of_ne_nil
  have some := wellFormed.whole.1
  simp [Numeral.text_eq, some]

/-- What ends a token is not glued to it. -/
theorem isGlued_of_endsToken {c : Cursor} (ends : EndsToken c.rest) :
    c.isGlued = false := by
  rw [isGlued]
  split
  · rfl
  · rename_i next tail unread
    have isEnd := ends next (by rw [unread]; rfl)
    have noWord := isWord_eq_false_of_ends isEnd
    have noPoint : (next == '.') = false := by
      rw [beq_eq_false_iff_ne]
      rintro rfl
      exact absurd isEnd (by decide)
    simp [noWord, noPoint]

theorem readNumeral_text {c : Cursor} {n : Numeral} {rest : List Char}
    (wellFormed : n.WellFormed) (ends : EndsToken rest)
    (unread : c.rest = n.text ++ rest) :
    c.readNumeral = (some n, c.behind n.text rest) := by
  obtain ⟨head, tail, chars⟩ := exists_cons_numeral wellFormed
  have start : c.skipBlanks = c := by
    have opened : c.rest = head :: (tail ++ rest) := by simp [unread, chars]
    apply skipBlanks_eq_self opened
    exact isBlank_of_isBare
      (isBare_of_mem_numeral wellFormed head (by simp [chars]))
  have free : (c.behind n.text rest).isGlued = false :=
    isGlued_of_endsToken ends
  simp only [readNumeral, start, unread, Numeral.scan?_text wellFormed ends,
    moveTo_eq_behind unread, free, Bool.false_eq_true, if_false]

theorem readInt_text {c : Cursor} {value : Int} {rest : List Char}
    (inside : InInt64 value) (ends : EndsToken rest)
    (unread : c.rest = (intText value).toList ++ rest) :
    c.readInt = (some value, c.behind (intText value).toList rest) := by
  have text := Numeral.text_ofInt value
  have numeral := readNumeral_text (Numeral.wellFormed_ofInt value) ends
    (unread.trans (by rw [text]))
  have parsed : (Numeral.ofInt value).toInt? = some value := by
    rw [Numeral.toInt?, text, parseInt64?_intText inside]
  simp only [readInt, numeral, parsed, text]

/-- A double that is read back is written as a numeral for it. -/
theorem exists_numeral_of_readsBack {d : Binary64} (back : d.ReadsBack) :
    ∃ n : Numeral, n.WellFormed ∧ n.text = d.scientific.toList ∧
      n.toBinary64 = d := by
  rw [Binary64.ReadsBack] at back
  rcases d.scientific_cases with ⟨_, n, wellFormed, text⟩ | ⟨_, word⟩
  · have unread : (Cursor.ofText d.scientific).rest = n.text ++ [] := by
      simp [ofText, text]
    have numeral := readNumeral_text wellFormed endsToken_nil unread
    refine ⟨n, wellFormed, text, ?_⟩
    simpa [readDouble, numeral] using back
  · have none : ∀ text ∈ ["NaN".toList, "inf".toList, "-inf".toList],
        (readDouble { rest := text }).1 = none := by
      decide
    have contradiction := none _ word
    rw [ofText, contradiction] at back
    cases back

theorem readDouble_text {c : Cursor} {d : Binary64} {rest : List Char}
    (back : d.ReadsBack) (ends : EndsToken rest)
    (unread : c.rest = d.scientific.toList ++ rest) :
    c.readDouble = (some d, c.behind d.scientific.toList rest) := by
  obtain ⟨n, wellFormed, text, value⟩ := exists_numeral_of_readsBack back
  have numeral := readNumeral_text wellFormed ends
    (unread.trans (by rw [text]))
  simp only [readDouble, numeral, value, text]

/-! ### Lists -/

/-- The reader of items reads `lexeme` as `value` where a token may end behind
it. -/
def ReadsItem {α : Type} (item : Cursor → Option α × Cursor) (quiet : Prop)
    (lexeme : List Char) (value : α) : Prop :=
  ∀ (c : Cursor) (rest : List Char), EndsToken rest →
    c.rest = lexeme ++ rest →
      (item c).1 = some value ∧ c.Passes lexeme quiet (item c).2

/-- The first character of a lexeme neither ends a token nor is blank. -/
def OpensToken (lexeme : List Char) : Prop :=
  ∃ head tail, lexeme = head :: tail ∧ isTokenEndOrBlank head = false

theorem OpensToken.visible {head : Char}
    (opens : isTokenEndOrBlank head = false) :
    isBlank head = false ∧ head ≠ ']' ∧ head ≠ ',' ∧ head ≠ ')' ∧
      head ≠ ';' := by
  rw [isTokenEndOrBlank, Bool.or_eq_false_iff] at opens
  refine ⟨opens.2, ?_, ?_, ?_, ?_⟩ <;> rintro rfl <;>
    exact absurd opens.1 (by decide)

theorem opensToken_append {lexeme : List Char} (opens : OpensToken lexeme)
    (rest : List Char) : OpensToken (lexeme ++ rest) := by
  obtain ⟨head, tail, rfl, isOpen⟩ := opens
  exact ⟨head, tail ++ rest, rfl, isOpen⟩

theorem skipBlanks_opens {c : Cursor} {space lexeme rest : List Char}
    (isSpace : IsSpace space) (opens : OpensToken lexeme)
    (unread : c.rest = space ++ (lexeme ++ rest)) :
    c.skipBlanks = c.behind space (lexeme ++ rest) := by
  obtain ⟨head, tail, rfl, isOpen⟩ := opens
  exact skipBlanks_space isSpace unread (OpensToken.visible isOpen).1

/-- Behind the blanks stands an item: it is read as the next one. -/
theorem listStep_opens {α : Type} {item : Cursor → Option α × Cursor}
    {c : Cursor} {space lexeme rest : List Char} (isSpace : IsSpace space)
    (opens : OpensToken lexeme) (unread : c.rest = space ++ (lexeme ++ rest))
    (left : (item (c.behind space (lexeme ++ rest))).2.rest = rest) :
    listStep item c = .continued (item (c.behind space (lexeme ++ rest))).1
      (item (c.behind space (lexeme ++ rest))).2 := by
  have start := skipBlanks_opens isSpace opens unread
  obtain ⟨head, tail, rfl, isOpen⟩ := opens
  obtain ⟨_, noClose, noComma, noEnd, noSemicolon⟩ := OpensToken.visible isOpen
  have first : c.skipBlanks.rest = head :: (tail ++ rest) := by
    rw [start]
    rfl
  have moved : progress (c.behind space (head :: tail ++ rest))
      (item (c.behind space (head :: tail ++ rest))).2 =
        (item (c.behind space (head :: tail ++ rest))).2 := by
    apply if_pos
    rw [left, rest_behind, List.length_append, List.length_cons]
    omega
  rw [listStep_of_cons item first, if_neg noClose, if_neg noComma,
    if_neg (not_or.mpr ⟨noEnd, noSemicolon⟩), start, moved]

theorem listStep_item {α : Type} {item : Cursor → Option α × Cursor}
    {quiet : Prop} {lexeme : List Char} {value : α}
    (reads : ReadsItem item quiet lexeme value) (opens : OpensToken lexeme)
    {c : Cursor} {blanks rest : List Char} (areBlanks : IsBlanks blanks)
    (ends : EndsToken rest) (unread : c.rest = blanks ++ (lexeme ++ rest)) :
    ∃ after, listStep item c = .continued (some value) after ∧
      after.rest = rest ∧ c.Passes (blanks ++ lexeme) quiet after := by
  obtain ⟨found, passes⟩ :=
    reads (c.behind blanks (lexeme ++ rest)) rest ends rfl
  have left := (List.append_cancel_left passes.rest).symm
  refine ⟨_, ?_, left, (passes_behind unread quiet).trans passes⟩
  rw [← found]
  exact listStep_opens areBlanks.isSpace opens unread left

theorem listStep_close {α : Type} {item : Cursor → Option α × Cursor}
    {c : Cursor} {space rest : List Char} (isSpace : IsSpace space)
    (unread : c.rest = space ++ ']' :: rest) :
    listStep item c = .finished (c.behind (space ++ [']']) rest) := by
  have next : (c.behind space (']' :: rest)).next =
      c.behind (space ++ [']']) rest := by
    rw [next_eq_behind (rest_behind _ _ _), behind_behind]
  simp only [listStep, skipBlanks_space isSpace unread (by decide),
    rest_behind, if_true, next]

theorem listStep_comma {α : Type} {item : Cursor → Option α × Cursor}
    {c : Cursor} {space rest : List Char} (isSpace : IsSpace space)
    (unread : c.rest = space ++ ',' :: rest) :
    listStep item c = .continued none (c.behind (space ++ [',']) rest) := by
  have next : (c.behind space (',' :: rest)).next =
      c.behind (space ++ [',']) rest := by
    rw [next_eq_behind (rest_behind _ _ _), behind_behind]
  have noClose : ',' ≠ ']' := by decide
  simp only [listStep, skipBlanks_space isSpace unread (by decide),
    rest_behind, noClose, if_false, if_true, next]

/-- What follows the first of several texts that are separated by commas. -/
def commaTail (texts : List (List Char)) : List Char :=
  texts.flatMap fun text => ',' :: ' ' :: text

theorem commaSeparated_cons (text : List Char) (texts : List (List Char)) :
    commaSeparated (text :: texts) = text ++ commaTail texts := by
  induction texts generalizing text with
  | nil => simp [commaSeparated, commaTail]
  | cons next texts induction =>
      rw [commaSeparated, induction next]
      · simp [commaTail]
      · simp

theorem commaTail_cons (text : List Char) (texts : List (List Char)) :
    commaTail (text :: texts) = ',' :: ' ' :: (text ++ commaTail texts) := by
  simp [commaTail]

end Cursor

/-- The text spells the items one after another, with a comma between any two
and with any blanks around each. -/
inductive Spaced {α : Type} (spells : α → List Char → Prop) :
    List α → List Char → Prop where
  | nil {blanks : List Char} (areBlanks : IsBlanks blanks) :
      Spaced spells [] blanks
  | last {item : α} {before lexeme after : List Char}
      (leading : IsBlanks before) (spelled : spells item lexeme)
      (trailing : IsBlanks after) :
      Spaced spells [item] (before ++ (lexeme ++ after))
  | cons {item : α} {items : List α} {before lexeme after text : List Char}
      (leading : IsBlanks before) (spelled : spells item lexeme)
      (trailing : IsBlanks after) (more : items ≠ [])
      (others : Spaced spells items text) :
      Spaced spells (item :: items)
        (before ++ (lexeme ++ (after ++ ',' :: text)))

/-- One blank behind each comma will do. -/
theorem spaced_commaSeparated {α : Type} {spells : α → List Char → Prop}
    {lexeme : α → List Char} {lead : List Char} (leading : IsBlanks lead)
    (items : List α) (spelled : ∀ item ∈ items, spells item (lexeme item)) :
    Spaced spells items (lead ++ commaSeparated (items.map lexeme)) := by
  induction items generalizing lead with
  | nil =>
      rw [List.map_nil, commaSeparated, List.append_nil]
      exact .nil leading
  | cons item items induction =>
      have first := spelled item List.mem_cons_self
      cases items with
      | nil =>
          have text := Spaced.last leading first isBlanks_nil
          rwa [List.append_nil] at text
      | cons next items =>
          have space : IsBlanks [' '] := by decide
          exact .cons leading first isBlanks_nil (List.cons_ne_nil _ _)
            (induction space fun item member =>
              spelled item (List.mem_cons_of_mem _ member))

namespace Cursor

/-- The items up to the closing bracket are read one after another. -/
theorem readItems_spaced {α β : Type} {item : Cursor → Option β × Cursor}
    {quiet : Prop} {spells : α → List Char → Prop} {value : α → β}
    {items : List α} {text : List Char} (spaced : Spaced spells items text)
    (reads : ∀ source ∈ items, ∀ lexeme, spells source lexeme →
      OpensToken lexeme ∧ ReadsItem item quiet lexeme (value source))
    {c : Cursor} {rest : List Char} (unread : c.rest = text ++ ']' :: rest) :
    (readItems item c).1 = items.map value ∧
      c.Passes (text ++ [']']) quiet (readItems item c).2 := by
  induction spaced generalizing c with
  | @nil blanks areBlanks =>
      have split : c.rest = (blanks ++ [']']) ++ rest := by simp [unread]
      rw [readItems_of_finished (listStep_close areBlanks.isSpace unread)]
      exact ⟨rfl, passes_behind split quiet⟩
  | @last source before lexeme after leading spelled trailing =>
      obtain ⟨opens, readsItem⟩ := reads _ List.mem_cons_self _ spelled
      have ends : EndsToken (after ++ ']' :: rest) :=
        endsToken_blanks trailing (endsToken_cons (by decide))
      obtain ⟨behind, step, left, passes⟩ := listStep_item readsItem opens
        leading ends (unread.trans (by simp))
      have split : behind.rest = (after ++ [']']) ++ rest := by simp [left]
      rw [readItems_of_continued step,
        readItems_of_finished (listStep_close trailing.isSpace left)]
      constructor
      · rfl
      · simpa using passes.trans (passes_behind split quiet)
  | @cons source sources before lexeme after text leading spelled trailing more
      others induction =>
      obtain ⟨opens, readsItem⟩ := reads _ List.mem_cons_self _ spelled
      have ends : EndsToken (after ++ ',' :: (text ++ ']' :: rest)) :=
        endsToken_blanks trailing (endsToken_cons (by decide))
      obtain ⟨behind, step, left, passes⟩ := listStep_item readsItem opens
        leading ends (unread.trans (by simp))
      have split : behind.rest = (after ++ [',']) ++ (text ++ ']' :: rest) := by
        simp [left]
      obtain ⟨values, later⟩ := induction
        (fun other member => reads other (List.mem_cons_of_mem _ member))
        (rest_behind behind (after ++ [',']) (text ++ ']' :: rest))
      rw [readItems_of_continued step,
        readItems_of_continued (listStep_comma trailing.isSpace left)]
      constructor
      · simp [values]
      · have whole := (passes.trans (passes_behind split quiet)).trans later
        simpa using whole

/-- A bracketed list of items is read item by item. -/
theorem readList_spaced {α β : Type} {item : Cursor → Option β × Cursor}
    {quiet : Prop} {spells : α → List Char → Prop} {value : α → β}
    {items : List α} {text : List Char} (spaced : Spaced spells items text)
    (reads : ∀ source ∈ items, ∀ lexeme, spells source lexeme →
      OpensToken lexeme ∧ ReadsItem item quiet lexeme (value source))
    {c : Cursor} {rest : List Char}
    (unread : c.rest = '[' :: (text ++ ']' :: rest)) :
    (readList item c).1 = some (items.map value) ∧
      c.Passes ('[' :: (text ++ [']'])) quiet (readList item c).2 := by
  have start : c.skipBlanks = c := skipBlanks_eq_self unread (by decide)
  have opened : c.Passes ['['] quiet (c.behind ['['] (text ++ ']' :: rest)) :=
    passes_behind unread quiet
  have list := readItems_spaced spaced reads
    (rest_behind c ['['] (text ++ ']' :: rest))
  simp only [readList, start, peek?, unread, List.head?_cons, if_true,
    next_eq_behind unread]
  exact ⟨congrArg some list.1, opened.trans list.2⟩

/-! ### Values -/

theorem encodeItems_eq_map (items : List Value) :
    Value.encodeItems items =
      (items.filter fun item => !item.isNullReference).map
        Value.encodeChars := by
  induction items with
  | nil => rfl
  | cons item items induction =>
      by_cases null : item.isNullReference = true
      · simp [Value.encodeItems, null, induction]
      · simp [Value.encodeItems, null, induction]

/-- The characters of a double end no token, whether it is finite or not. -/
theorem isBare_of_mem_scientific (d : Binary64) :
    d.scientific.toList ≠ [] ∧
      ∀ c ∈ d.scientific.toList, isBare c = true := by
  rcases d.scientific_cases with ⟨_, n, wellFormed, text⟩ | ⟨_, word⟩
  · rw [← text]
    obtain ⟨head, tail, chars⟩ := exists_cons_numeral wellFormed
    exact ⟨by simp [chars], fun c => isBare_of_mem_numeral wellFormed c⟩
  · have words : ∀ text ∈ ["NaN".toList, "inf".toList, "-inf".toList],
        text.isEmpty = false ∧ text.all isBare = true := by
      decide
    obtain ⟨some, bare⟩ := words _ word
    exact ⟨List.isEmpty_eq_false_iff.mp some, List.all_eq_true.mp bare⟩

/-- Only strings and arrays have characters that a bare token has not. -/
theorem isBare_of_mem_encodeChars {value : Value}
    (spellable : value.Spellable) (isOpen : value.isClosed = false)
    (nonNull : value.isNullReference = false) :
    value.encodeChars ≠ [] ∧ ∀ c ∈ value.encodeChars, isBare c = true := by
  cases value with
  | string text => cases isOpen
  | bool value =>
      constructor
      · cases value <;> decide
      · apply List.all_eq_true.mp
        cases value <;> decide
  | int value =>
      simp only [Value.encodeChars, ← Numeral.text_ofInt]
      have wellFormed := Numeral.wellFormed_ofInt value
      obtain ⟨head, tail, chars⟩ := exists_cons_numeral wellFormed
      exact ⟨by simp [chars], isBare_of_mem_numeral wellFormed⟩
  | double value => exact isBare_of_mem_scientific value
  | variant name =>
      obtain ⟨some, words⟩ := spellable.variant name (by simp [Value.leaves])
      exact ⟨some, fun c member => isBare_of_isWord (words c member)⟩
  | array items => cases isOpen
  | reference object =>
      cases object with
      | none => cases nonNull
      | some object =>
          have word := spellable.className object (by simp [Value.leaves])
          exact ⟨by simp [Value.encodeChars, toList_text],
            isBare_of_mem_text word⟩

/-- The text of a value ends with a character of its own: what is left of it
holds more than blanks and commas. -/
theorem exists_visible_of_suffix {value : Value} (spellable : value.Spellable)
    {text : List Char} (some : text ≠ [])
    (suffix : text <:+ value.encodeChars) :
    ∃ c ∈ text, isBlank c = false ∧ c ≠ ',' := by
  have last : ∀ front c, value.encodeChars = front ++ [c] → c ∈ text := by
    intro front c ends
    obtain ⟨before, split⟩ := suffix
    rw [ends, ← List.dropLast_concat_getLast some, ← List.append_assoc] at split
    have same := (List.append_inj' split rfl).2
    injection same with same
    exact same ▸ List.getLast_mem some
  have whole : value.encodeChars ≠ [] := by
    intro none
    rw [none] at suffix
    exact some (List.suffix_nil.mp suffix)
  cases isOpen : value.isClosed with
  | false =>
      have nonNull : value.isNullReference = false := by
        cases null : value.isNullReference with
        | false => rfl
        | true =>
            unfold Value.isNullReference at null
            split at null
            · exact absurd (by simp only [Value.encodeChars]) whole
            · cases null
      obtain ⟨_, bare⟩ := isBare_of_mem_encodeChars spellable isOpen nonNull
      obtain ⟨c, member⟩ := List.exists_mem_of_ne_nil text some
      have isBare := bare c (suffix.subset member)
      refine ⟨c, member, isBlank_of_isBare isBare, ?_⟩
      rintro rfl
      exact absurd isBare (by decide)
  | true =>
      cases value with
      | string text =>
          exact ⟨'"', last ('"' :: escapeChars text.toList) '"' rfl,
            by decide, by decide⟩
      | array items =>
          refine ⟨']', last ('[' :: commaSeparated (Value.encodeItems items))
            ']' ?_, by decide, by decide⟩
          rw [Value.encodeChars]
          rfl
      | _ => cases isOpen

theorem unlessEnd_eq {read : Cursor → Option Value × Cursor} {c : Cursor}
    {head : Char} {tail : List Char} (unread : c.rest = head :: tail)
    (visible : isBlank head = false) : c.unlessEnd read = read c := by
  have start : c.skipBlanks = c := skipBlanks_eq_self unread visible
  simp [unlessEnd, start, unread]

/-- A value is read behind the blanks. -/
theorem readValue_skipBlanks (objects : ObjectTable) (type : ValueType)
    {c here : Cursor} (start : c.skipBlanks = here)
    (visible : here.skipBlanks = here) :
    c.readValue objects type = here.readValue objects type := by
  cases type <;> simp only [readValue, unlessEnd, start, visible]

end Cursor

/-- The text spells the value, with any blanks around the items of arrays. -/
inductive Value.Laid : Value → List Char → Prop where
  | atom {value : Value} (single : value.items? = none) :
      Laid value value.encodeChars
  | array {items : List Value} {text : List Char}
      (spaced : Spaced Laid (items.filter fun item => !item.isNullReference)
        text) :
      Laid (.array items) ('[' :: (text ++ [']']))

theorem Value.Laid.eq_encodeChars {value : Value} {lexeme : List Char}
    (laid : value.Laid lexeme) (single : value.items? = none) :
    lexeme = value.encodeChars := by
  cases laid with
  | atom => rfl
  | array => cases single

mutual

/-- The text that is written for a value is one of those that spell it. -/
theorem Value.laid_encodeChars (value : Value) :
    value.Laid value.encodeChars := by
  cases value with
  | array items =>
      rw [Value.encodeChars, Cursor.encodeItems_eq_map]
      exact .array (spaced_commaSeparated isBlanks_nil _ fun item member =>
        Value.laid_of_mem items item (List.mem_filter.mp member).1)
  | _ => exact .atom rfl

private theorem Value.laid_of_mem (items : List Value) :
    ∀ item ∈ items, item.Laid item.encodeChars := by
  cases items with
  | nil =>
      intro item member
      cases member
  | cons head items =>
      intro item member
      rcases List.mem_cons.mp member with same | later
      · rw [same]
        exact Value.laid_encodeChars head
      · exact Value.laid_of_mem items item later

end

namespace Cursor

/-- The text of a value begins with a character of a word, a sign, a quote or a
bracket. -/
theorem exists_cons_laid {value : Value} (spellable : value.Spellable)
    (nonNull : value.isNullReference = false) {lexeme : List Char}
    (laid : value.Laid lexeme) :
    ∃ head tail, lexeme = head :: tail ∧
      (isWord head = true ∨ head ∈ ['"', '[', '+', '-']) := by
  have numeral : ∀ n : Numeral, n.WellFormed → ∃ head tail,
      n.text = head :: tail ∧
        (isWord head = true ∨ head ∈ ['"', '[', '+', '-']) := by
    intro n wellFormed
    obtain ⟨some, digits⟩ := wellFormed.whole
    obtain ⟨first, whole, isWhole⟩ := List.exists_cons_of_ne_nil some
    have digit := isWord_of_isDecimalDigit (digits first (by simp [isWhole]))
    rw [Numeral.text_eq, isWhole]
    rcases wellFormed.sign with sign | sign | sign <;> rw [sign]
    · exact ⟨first, _, rfl, .inl digit⟩
    · exact ⟨_, _, rfl, .inr (by decide)⟩
    · exact ⟨_, _, rfl, .inr (by decide)⟩
  have word : ∀ text : String, IsWordText text → ∀ rest, ∃ head tail,
      text.toList ++ rest = head :: tail ∧
        (isWord head = true ∨ head ∈ ['"', '[', '+', '-']) := by
    intro text isText rest
    obtain ⟨head, tail, chars⟩ := List.exists_cons_of_ne_nil isText.1
    exact ⟨head, tail ++ rest, by rw [chars]; rfl,
      .inl (isText.2 head (by simp [chars]))⟩
  cases laid with
  | array => exact ⟨'[', _, rfl, .inr (by decide)⟩
  | atom single =>
      cases value with
      | string text => exact ⟨'"', _, rfl, .inr (by decide)⟩
      | bool value =>
          cases value with
          | false => exact ⟨'f', _, rfl, .inl (by decide)⟩
          | true => exact ⟨'t', _, rfl, .inl (by decide)⟩
      | int value =>
          simp only [Value.encodeChars, ← Numeral.text_ofInt]
          exact numeral _ (Numeral.wellFormed_ofInt value)
      | double d =>
          simp only [Value.encodeChars]
          rcases d.scientific_cases with ⟨_, n, wellFormed, text⟩ | ⟨_, text⟩
          · rw [← text]
            exact numeral n wellFormed
          · simp only [List.mem_cons, List.not_mem_nil, or_false] at text
            rcases text with text | text | text <;> rw [text]
            · exact ⟨'N', _, rfl, .inl (by decide)⟩
            · exact ⟨'i', _, rfl, .inl (by decide)⟩
            · exact ⟨'-', _, rfl, .inr (by decide)⟩
      | variant name =>
          have isWord := spellable.variant name (by simp [Value.leaves])
          have first := word name isWord []
          rwa [List.append_nil] at first
      | array items => cases single
      | reference object =>
          cases object with
          | none => cases nonNull
          | some object =>
              have isWord := spellable.className object (by simp [Value.leaves])
              simp only [Value.encodeChars, toList_text]
              exact word object.className isWord _

/-- The text of a value begins with a character of its own. -/
theorem opensToken_laid {value : Value} (spellable : value.Spellable)
    (nonNull : value.isNullReference = false) {lexeme : List Char}
    (laid : value.Laid lexeme) : OpensToken lexeme := by
  obtain ⟨head, tail, chars, first⟩ := exists_cons_laid spellable nonNull laid
  refine ⟨head, tail, chars, ?_⟩
  rcases first with word | mark
  · exact isTokenEndOrBlank_of_isBare (isBare_of_isWord word)
  · simp only [List.mem_cons, List.not_mem_nil, or_false] at mark
    rcases mark with rfl | rfl | rfl | rfl <;> decide

/-- A reader behind the blanks reads at once where a token begins. -/
theorem unlessEnd_opensToken {read : Cursor → Option Value × Cursor}
    {c : Cursor} {lexeme rest : List Char} (opens : OpensToken lexeme)
    (unread : c.rest = lexeme ++ rest) : c.unlessEnd read = read c := by
  obtain ⟨head, tail, rfl, isOpen⟩ := opens
  exact unlessEnd_eq unread (OpensToken.visible isOpen).1

private theorem readsItem_reference {objects : ObjectTable}
    (object : ObjectRef) {quiet : Prop}
    (inside : object.id < 0x10000000000000000)
    (word : IsWordText object.className)
    (known : quiet → objects.contains object.className object.id = true) :
    ReadsItem (readReferenceItem objects object.className) quiet
      (Value.reference (some object)).encodeChars
      ((Value.reference (some object)).resolved objects).object? := by
  intro c rest ends unread
  have read := readReferenceItem_text objects word inside ends unread
  refine ⟨?_, read.2.mono known⟩
  rw [read.1, Value.resolved]
  split <;> rfl

/-- An array is read item by item, from any text of its items that are no null
references. -/
private theorem readList_laid {α : Type} {item : Cursor → Option α × Cursor}
    {quiet : Prop} {result : Value → α} {items : List Value}
    {lexeme : List Char} (laid : (Value.array items).Laid lexeme)
    (reads : ∀ source ∈ items, source.isNullReference = false →
      ∀ text, source.Laid text → ReadsItem item quiet text (result source))
    (spellable : (Value.array items).Spellable) {c : Cursor} {rest : List Char}
    (unread : c.rest = lexeme ++ rest) :
    (c.readList item).1 =
        some ((items.filter fun source => !source.isNullReference).map result) ∧
      c.Passes lexeme quiet (c.readList item).2 := by
  cases laid with
  | atom single => cases single
  | @array _ text spaced =>
      have opened : ∀ source ∈ items.filter fun source =>
          !source.isNullReference, ∀ text, source.Laid text →
            OpensToken text ∧ ReadsItem item quiet text (result source) := by
        intro source member text laid
        obtain ⟨inItems, isItem⟩ := List.mem_filter.mp member
        have nonNull : source.isNullReference = false := by simpa using isItem
        exact ⟨opensToken_laid (spellable.item inItems) nonNull laid,
          reads source inItems nonNull text laid⟩
      exact readList_spaced spaced opened (by simpa using unread)

/-- A typed value is read back from any text that spells it, without null
references in arrays; objects that are not known are null, and warned about. -/
theorem readValue_laid {shape objects : ObjectTable} {type : ValueType}
    {value : Value} (typed : value.HasType shape type)
    (spellable : value.Spellable) (exact : value.Exact)
    (nonNull : value.isNullReference = false) {lexeme : List Char}
    (laid : value.Laid lexeme) {c : Cursor} {rest : List Char}
    (ends : value.isClosed = true ∨ EndsToken rest)
    (unread : c.rest = lexeme ++ rest) :
    (c.readValue objects type).1 = some (value.pruned.resolved objects) ∧
      c.Passes lexeme (value.KnownIn objects) (c.readValue objects type).2 := by
  have opens := opensToken_laid spellable nonNull laid
  induction typed generalizing c rest lexeme with
  | string text =>
      obtain rfl := laid.eq_encodeChars rfl
      rw [readValue, unlessEnd_opensToken opens unread,
        readString_quoteChars unread]
      exact ⟨rfl, passes_behind unread _⟩
  | bool value =>
      obtain rfl := laid.eq_encodeChars rfl
      have ends := ends.resolve_left (by simp [Value.isClosed])
      rw [readValue, unlessEnd_opensToken opens unread,
        readBool_text ends unread]
      exact ⟨rfl, passes_behind unread _⟩
  | int inside =>
      obtain rfl := laid.eq_encodeChars rfl
      have ends := ends.resolve_left (by simp [Value.isClosed])
      rw [readValue, unlessEnd_opensToken opens unread,
        readInt_text inside ends unread]
      exact ⟨rfl, passes_behind unread _⟩
  | double d =>
      obtain rfl := laid.eq_encodeChars rfl
      have ends := ends.resolve_left (by simp [Value.isClosed])
      have back := exact d (by simp [Value.leaves])
      rw [readValue, unlessEnd_opensToken opens unread,
        readDouble_text back ends unread]
      exact ⟨rfl, passes_behind unread _⟩
  | @variant names name member =>
      obtain rfl := laid.eq_encodeChars rfl
      have ends := ends.resolve_left (by simp [Value.isClosed])
      have word := spellable.variant name (by simp [Value.leaves])
      rw [readValue, unlessEnd_opensToken opens unread,
        readVariant_word member word ends unread]
      exact ⟨rfl, passes_behind unread _⟩
  | null className => cases nonNull
  | @object className id inside _ =>
      obtain rfl := laid.eq_encodeChars rfl
      have ends := ends.resolve_left (by simp [Value.isClosed])
      have word := spellable.className ⟨className, id⟩ (by simp [Value.leaves])
      obtain ⟨found, passes⟩ :=
        readReference_text objects word inside ends unread
      rw [readValue, unlessEnd_opensToken opens unread]
      -- Nothing more is known of the reader, so nothing more is unfolded.
      generalize c.readReference objects className = read at found passes ⊢
      refine ⟨?_, passes.mono fun known => known _ (by simp [Value.leaves])⟩
      change some (Value.reference read.1) = _
      rw [found, Value.pruned, Value.resolved]
      · split <;> rfl
      · simp
  | @array element items typed induction =>
      have reads : ∀ item ∈ items, item.isNullReference = false →
          ∀ lexeme, item.Laid lexeme → ReadsItem (readValue objects element)
            ((Value.array items).KnownIn objects) lexeme
            (item.pruned.resolved objects) := by
        intro item member nonNull lexeme laid c rest ends unread
        have read := induction item member (spellable.item member)
          (exact.item member) nonNull laid (.inr ends) unread
          (opensToken_laid (spellable.item member) nonNull laid)
        exact ⟨read.1, read.2.mono fun known => known.item member⟩
      have list := readList_laid laid reads spellable unread
      rw [readValue, unlessEnd_opensToken opens unread]
      constructor
      · change (c.readList (readValue objects element)).1.map Value.array = _
        rw [list.1]
        simp [Value.pruned, Value.resolved, Value.prunedItems_eq_map,
          Value.resolvedItems_eq_map, Function.comp_def]
      · exact list.2
  | @references className items typed _ =>
      have isObject : ∀ item ∈ items, item.isNullReference = false →
          ∃ id < 0x10000000000000000,
            item = .reference (some ⟨className, id⟩) := by
        intro item member nonNull
        cases typed item member with
        | null => cases nonNull
        | object inside _ => exact ⟨_, inside, rfl⟩
      have reads : ∀ item ∈ items, item.isNullReference = false →
          ∀ lexeme, item.Laid lexeme →
            ReadsItem (readReferenceItem objects className)
              ((Value.array items).KnownIn objects) lexeme
              (item.resolved objects).object? := by
        intro item member nonNull lexeme laid
        obtain ⟨id, inside, rfl⟩ := isObject item member nonNull
        have leaf : Value.reference (some ⟨className, id⟩) ∈
            (Value.reference (some ⟨className, id⟩)).leaves := by
          simp [Value.leaves]
        obtain rfl := laid.eq_encodeChars rfl
        exact readsItem_reference ⟨className, id⟩ inside
          ((spellable.item member).className _ leaf)
          (fun known => known.item member _ leaf)
      have list := readList_laid laid reads spellable unread
      rw [readValue, unlessEnd_opensToken opens unread]
      constructor
      · change (c.readList (readReferenceItem objects className)).1.map
          (fun references =>
            Value.array (references.map Value.reference)) = _
        rw [list.1]
        simp only [Option.map_some, List.map_map, Value.pruned,
          Value.resolved, Value.prunedItems_eq_map,
          Value.resolvedItems_eq_map]
        congr 2
        apply List.map_congr_left
        intro item member
        obtain ⟨inItems, isItem⟩ := List.mem_filter.mp member
        obtain ⟨id, _, rfl⟩ := isObject item inItems (by simpa using isItem)
        simp only [Function.comp_apply, Value.pruned, Value.resolved]
        split <;> rfl
      · exact list.2

end Cursor

end GridScript
