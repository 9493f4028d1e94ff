import GridScript.Proofs.Locality
import GridScript.Proofs.Straying

/-!
# Reading in a longer text

What is read in front of a closing parenthesis does not depend on how the text
goes on behind it.  `Cursor.extend` makes the unread text longer, and every
reader that leaves a closing parenthesis unread commutes with it.
-/

namespace GridScript

theorem mem_dropWhile_of_refuses {test : Char → Bool} {c : Char}
    (refuses : test c = false) {text : List Char} (member : c ∈ text) :
    c ∈ text.dropWhile test := by
  induction text with
  | nil => cases member
  | cons head text induction =>
      rcases List.mem_cons.mp member with rfl | later
      · simp [refuses]
      · rw [List.dropWhile_cons]
        split
        · exact induction later
        · exact member

theorem takeWhile_append_of_mem {test : Char → Bool} {c : Char}
    (refuses : test c = false) {text : List Char} (member : c ∈ text)
    (more : List Char) :
    (text ++ more).takeWhile test = text.takeWhile test := by
  induction text with
  | nil => cases member
  | cons head text induction =>
      rcases List.mem_cons.mp member with rfl | later
      · simp [refuses]
      · simp only [List.cons_append, List.takeWhile_cons, induction later]

/-- What a scan finds in front of a delimiter it finds in a longer text, too. -/
theorem scan_append {α : Type} {scan : List Char → Option (α × List Char)}
    (stops : ∀ {behind : List Char}, Delimited behind → ∀ text : List Char,
      scan (text ++ behind) =
        (scan text).map fun found => (found.1, found.2 ++ behind))
    {text : List Char} (unread : ')' ∈ text) (more : List Char) :
    scan (text ++ more) =
      (scan text).map fun found => (found.1, found.2 ++ more) := by
  obtain ⟨front, behind, rfl⟩ := List.append_of_mem unread
  rw [List.append_assoc, List.cons_append, stops (delimited_close _),
    stops (delimited_close _), Option.map_map]
  simp only [Function.comp_def, List.append_assoc, List.cons_append]

theorem afterNone?_append {text : List Char} (unread : ')' ∈ text)
    (more : List Char) :
    Cursor.afterNone? (text ++ more) =
      (Cursor.afterNone? text).map (· ++ more) := by
  obtain ⟨front, behind, rfl⟩ := List.append_of_mem unread
  rw [List.append_assoc, List.cons_append,
    afterNone?_delimited (delimited_close _),
    afterNone?_delimited (delimited_close _), Option.map_map]
  simp only [Function.comp_def, List.append_assoc, List.cons_append]

theorem scanQuoted_append {text : List Char}
    (unread : (Cursor.scanQuoted text).2.1 ≠ []) (more : List Char) :
    Cursor.scanQuoted (text ++ more) =
      ((Cursor.scanQuoted text).1, (Cursor.scanQuoted text).2.1 ++ more,
        (Cursor.scanQuoted text).2.2) := by
  fun_induction Cursor.scanQuoted text with
  | case1 => exact absurd rfl unread
  | case2 rest => rfl
  | case3 => exact absurd rfl unread
  | case4 c rest _ induction =>
      simp only [List.cons_append, Cursor.scanQuoted]
      rw [induction unread]
  | case5 c rest noQuote noEnd noEscape _ induction =>
      have noBackslash : c ≠ '\\' := by
        rintro rfl
        cases rest with
        | nil => exact noEnd rfl rfl
        | cons next rest => exact noEscape next rest rfl rfl
      rw [List.cons_append, scanQuoted_plain noQuote noBackslash,
        induction unread]

theorem value_append {depth : Nat} {quoted : Bool} {text : List Char}
    (unread : Skip.value depth quoted text ≠ []) (more : List Char) :
    Skip.value depth quoted (text ++ more) =
      Skip.value depth quoted text ++ more := by
  fun_induction Skip.value depth quoted text with
  | case1 => exact absurd rfl unread
  | case2 depth c rest induction => exact induction unread
  | case3 depth c rest noEscape induction =>
      by_cases backslash : c = '\\'
      · subst backslash
        cases rest with
        | nil => exact absurd rfl unread
        | cons next rest => exact absurd rfl (noEscape next rest rfl)
      · rw [List.cons_append, value_quoted_plain backslash]
        exact induction unread
  | case4 depth c rest stops =>
      rw [List.cons_append, value_bare, if_pos stops]
  | case5 depth rest goesOn induction =>
      rw [List.cons_append, value_bare, if_neg goesOn, if_pos rfl]
      exact induction unread
  | case6 depth c rest goesOn noQuote opens induction =>
      rw [List.cons_append, value_bare, if_neg goesOn, if_neg noQuote,
        if_pos opens]
      exact induction unread
  | case7 depth c rest goesOn noQuote noOpen closes induction =>
      rw [List.cons_append, value_bare, if_neg goesOn, if_neg noQuote,
        if_neg noOpen, if_pos closes]
      exact induction unread
  | case8 depth c rest goesOn noQuote noOpen noClose induction =>
      rw [List.cons_append, value_bare, if_neg goesOn, if_neg noQuote,
        if_neg noOpen, if_neg noClose]
      exact induction unread

namespace Cursor

theorem Reaches.suffix {before after : Cursor}
    (reached : before.Reaches after) : after.rest <:+ before.rest := by
  obtain ⟨⟨count, rest, _⟩, _⟩ := reached
  rw [rest]
  exact List.drop_suffix count before.rest

/-- The cursor in a text that goes on with `more`. -/
def extend (more : List Char) (c : Cursor) : Cursor :=
  { c with rest := c.rest ++ more }

/-- The same is read in a longer text, if a closing parenthesis is left
unread. -/
def Extends {α : Type} (read : Cursor → α × Cursor) : Prop :=
  ∀ more c, ')' ∈ (read c).2.rest →
    read (extend more c) = ((read c).1, extend more (read c).2)

section

variable (more : List Char) (c : Cursor)

@[simp] theorem rest_extend : (extend more c).rest = c.rest ++ more := rfl

@[simp] theorem line_extend : (extend more c).line = c.line := rfl

@[simp] theorem inCommand_extend (keyword : String) :
    (extend more c).inCommand keyword =
      extend more (c.inCommand keyword) := rfl

@[simp] theorem inArgument_extend (name : String) :
    (extend more c).inArgument name = extend more (c.inArgument name) := rfl

@[simp] theorem leaveArgument_extend :
    (extend more c).leaveArgument = extend more c.leaveArgument := rfl

@[simp] theorem leaveCommand_extend :
    (extend more c).leaveCommand = extend more c.leaveCommand := rfl

@[simp] theorem error_extend (problem : Problem) :
    (extend more c).error problem = extend more (c.error problem) := rfl

@[simp] theorem warn_extend (problem : Problem) :
    (extend more c).warn problem = extend more (c.warn problem) := rfl

theorem advance_extend {count : Nat} (inside : count ≤ c.rest.length) :
    (extend more c).advance count = extend more (c.advance count) := by
  simp only [advance, extend, List.take_append_of_le_length inside,
    List.drop_append_of_le_length inside]

@[simp] theorem moveTo_extend (remainder : List Char) :
    (extend more c).moveTo (remainder ++ more) =
      extend more (c.moveTo remainder) := by
  have count : (c.rest ++ more).length - (remainder ++ more).length =
      c.rest.length - remainder.length := by
    simp only [List.length_append]
    omega
  rw [moveTo, moveTo, rest_extend, count]
  exact advance_extend more c (Nat.sub_le _ _)

end

section

variable (more : List Char) {c : Cursor}

theorem next_extend (unread : c.rest ≠ []) :
    (extend more c).next = extend more c.next :=
  advance_extend more c (List.length_pos_iff.mpr unread)

theorem peek?_extend (unread : c.rest ≠ []) :
    (extend more c).peek? = c.peek? := by
  obtain ⟨head, tail, shape⟩ := List.exists_cons_of_ne_nil unread
  simp [peek?, shape]

theorem skipWhile_extend {test : Char → Bool} (refuses : test ')' = false)
    (unread : ')' ∈ c.rest) :
    (extend more c).skipWhile test = extend more (c.skipWhile test) := by
  rw [skipWhile, skipWhile, rest_extend,
    takeWhile_append_of_mem refuses unread]
  exact advance_extend more c (List.takeWhile_prefix test).length_le

theorem skipBlanks_extend (unread : ')' ∈ c.rest) :
    (extend more c).skipBlanks = extend more c.skipBlanks :=
  skipWhile_extend more (by decide) unread

theorem mem_rest_skipBlanks (unread : ')' ∈ c.rest) :
    ')' ∈ c.skipBlanks.rest := by
  rw [rest_skipBlanks]
  exact mem_dropWhile_of_refuses (by decide) unread

end

/-! ### Values -/

theorem readBare_extend {stop : Char → Bool} (stops : stop ')' = true)
    (more : List Char) {c : Cursor} (unread : ')' ∈ c.rest) :
    (extend more c).readBare stop =
      ((c.readBare stop).1, extend more (c.readBare stop).2) := by
  have taken : (c.rest ++ more).takeWhile (!stop ·) =
      c.rest.takeWhile (!stop ·) := by
    apply takeWhile_append_of_mem ?_ unread
    rw [stops]
    rfl
  simp only [readBare, rest_extend, taken]
  rw [advance_extend more c (List.takeWhile_prefix _).length_le]

theorem extends_readBare {stop : Char → Bool} (stops : stop ')' = true) :
    Extends (readBare stop) := by
  intro more c unread
  exact readBare_extend stops more ((reaches_readBare stop c).suffix.mem unread)

theorem extends_readWord : Extends readWord := by
  intro more c unread
  have here := (reaches_readWord c).suffix.mem unread
  have refuses : isWord ')' = false := by decide
  simp only [readWord, rest_extend, takeWhile_append_of_mem refuses here more]
  rw [advance_extend more c (List.takeWhile_prefix _).length_le]

theorem readString_of_ne {c : Cursor}
    (noQuote : ∀ body, c.skipBlanks.rest ≠ '"' :: body) :
    c.readString =
      match afterNone? c.skipBlanks.rest with
      | some remainder => ("", c.skipBlanks.moveTo remainder)
      | none =>
          (c.skipBlanks.error .missingOpeningQuote).readBare isTokenEnd := by
  unfold readString
  dsimp only
  split
  · rename_i body unread
    exact absurd unread (noQuote body)
  · rfl

theorem extends_readString : Extends readString := by
  intro more c unread
  have whole := (reaches_readString c).suffix.mem unread
  have here := mem_rest_skipBlanks whole
  have start := skipBlanks_extend more whole
  by_cases quoted : ∃ body, c.skipBlanks.rest = '"' :: body
  · obtain ⟨body, shape⟩ := quoted
    have left := List.ne_nil_of_mem unread
    rw [rest_readString, shape, afterString] at left
    simp only [readString, start, rest_extend, shape, List.cons_append,
      scanQuoted_append left more, moveTo_extend, line_extend]
    split <;> rfl
  · have noQuote : ∀ body, c.skipBlanks.rest ≠ '"' :: body :=
      fun body shape => quoted ⟨body, shape⟩
    have stillNoQuote : ∀ body,
        (extend more c).skipBlanks.rest ≠ '"' :: body := by
      intro body shape
      rw [start, rest_extend] at shape
      obtain ⟨head, tail, first⟩ := List.exists_cons_of_ne_nil
        (List.ne_nil_of_mem here)
      rw [first] at shape
      injection shape with same
      exact noQuote tail (same ▸ first)
    rw [readString_of_ne noQuote, readString_of_ne stillNoQuote, start,
      rest_extend, afterNone?_append here]
    cases afterNone? c.skipBlanks.rest with
    | some remainder => simp
    | none =>
        have stops : isTokenEnd ')' = true := by decide
        exact readBare_extend stops more
          (c := c.skipBlanks.error .missingOpeningQuote) here

theorem extends_readToken {bare : Cursor → String × Cursor}
    (forward : ∀ c : Cursor, c.Reaches (bare c).2)
    (bareExtends : Extends bare) : Extends (readToken bare) := by
  intro more c unread
  have whole := (reaches_readToken forward c).suffix.mem unread
  have here := List.ne_nil_of_mem (mem_rest_skipBlanks whole)
  unfold readToken at unread ⊢
  dsimp only at unread ⊢
  rw [skipBlanks_extend more whole, peek?_extend more here]
  split at unread
  · rename_i quoted
    simp only [quoted, if_true]
    exact extends_readString more _ unread
  · rename_i unquoted
    simp only [unquoted, if_false]
    exact bareExtends more _ unread

theorem isTokenEndOrBlank_close : isTokenEndOrBlank ')' = true := by decide

theorem extends_readBool : Extends readBool := by
  intro more c unread
  have left : ')' ∈ (c.readToken (readBare isTokenEndOrBlank)).2.rest := by
    unfold readBool at unread
    dsimp only at unread
    split at unread
    · exact unread
    · split at unread <;> exact unread
  have token := extends_readToken (reaches_readBare isTokenEndOrBlank)
    (extends_readBare isTokenEndOrBlank_close) more c left
  simp only [readBool, token]
  split
  · rfl
  · split
    · rfl
    · simp

theorem rejectNumber_extend (more : List Char) {c : Cursor}
    (unread : ')' ∈ c.rest) (read : List Char) :
    (extend more c).rejectNumber read = extend more (c.rejectNumber read) := by
  simp only [rejectNumber, readBare_extend isTokenEndOrBlank_close more unread,
    error_extend]

theorem isGlued_extend (more : List Char) {c : Cursor}
    (unread : c.rest ≠ []) : (extend more c).isGlued = c.isGlued := by
  obtain ⟨head, tail, shape⟩ := List.exists_cons_of_ne_nil unread
  simp [isGlued, shape]

theorem extends_readNumeral : Extends readNumeral := by
  intro more c unread
  have whole := (reaches_readNumeral c).suffix.mem unread
  have here := mem_rest_skipBlanks whole
  simp only [readNumeral, skipBlanks_extend more whole, rest_extend,
    scan_append scan?_delimited here]
  simp only [readNumeral] at unread
  cases found : Numeral.scan? c.skipBlanks.rest with
  | none => simp only [Option.map_none, rejectNumber_extend more here]
  | some read =>
      obtain ⟨numeral, remainder⟩ := read
      have left : ')' ∈ (c.skipBlanks.moveTo remainder).rest := by
        rw [found] at unread
        dsimp only at unread
        split at unread
        · exact (reaches_rejectNumber _ _).suffix.mem unread
        · exact unread
      simp only [Option.map_some, moveTo_extend,
        isGlued_extend more (List.ne_nil_of_mem left),
        rejectNumber_extend more left]
      split <;> rfl

theorem extends_readInt : Extends readInt := by
  intro more c unread
  have left : ')' ∈ c.readNumeral.2.rest := by
    unfold readInt at unread
    split at unread <;> rename_i read <;> rw [read]
    · exact unread
    · split at unread <;> exact unread
  rw [readInt, extends_readNumeral more c left, readInt]
  obtain ⟨numeral, after⟩ := c.readNumeral
  cases numeral with
  | none => rfl
  | some numeral =>
      dsimp only
      split
      · rfl
      · simp

theorem extends_readDouble : Extends readDouble := by
  intro more c unread
  have left : ')' ∈ c.readNumeral.2.rest := by
    unfold readDouble at unread
    split at unread <;> rename_i read <;> rw [read] <;> exact unread
  rw [readDouble, extends_readNumeral more c left, readDouble]
  obtain ⟨numeral, after⟩ := c.readNumeral
  cases numeral with
  | none => rfl
  | some numeral => rfl

theorem extends_readVariant (names : Enumeration) :
    Extends (readVariant names) := by
  intro more c unread
  have left : ')' ∈ (c.readToken readWord).2.rest := by
    unfold readVariant at unread
    dsimp only at unread
    split at unread <;> exact unread
  have token := extends_readToken reaches_readWord extends_readWord more c left
  simp only [readVariant, token]
  split
  · rfl
  · simp

/-! ### Lists and references -/

theorem progress_extend (more : List Char) {before : Cursor}
    (unread : before.rest ≠ []) (after : Cursor) :
    (extend more before).progress (extend more after) =
      extend more (before.progress after) := by
  by_cases less : after.rest.length < before.rest.length
  · simp [progress, less]
  · simp only [progress, rest_extend, List.length_append,
      Nat.add_lt_add_iff_right, less, if_false, next_extend more unread]
    rfl

/-- The step in a text that goes on with `more`. -/
def ListStep.extend {α : Type} (more : List Char) : ListStep α → ListStep α
  | .finished after => .finished (after.extend more)
  | .continued item after => .continued item (after.extend more)

theorem listStep_extend {α : Type} {item : Cursor → Option α × Cursor}
    (forward : ∀ c : Cursor, c.Reaches (item c).2)
    (itemExtends : Extends item) (more : List Char) {c : Cursor}
    (unread : ')' ∈ (listStep item c).cursor.rest) :
    listStep item (extend more c) = (listStep item c).extend more := by
  have whole := (reaches_listStep forward c).suffix.mem unread
  have here := mem_rest_skipBlanks whole
  have some := List.ne_nil_of_mem here
  obtain ⟨next, tail, shape⟩ := List.exists_cons_of_ne_nil some
  have longer : (extend more c).skipBlanks.rest = next :: (tail ++ more) := by
    rw [skipBlanks_extend more whole, rest_extend, shape, List.cons_append]
  rw [listStep_of_cons item shape] at unread ⊢
  rw [listStep_of_cons item longer, skipBlanks_extend more whole,
    next_extend more some]
  split
  · rfl
  · split
    · rfl
    · split
      · rfl
      · rename_i noClose noComma noEnd
        rw [if_neg noClose, if_neg noComma, if_neg noEnd] at unread
        -- An item that consumed nothing leaves all of the text behind it.
        have left : ')' ∈ (item c.skipBlanks).2.rest := by
          simp only [ListStep.cursor, progress] at unread
          split at unread
          · exact unread
          · rename_i stays
            rw [(forward c.skipBlanks).rest_eq (Nat.le_of_not_lt stays)]
            exact here
        rw [itemExtends more _ left, progress_extend more some]
        rfl

theorem extends_readItems {α : Type} {item : Cursor → Option α × Cursor}
    (forward : ∀ c : Cursor, c.Reaches (item c).2)
    (itemExtends : Extends item) : Extends (readItems item) := by
  intro more c unread
  cases found : listStep item c with
  | finished after =>
      rw [readItems_of_finished found] at unread ⊢
      have step := listStep_extend forward itemExtends more (c := c)
        (by rw [found]; exact unread)
      rw [found] at step
      rw [readItems_of_finished step]
  | continued value after =>
      have less := listStep_length_lt found
      rw [readItems_of_continued found] at unread ⊢
      have step := listStep_extend forward itemExtends more (c := c) (by
        rw [found]
        exact (reaches_readItems forward after).suffix.mem unread)
      rw [found] at step
      rw [readItems_of_continued step,
        extends_readItems forward itemExtends more after unread]
termination_by _ c => c.rest.length

theorem extends_readList {α : Type} {item : Cursor → Option α × Cursor}
    (forward : ∀ c : Cursor, c.Reaches (item c).2)
    (itemExtends : Extends item) : Extends (readList item) := by
  intro more c unread
  have whole := (reaches_readList forward c).suffix.mem unread
  have some := List.ne_nil_of_mem (mem_rest_skipBlanks whole)
  unfold readList at unread ⊢
  dsimp only at unread ⊢
  rw [skipBlanks_extend more whole, peek?_extend more some]
  split at unread
  · rename_i opened
    simp only [opened, if_true, next_extend more some]
    rw [extends_readItems forward itemExtends more _ unread]
  · rename_i unopened
    simp only [unopened, if_false, error_extend]

theorem extends_readReferenceToken : Extends readReferenceToken := by
  intro more c unread
  have whole := (reaches_readReferenceToken c).suffix.mem unread
  rw [readReferenceToken, skipBlanks_extend more whole]
  exact readBare_extend isTokenEndOrBlank_close more (mem_rest_skipBlanks whole)

theorem resolveReference_extend (more : List Char) (c : Cursor)
    (objects : ObjectTable) (className token : String) :
    (extend more c).resolveReference objects className token =
      ((c.resolveReference objects className token).1,
        extend more (c.resolveReference objects className token).2) := by
  simp only [resolveReference, error_extend, warn_extend]
  split
  · rfl
  · split
    · rfl
    · split
      · rfl
      · split <;> rfl

theorem extends_readReference (objects : ObjectTable) (className : String) :
    Extends (readReference objects className) := by
  intro more c unread
  rw [rest_readReference] at unread
  simp only [readReference, extends_readReferenceToken more c unread,
    resolveReference_extend]
  split <;> rfl

theorem extends_readReferenceItem (objects : ObjectTable)
    (className : String) : Extends (readReferenceItem objects className) := by
  intro more c unread
  rw [rest_readReferenceItem] at unread
  simp only [readReferenceItem, extends_readReferenceToken more c unread,
    resolveReference_extend]
  split <;> rfl

theorem extends_unlessEnd {α : Type} {read : Cursor → α × Cursor}
    (forward : ∀ c : Cursor, c.Reaches (read c).2)
    (readExtends : Extends read) (value : α → Option Value) :
    Extends (unlessEnd fun c => (read c).map value id) := by
  intro more c unread
  have reached : c.Reaches (c.unlessEnd fun c => (read c).map value id).2 :=
    reaches_unlessEnd forward value c
  have whole := reached.suffix.mem unread
  obtain ⟨head, tail, shape⟩ := List.exists_cons_of_ne_nil
    (List.ne_nil_of_mem (mem_rest_skipBlanks whole))
  have goesOn : c.skipBlanks.rest.isEmpty = false := by
    rw [shape]
    rfl
  have stillGoesOn : (c.skipBlanks.rest ++ more).isEmpty = false := by
    rw [shape]
    rfl
  simp only [unlessEnd, skipBlanks_extend more whole, rest_extend, goesOn,
    stillGoesOn, Bool.false_eq_true, if_false] at unread ⊢
  rw [readExtends more _ unread]
  rfl

theorem extends_readValue (objects : ObjectTable) (type : ValueType) :
    Extends (readValue objects type) := by
  induction type with
  | string => exact extends_unlessEnd reaches_readString extends_readString _
  | bool => exact extends_unlessEnd reaches_readBool extends_readBool _
  | int => exact extends_unlessEnd reaches_readInt extends_readInt _
  | double => exact extends_unlessEnd reaches_readDouble extends_readDouble _
  | enumeration names =>
      exact extends_unlessEnd (reaches_readVariant names)
        (extends_readVariant names) _
  | array element induction =>
      have forward := reaches_readValue objects element
      exact extends_unlessEnd (reaches_readList forward)
        (extends_readList forward induction) _
  | reference className =>
      exact extends_unlessEnd (reaches_readReference objects className)
        (extends_readReference objects className) _
  | references className =>
      have forward := reaches_readReferenceItem objects className
      exact extends_unlessEnd (reaches_readList forward) (extends_readList
        forward (extends_readReferenceItem objects className)) _

end Cursor

end GridScript
