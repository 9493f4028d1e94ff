import GridScript.Proofs.Characters
import GridScript.Proofs.Passing
import GridScript.Proofs.Stepping

/-!
# Reading up to a delimiter

A value is read in front of a comma or a parenthesis.  Two cursors abreast in
front of two such delimiters, with the same text before them, stay abreast
while they are read on, until the first one passes its comma: what stands
behind a delimiter has no influence on what is read before it.
-/

namespace GridScript

/-- The text begins with a comma or a closing parenthesis. -/
def Delimited (text : List Char) : Prop :=
  ∃ mark tail, text = mark :: tail ∧ (mark = ',' ∨ mark = ')')

theorem delimited_comma (tail : List Char) : Delimited (',' :: tail) :=
  ⟨',', tail, rfl, .inl rfl⟩

theorem delimited_close (tail : List Char) : Delimited (')' :: tail) :=
  ⟨')', tail, rfl, .inr rfl⟩

/-- Neither delimiter satisfies the test. -/
def Refuses (test : Char → Bool) : Prop :=
  test ',' = false ∧ test ')' = false

theorem dropWhile_delimited {test : Char → Bool} (refuses : Refuses test)
    {behind : List Char} (delimited : Delimited behind) (text : List Char) :
    (text ++ behind).dropWhile test = text.dropWhile test ++ behind := by
  obtain ⟨mark, tail, rfl, isMark⟩ := delimited
  have stops : test mark = false := by
    rcases isMark with rfl | rfl
    · exact refuses.1
    · exact refuses.2
  induction text with
  | nil => simp [stops]
  | cons head text induction =>
      by_cases holds : test head = true
      · simp [holds, induction]
      · simp [holds]

theorem takeWhile_delimited {test : Char → Bool} (refuses : Refuses test)
    {behind : List Char} (delimited : Delimited behind) (text : List Char) :
    (text ++ behind).takeWhile test = text.takeWhile test := by
  obtain ⟨mark, tail, rfl, isMark⟩ := delimited
  have stops : test mark = false := by
    rcases isMark with rfl | rfl
    · exact refuses.1
    · exact refuses.2
  induction text with
  | nil => simp [stops]
  | cons head text induction =>
      by_cases holds : test head = true
      · simp [holds, induction]
      · simp [holds]

/-! ### Scanning text -/

/-- What a scan leaves of two texts that are the same up to their delimiters:
the same in front of the delimiters, unless it passes the comma. -/
def LeavesAbreast (near far : List Char) (scan : List Char → List Char) :
    Prop :=
  ∀ text, (∃ left, scan (text ++ near) = left ++ near ∧
      scan (text ++ far) = left ++ far) ∨
    (scan (text ++ near)).length < near.length

theorem scanQuoted_plain {c : Char} (noQuote : c ≠ '"')
    (noBackslash : c ≠ '\\') (rest : List Char) :
    Cursor.scanQuoted (c :: rest) =
      (c :: (Cursor.scanQuoted rest).1, (Cursor.scanQuoted rest).2) := by
  rw [Cursor.scanQuoted.eq_def]
  split
  · rename_i same
    cases same
  · rename_i same
    cases same
    exact absurd rfl noQuote
  · rename_i same
    cases same
    exact absurd rfl noBackslash
  · rename_i same
    cases same
    exact absurd rfl noBackslash
  · rename_i same
    cases same
    rfl

theorem scanQuoted_suffix (text : List Char) :
    (Cursor.scanQuoted text).2.1 <:+ text := by
  fun_induction Cursor.scanQuoted text with
  | case1 => exact List.suffix_rfl
  | case2 rest => exact List.suffix_cons _ rest
  | case3 => exact List.nil_suffix
  | case4 c rest _ induction =>
      exact (induction.trans (List.suffix_cons c rest)).trans
        (List.suffix_cons _ _)
  | case5 c rest _ _ _ _ induction =>
      exact induction.trans (List.suffix_cons c rest)

theorem scanQuoted_cons_suffix (head : Char) (tail : List Char) :
    (Cursor.scanQuoted (head :: tail)).2.1 <:+ tail := by
  by_cases quote : head = '"'
  · subst quote
    exact List.suffix_rfl
  · by_cases backslash : head = '\\'
    · subst backslash
      cases tail with
      | nil => exact List.nil_suffix
      | cons next rest =>
          exact (scanQuoted_suffix rest).trans (List.suffix_cons next rest)
    · rw [scanQuoted_plain quote backslash]
      exact scanQuoted_suffix tail

theorem scanQuoted_leavesAbreast (near far : List Char)
    (some : near ≠ []) :
    LeavesAbreast near far fun text => (Cursor.scanQuoted text).2.1 := by
  intro text
  obtain ⟨mark, behind, rfl⟩ := List.exists_cons_of_ne_nil some
  fun_induction Cursor.scanQuoted text with
  | case1 =>
      have shorter := (scanQuoted_cons_suffix mark behind).length_le
      exact .inr (Nat.lt_succ_of_le shorter)
  | case2 rest => exact .inl ⟨rest, rfl, rfl⟩
  | case3 =>
      -- The backslash takes the delimiter itself.
      have shorter := (scanQuoted_suffix behind).length_le
      refine .inr ?_
      simp only [List.cons_append, List.nil_append, Cursor.scanQuoted,
        List.length_cons]
      omega
  | case4 c rest _ induction => simpa [Cursor.scanQuoted] using induction
  | case5 c rest noQuote noEnd noEscape _ induction =>
      have noBackslash : c ≠ '\\' := by
        rintro rfl
        cases rest with
        | nil => exact noEnd rfl rfl
        | cons next rest => exact noEscape next rest rfl rfl
      simpa only [List.cons_append, scanQuoted_plain noQuote noBackslash]
        using induction

theorem afterNone?_eq_none {text : List Char}
    (differs : ∀ rest, text ≠ 'N' :: 'o' :: 'n' :: 'e' :: rest) :
    Cursor.afterNone? text = none := by
  unfold Cursor.afterNone?
  split
  · rename_i rest
    exact absurd rfl (differs rest)
  · rfl

theorem afterNone?_delimited {behind : List Char}
    (delimited : Delimited behind) (text : List Char) :
    Cursor.afterNone? (text ++ behind) =
      (Cursor.afterNone? text).map (· ++ behind) := by
  obtain ⟨mark, tail, rfl, isMark⟩ := delimited
  have noWord : isWord mark = false := by
    rcases isMark with rfl | rfl <;> decide
  have apart : ∀ letter, isWord letter = true → mark ≠ letter := by
    rintro letter word rfl
    rw [noWord] at word
    cases word
  by_cases begins : ∃ rest, text = 'N' :: 'o' :: 'n' :: 'e' :: rest
  · obtain ⟨rest, rfl⟩ := begins
    have glued : ((rest ++ mark :: tail).head?.map isWord).getD false =
        (rest.head?.map isWord).getD false := by
      cases rest with
      | nil => simp [noWord]
      | cons head rest => rfl
    simp only [List.cons_append, Cursor.afterNone?, glued]
    split <;> rfl
  · have differs : ∀ rest, text ≠ 'N' :: 'o' :: 'n' :: 'e' :: rest :=
      fun rest same => begins ⟨rest, same⟩
    rw [afterNone?_eq_none differs]
    apply afterNone?_eq_none
    intro rest same
    -- The word would have to go on across the delimiter.
    rcases text with _ | ⟨first, _ | ⟨second, _ | ⟨third, _ | ⟨fourth, text⟩⟩⟩⟩
    · injection same with here
      exact apart 'N' (by decide) here
    · injection same with _ same
      injection same with here
      exact apart 'o' (by decide) here
    · injection same with _ same
      injection same with _ same
      injection same with here
      exact apart 'n' (by decide) here
    · injection same with _ same
      injection same with _ same
      injection same with _ same
      injection same with here
      exact apart 'e' (by decide) here
    · simp only [List.cons_append, List.cons.injEq] at same
      obtain ⟨rfl, rfl, rfl, rfl, _⟩ := same
      exact differs text rfl

theorem splitDigits_delimited {behind : List Char}
    (delimited : Delimited behind) (text : List Char) :
    Numeral.splitDigits (text ++ behind) =
      ((Numeral.splitDigits text).1,
        (Numeral.splitDigits text).2 ++ behind) := by
  have refuses : Refuses isDecimalDigit := ⟨by decide, by decide⟩
  rw [Numeral.splitDigits, takeWhile_delimited refuses delimited,
    dropWhile_delimited refuses delimited]
  rfl

theorem splitSign_other {head : Char} (noPlus : head ≠ '+')
    (noMinus : head ≠ '-') (rest : List Char) :
    Numeral.splitSign (head :: rest) = ([], head :: rest) := by
  unfold Numeral.splitSign
  split
  · rename_i same
    cases same
    exact absurd rfl noPlus
  · rename_i same
    cases same
    exact absurd rfl noMinus
  · rfl

theorem splitSign_delimited {behind : List Char}
    (delimited : Delimited behind) (text : List Char) :
    Numeral.splitSign (text ++ behind) =
      ((Numeral.splitSign text).1, (Numeral.splitSign text).2 ++ behind) := by
  cases text with
  | nil =>
      obtain ⟨mark, tail, rfl, isMark⟩ := delimited
      rcases isMark with rfl | rfl <;> rfl
  | cons head text =>
      by_cases plus : head = '+'
      · subst plus
        rfl
      · by_cases minus : head = '-'
        · subst minus
          rfl
        · rw [List.cons_append, splitSign_other plus minus,
            splitSign_other plus minus]
          rfl

theorem scanMantissa?_whole {text : List Char}
    (noPoint : ∀ after, (Numeral.splitDigits text).2 ≠ '.' :: after) :
    Numeral.scanMantissa? text =
      if (Numeral.splitDigits text).1.isEmpty then none
      else some ((Numeral.splitDigits text).1, none,
        (Numeral.splitDigits text).2) := by
  simp only [Numeral.scanMantissa?]

theorem scanMantissa?_delimited {behind : List Char}
    (delimited : Delimited behind) (text : List Char) :
    Numeral.scanMantissa? (text ++ behind) =
      (Numeral.scanMantissa? text).map fun found =>
        (found.1, found.2.1, found.2.2 ++ behind) := by
  have digits := splitDigits_delimited delimited
  by_cases point : ∃ after, (Numeral.splitDigits text).2 = '.' :: after
  · obtain ⟨after, point⟩ := point
    simp only [Numeral.scanMantissa?, digits, point, List.cons_append]
    split <;> rfl
  · have noPoint : ∀ after, (Numeral.splitDigits text).2 ≠ '.' :: after :=
      fun after same => point ⟨after, same⟩
    have stillNoPoint : ∀ after,
        (Numeral.splitDigits (text ++ behind)).2 ≠ '.' :: after := by
      intro after same
      rw [digits] at same
      cases left : (Numeral.splitDigits text).2 with
      | nil =>
          obtain ⟨mark, tail, rfl, isMark⟩ := delimited
          rw [left] at same
          injection same with here
          rcases isMark with rfl | rfl <;> cases here
      | cons head rest =>
          rw [left] at same
          injection same with here
          exact noPoint rest (here ▸ left)
    rw [scanMantissa?_whole noPoint, scanMantissa?_whole stillNoPoint, digits]
    split <;> rfl

theorem scanExponent?_delimited {behind : List Char}
    (delimited : Delimited behind) (text : List Char) :
    Numeral.scanExponent? (text ++ behind) =
      (Numeral.scanExponent? text).map fun found =>
        (found.1, found.2 ++ behind) := by
  have digits := splitDigits_delimited delimited
  have signs := splitSign_delimited delimited
  cases text with
  | nil =>
      obtain ⟨mark, tail, rfl, isMark⟩ := delimited
      rcases isMark with rfl | rfl <;> rfl
  | cons letter rest =>
      simp only [List.cons_append, Numeral.scanExponent?, signs, digits]
      split
      · split <;> rfl
      · rfl

/-- A numeral ends in front of a delimiter. -/
theorem scan?_delimited {behind : List Char} (delimited : Delimited behind)
    (text : List Char) :
    Numeral.scan? (text ++ behind) =
      (Numeral.scan? text).map fun found =>
        (found.1, found.2 ++ behind) := by
  simp only [Numeral.scan?, splitSign_delimited delimited,
    scanMantissa?_delimited delimited]
  generalize Numeral.splitSign text = split
  obtain ⟨sign, rest⟩ := split
  cases Numeral.scanMantissa? rest with
  | none => rfl
  | some mantissa =>
      obtain ⟨whole, fraction, rest⟩ := mantissa
      simp only [Option.map_some, Option.bind_eq_bind, Option.bind_some,
        scanExponent?_delimited delimited]
      cases Numeral.scanExponent? rest with
      | none => rfl
      | some exponent => rfl

/-! ### Passing over an argument -/

theorem value_suffix (depth : Nat) (quoted : Bool) (text : List Char) :
    Skip.value depth quoted text <:+ text := by
  fun_induction Skip.value depth quoted text with
  | case1 => exact List.suffix_rfl
  | case2 depth c rest induction =>
      exact (induction.trans (List.suffix_cons c rest)).trans
        (List.suffix_cons _ _)
  | case3 depth c rest _ induction =>
      exact induction.trans (List.suffix_cons c rest)
  | case4 => exact List.suffix_rfl
  | case5 => exact List.IsSuffix.trans ‹_› (List.suffix_cons _ _)
  | case6 => exact List.IsSuffix.trans ‹_› (List.suffix_cons _ _)
  | case7 => exact List.IsSuffix.trans ‹_› (List.suffix_cons _ _)
  | case8 => exact List.IsSuffix.trans ‹_› (List.suffix_cons _ _)

/-- Passing over an argument ends at the end of the text or at a delimiter. -/
theorem value_stops (depth : Nat) (quoted : Bool) (text : List Char) :
    Skip.value depth quoted text = [] ∨
      Delimited (Skip.value depth quoted text) := by
  fun_induction Skip.value depth quoted text with
  | case1 => exact .inl rfl
  | case4 depth c rest stops => exact .inr ⟨c, rest, rfl, stops.2⟩
  | _ => assumption

theorem value_quoted_plain {c : Char} (noBackslash : c ≠ '\\') (depth : Nat)
    (rest : List Char) :
    Skip.value depth true (c :: rest) = Skip.value depth (c != '"') rest := by
  cases rest with
  | nil => simp [Skip.value]
  | cons next rest =>
      rw [Skip.value]
      intro _ _ same
      cases same
      exact absurd rfl noBackslash

theorem value_bare (depth : Nat) (c : Char) (rest : List Char) :
    Skip.value depth false (c :: rest) =
      if depth = 0 ∧ (c = ',' ∨ c = ')') then c :: rest
      else if c = '"' then Skip.value depth true rest
      else if c = '(' ∨ c = '[' then Skip.value (depth + 1) false rest
      else if c = ')' ∨ c = ']' then Skip.value (depth - 1) false rest
      else Skip.value depth false rest := by
  rw [Skip.value]

theorem value_leavesAbreast {behind far : List Char}
    (delimited : Delimited far) (depth : Nat) (quoted : Bool) :
    LeavesAbreast (',' :: behind) far (Skip.value depth quoted) := by
  intro text
  have passes : ∀ depth quoted,
      (Skip.value depth quoted behind).length < (',' :: behind).length := by
    intro depth quoted
    exact Nat.lt_succ_of_le (Skip.value_length_le depth quoted behind)
  fun_induction Skip.value depth quoted text with
  | case1 depth quoted =>
      rw [List.nil_append, List.nil_append]
      cases quoted with
      | true =>
          rw [value_quoted_plain (by decide)]
          exact .inr (passes _ _)
      | false =>
          by_cases level : depth = 0
          · obtain ⟨mark, tail, rfl, isMark⟩ := delimited
            refine .inl ⟨[], ?_, ?_⟩
            · simp [value_bare, level]
            · rw [value_bare, if_pos ⟨level, isMark⟩]
              rfl
          · rw [value_bare]
            simp only [level, false_and, if_false]
            exact .inr (passes _ _)
  | case2 depth c rest induction => exact induction
  | case3 depth c rest noEscape induction =>
      by_cases backslash : c = '\\'
      · subst backslash
        cases rest with
        | nil => exact .inr (passes depth true)
        | cons next rest => exact absurd rfl (noEscape next rest rfl)
      · simpa only [List.cons_append, value_quoted_plain backslash]
          using induction
  | case4 depth c rest stops =>
      refine .inl ⟨c :: rest, ?_, ?_⟩ <;>
        rw [List.cons_append, value_bare, if_pos stops]
  | case5 depth rest goesOn induction =>
      simpa only [List.cons_append, value_bare, goesOn, if_false, if_true]
        using induction
  | case6 depth c rest goesOn noQuote opens induction =>
      simpa only [List.cons_append, value_bare, goesOn, noQuote, opens,
        if_false, if_true] using induction
  | case7 depth c rest goesOn noQuote noOpen closes induction =>
      simpa only [List.cons_append, value_bare, goesOn, noQuote, noOpen, closes,
        if_false, if_true] using induction
  | case8 depth c rest goesOn noQuote noOpen noClose induction =>
      simpa only [List.cons_append, value_bare, goesOn, noQuote, noOpen,
        noClose, if_false] using induction

namespace Cursor

/-! ### Cursors abreast -/

/-- The same text stands in front of the comma and in front of `far`. -/
def Abreast (behind far : List Char) (left right : Cursor) : Prop :=
  ∃ text, left.rest = text ++ ',' :: behind ∧ right.rest = text ++ far

/-- Two readers keep cursors abreast, unless the first one passes its comma. -/
def Lockstep (behind far : List Char) (first second : Cursor → Cursor) :
    Prop :=
  ∀ left right, Abreast behind far left right →
    Abreast behind far (first left) (second right) ∨
      (first left).rest.length ≤ behind.length

section

variable {behind far : List Char}

/-- Reporting does not move. -/
theorem Lockstep.of_rest {first second first' second' : Cursor → Cursor}
    (one : Lockstep behind far first second)
    (same : ∀ c, (first' c).rest = (first c).rest)
    (same' : ∀ c, (second' c).rest = (second c).rest) :
    Lockstep behind far first' second' := by
  intro left right abreast
  unfold Abreast at *
  rw [same, same']
  exact one left right abreast

theorem rest_skipWhile (c : Cursor) (test : Char → Bool) :
    (c.skipWhile test).rest = c.rest.dropWhile test := by
  have split : c.rest.takeWhile test ++ c.rest.dropWhile test = c.rest :=
    List.takeWhile_append_dropWhile
  calc c.rest.drop (c.rest.takeWhile test).length
    _ = (c.rest.takeWhile test ++ c.rest.dropWhile test).drop
          (c.rest.takeWhile test).length := by rw [split]
    _ = c.rest.dropWhile test := List.drop_left' rfl

theorem Abreast.skipWhile {left right : Cursor}
    (abreast : Abreast behind far left right) (test : Char → Bool)
    (refuses : Refuses test) (delimited : Delimited far) :
    Abreast behind far (left.skipWhile test) (right.skipWhile test) := by
  obtain ⟨text, unread, unread'⟩ := abreast
  refine ⟨text.dropWhile test, ?_, ?_⟩
  · rw [rest_skipWhile, unread,
      dropWhile_delimited refuses (delimited_comma behind)]
  · rw [rest_skipWhile, unread', dropWhile_delimited refuses delimited]

theorem Abreast.skipBlanks {left right : Cursor}
    (abreast : Abreast behind far left right) (delimited : Delimited far) :
    Abreast behind far left.skipBlanks right.skipBlanks :=
  abreast.skipWhile isBlank ⟨by decide, by decide⟩ delimited

theorem Abreast.readBare {left right : Cursor}
    (abreast : Abreast behind far left right) (stop : Char → Bool)
    (stops : stop ',' = true ∧ stop ')' = true) (delimited : Delimited far) :
    Abreast behind far (left.readBare stop).2 (right.readBare stop).2 := by
  have refuses : Refuses (!stop ·) := by
    constructor
    · simp [stops.1]
    · simp [stops.2]
  exact abreast.skipWhile _ refuses delimited

theorem rest_moveTo_append {c : Cursor} {text left near : List Char}
    (unread : c.rest = text ++ near) :
    (c.moveTo (left ++ near)).rest =
      text.drop (text.length - left.length) ++ near := by
  have count : c.rest.length - (left ++ near).length =
      text.length - left.length := by
    simp only [unread, List.length_append]
    omega
  rw [moveTo, count, advance, unread]
  exact List.drop_append_of_le_length (Nat.sub_le _ _)

/-- Cursors abreast look at the same character, unless it is a delimiter. -/
theorem Abreast.peek?_iff {left right : Cursor}
    (abreast : Abreast behind far left right) (delimited : Delimited far)
    {c : Char} (noComma : c ≠ ',') (noClose : c ≠ ')') :
    left.peek? = some c ↔ right.peek? = some c := by
  obtain ⟨text, unread, unread'⟩ := abreast
  obtain ⟨mark, tail, rfl, isMark⟩ := delimited
  simp only [peek?, unread, unread']
  cases text with
  | nil =>
      rcases isMark with rfl | rfl
      · simp
      · simp [noComma.symm, noClose.symm]
  | cons head text => simp

/-- What reading a string leaves of a text that begins with no blank. -/
def afterString : List Char → List Char
  | '"' :: body => (scanQuoted body).2.1
  | text => (afterNone? text).getD (text.dropWhile (!isTokenEnd ·))

theorem afterNone?_suffix {text rest : List Char}
    (found : afterNone? text = some rest) : rest <:+ text := by
  unfold afterNone? at found
  split at found
  · split at found
    · cases found
    · cases found
      exact ⟨['N', 'o', 'n', 'e'], rfl⟩
  · cases found

theorem afterString_of_ne {text : List Char}
    (noQuote : ∀ body, text ≠ '"' :: body) :
    afterString text =
      (afterNone? text).getD (text.dropWhile (!isTokenEnd ·)) := by
  unfold afterString
  split
  · rename_i body
    exact absurd rfl (noQuote body)
  · rfl

theorem rest_readString (c : Cursor) :
    c.readString.2.rest = afterString c.skipBlanks.rest := by
  unfold readString
  dsimp only
  split
  · rename_i body unread
    have suffix : (scanQuoted body).2.1 <:+ c.skipBlanks.rest := by
      rw [unread]
      exact (scanQuoted_suffix body).trans (List.suffix_cons _ body)
    rw [unread, afterString]
    split <;> exact c.skipBlanks.rest_moveTo suffix
  · rename_i noQuote
    rw [afterString_of_ne noQuote]
    split
    · rename_i rest found
      rw [found]
      exact c.skipBlanks.rest_moveTo (afterNone?_suffix found)
    · rename_i found
      rw [found]
      exact rest_skipWhile _ _

theorem afterString_leavesAbreast (delimited : Delimited far) :
    LeavesAbreast (',' :: behind) far afterString := by
  intro text
  have refuses : Refuses (!isTokenEnd ·) := ⟨by decide, by decide⟩
  by_cases quoted : ∃ body, text = '"' :: body
  · obtain ⟨body, rfl⟩ := quoted
    exact scanQuoted_leavesAbreast (',' :: behind) far (by simp) body
  · have noQuote : ∀ behind : List Char, Delimited behind →
        ∀ body, text ++ behind ≠ '"' :: body := by
      intro behind delimited body same
      cases text with
      | nil =>
          obtain ⟨mark, tail, rfl, isMark⟩ := delimited
          injection same with here
          rcases isMark with rfl | rfl <;> cases here
      | cons head text =>
          injection same with here
          exact quoted ⟨text, by rw [here]⟩
    have left := fun (behind : List Char) (delimited : Delimited behind) =>
      (afterString_of_ne (noQuote behind delimited)).trans (by
        rw [afterNone?_delimited delimited,
          dropWhile_delimited refuses delimited])
    refine .inl
      ⟨(afterNone? text).getD (text.dropWhile (!isTokenEnd ·)), ?_, ?_⟩
    · rw [left _ (delimited_comma behind)]
      cases afterNone? text <;> rfl
    · rw [left _ delimited]
      cases afterNone? text <;> rfl

theorem lockstep_readString (delimited : Delimited far) :
    Lockstep behind far (fun c => c.readString.2) fun c => c.readString.2 := by
  intro left right abreast
  obtain ⟨text, unread, unread'⟩ := abreast.skipBlanks delimited
  unfold Abreast
  rw [rest_readString, rest_readString, unread, unread']
  rcases afterString_leavesAbreast delimited text with still | passed
  · exact .inl still
  · exact .inr (Nat.le_of_lt_succ passed)

theorem lockstep_readToken {bare : Cursor → String × Cursor}
    (steps : Lockstep behind far (fun c => (bare c).2) fun c => (bare c).2)
    (delimited : Delimited far) :
    Lockstep behind far (fun c => (c.readToken bare).2)
      fun c => (c.readToken bare).2 := by
  intro left right abreast
  have start := abreast.skipBlanks delimited
  have same : left.skipBlanks.peek? = some '"' ↔
      right.skipBlanks.peek? = some '"' :=
    start.peek?_iff delimited (by decide) (by decide)
  by_cases quoted : left.skipBlanks.peek? = some '"'
  · simp only [readToken, quoted, same.mp quoted, if_true]
    exact lockstep_readString delimited _ _ start
  · have unquoted : ¬right.skipBlanks.peek? = some '"' :=
      fun found => quoted (same.mpr found)
    simp only [readToken, quoted, unquoted, if_false]
    exact steps _ _ start

theorem lockstep_readBool (delimited : Delimited far) :
    Lockstep behind far (fun c => c.readBool.2) fun c => c.readBool.2 := by
  have bare : Lockstep behind far
      (fun c => (c.readBare isTokenEndOrBlank).2)
      fun c => (c.readBare isTokenEndOrBlank).2 := by
    intro left right abreast
    exact .inl (abreast.readBare _ ⟨by decide, by decide⟩ delimited)
  have token := lockstep_readToken bare delimited
  have same : ∀ c : Cursor, c.readBool.2.rest =
      (c.readToken (Cursor.readBare isTokenEndOrBlank)).2.rest := by
    intro c
    unfold readBool
    dsimp only
    split
    · rfl
    · split <;> rfl
  exact token.of_rest same same

theorem Abreast.rejectNumber {left right : Cursor}
    (abreast : Abreast behind far left right) (delimited : Delimited far)
    (read read' : List Char) :
    Abreast behind far (left.rejectNumber read)
      (right.rejectNumber read') :=
  abreast.readBare isTokenEndOrBlank ⟨by decide, by decide⟩ delimited

theorem Abreast.isGlued_eq {left right : Cursor}
    (abreast : Abreast behind far left right) (delimited : Delimited far) :
    left.isGlued = right.isGlued := by
  obtain ⟨text, unread, unread'⟩ := abreast
  obtain ⟨mark, tail, rfl, isMark⟩ := delimited
  simp only [isGlued, unread, unread']
  cases text with
  | nil => rcases isMark with rfl | rfl <;> rfl
  | cons head text => rfl

theorem lockstep_readNumeral (delimited : Delimited far) :
    Lockstep behind far (fun c => c.readNumeral.2)
      fun c => c.readNumeral.2 := by
  intro left right abreast
  have start := abreast.skipBlanks delimited
  obtain ⟨text, unread, unread'⟩ := start
  simp only [readNumeral]
  rw [unread, unread', scan?_delimited (delimited_comma behind),
    scan?_delimited delimited]
  cases Numeral.scan? text with
  | none =>
      exact .inl (Abreast.rejectNumber ⟨text, unread, unread'⟩ delimited [] [])
  | some found =>
      have after : Abreast behind far
          (left.skipBlanks.moveTo (found.2 ++ ',' :: behind))
          (right.skipBlanks.moveTo (found.2 ++ far)) :=
        ⟨_, rest_moveTo_append unread, rest_moveTo_append unread'⟩
      have glued := after.isGlued_eq delimited
      simp only [Option.map_some, glued]
      split
      · exact .inl (after.rejectNumber delimited _ _)
      · exact .inl after

theorem lockstep_readInt (delimited : Delimited far) :
    Lockstep behind far (fun c => c.readInt.2) fun c => c.readInt.2 := by
  have same : ∀ c : Cursor, c.readInt.2.rest = c.readNumeral.2.rest := by
    intro c
    rw [readInt]
    cases c.readNumeral with
    | mk numeral after =>
        cases numeral with
        | none => rfl
        | some numeral =>
            dsimp only
            split <;> rfl
  exact (lockstep_readNumeral delimited).of_rest same same

theorem lockstep_readDouble (delimited : Delimited far) :
    Lockstep behind far (fun c => c.readDouble.2) fun c => c.readDouble.2 := by
  have same : ∀ c : Cursor, c.readDouble.2.rest = c.readNumeral.2.rest := by
    intro c
    rw [readDouble]
    cases c.readNumeral with
    | mk numeral after => cases numeral <;> rfl
  exact (lockstep_readNumeral delimited).of_rest same same

theorem lockstep_readVariant (names : Enumeration)
    (delimited : Delimited far) :
    Lockstep behind far (fun c => (c.readVariant names).2)
      fun c => (c.readVariant names).2 := by
  have word : Lockstep behind far (fun c => c.readWord.2)
      fun c => c.readWord.2 := by
    intro left right abreast
    exact .inl (abreast.skipWhile isWord ⟨by decide, by decide⟩ delimited)
  have same : ∀ c : Cursor, (c.readVariant names).2.rest =
      (c.readToken readWord).2.rest := by
    intro c
    unfold readVariant
    dsimp only
    split <;> rfl
  exact (lockstep_readToken word delimited).of_rest same same

/-! ### Lists and references -/

/-- Stepping over an item that consumed nothing keeps cursors abreast too. -/
theorem Abreast.progress {left right after after' : Cursor}
    (abreast : Abreast behind far left right)
    (visible : ∃ head tail, left.rest = head :: tail ++ ',' :: behind)
    (moved : Abreast behind far after after') :
    Abreast behind far (left.progress after) (right.progress after') := by
  obtain ⟨text, unread, unread'⟩ := abreast
  obtain ⟨rest, unmoved, unmoved'⟩ := moved
  obtain ⟨head, tail, shape⟩ := visible
  have same : text = head :: tail :=
    List.append_cancel_right (unread.symm.trans shape)
  subst same
  have lengths : after.rest.length < left.rest.length ↔
      after'.rest.length < right.rest.length := by
    simp only [unread, unread', unmoved, unmoved', List.length_append]
    omega
  unfold Cursor.progress
  by_cases less : after.rest.length < left.rest.length
  · rw [if_pos less, if_pos (lengths.mp less)]
    exact ⟨rest, unmoved, unmoved'⟩
  · rw [if_neg less, if_neg fun more => less (lengths.mpr more)]
    exact ⟨tail, by simp [unread], by simp [unread']⟩

theorem lockstep_readItems {α : Type}
    {item item' : Cursor → Option α × Cursor}
    (steps : Lockstep behind far (fun c => (item c).2) fun c => (item' c).2)
    (forward : ∀ c : Cursor, c.Reaches (item c).2)
    (delimited : Delimited far) :
    Lockstep behind far (fun c => (readItems item c).2)
      fun c => (readItems item' c).2 := by
  intro left right abreast
  have start := abreast.skipBlanks delimited
  obtain ⟨text, unread, unread'⟩ := start
  have shorter := left.reaches_skipBlanks.length_le
  cases text with
  | nil =>
      -- The list goes on behind the comma.
      have comma := listStep_of_cons item unread
      rw [if_neg (by decide), if_pos rfl] at comma
      have further := (reaches_readItems forward
        left.skipBlanks.next).length_le
      refine .inr ?_
      dsimp only
      rw [readItems_of_continued comma]
      rw [rest_next, unread] at further
      exact further
  | cons next text =>
      have step := listStep_of_cons item unread
      have step' := listStep_of_cons item' unread'
      have moved : Abreast behind far left.skipBlanks.next
          right.skipBlanks.next := by
        refine ⟨text, ?_, ?_⟩
        · rw [rest_next, unread]
          rfl
        · rw [rest_next, unread']
          rfl
      have less : left.skipBlanks.next.rest.length < left.rest.length := by
        rw [rest_next, unread]
        rw [unread] at shorter
        exact shorter
      dsimp only
      by_cases close : next = ']'
      · rw [if_pos close] at step step'
        rw [readItems_of_finished step, readItems_of_finished step']
        exact .inl moved
      · rw [if_neg close] at step step'
        by_cases comma : next = ','
        · rw [if_pos comma] at step step'
          rw [readItems_of_continued step, readItems_of_continued step']
          exact lockstep_readItems steps forward delimited _ _ moved
        · rw [if_neg comma] at step step'
          by_cases ends : next = ')' ∨ next = ';'
          · rw [if_pos ends] at step step'
            rw [readItems_of_finished step, readItems_of_finished step']
            exact .inl ⟨next :: text, unread, unread'⟩
          · rw [if_neg ends] at step step'
            rw [readItems_of_continued step, readItems_of_continued step']
            rcases steps _ _ ⟨next :: text, unread, unread'⟩ with still | passed
            · have less := progress_length_lt (item left.skipBlanks).2
                (by rw [unread]; simp)
              exact lockstep_readItems steps forward delimited _ _
                (Abreast.progress ⟨next :: text, unread, unread'⟩
                  ⟨next, text, unread⟩ still)
            · -- An item that passes the comma takes the list with it.
              dsimp only at passed
              have stays : left.skipBlanks.progress (item left.skipBlanks).2 =
                  (item left.skipBlanks).2 := by
                rw [Cursor.progress, if_pos]
                rw [unread]
                simp only [List.cons_append, List.length_cons,
                  List.length_append]
                omega
              rw [stays]
              exact .inr (Nat.le_trans
                (reaches_readItems forward _).length_le passed)
termination_by left => left.rest.length
decreasing_by
  · exact less
  · exact Nat.lt_of_lt_of_le less shorter

theorem lockstep_readList {α : Type}
    {item item' : Cursor → Option α × Cursor}
    (steps : Lockstep behind far (fun c => (item c).2) fun c => (item' c).2)
    (forward : ∀ c : Cursor, c.Reaches (item c).2)
    (delimited : Delimited far) :
    Lockstep behind far (fun c => (readList item c).2)
      fun c => (readList item' c).2 := by
  intro left right abreast
  have start := abreast.skipBlanks delimited
  have same : left.skipBlanks.peek? = some '[' ↔
      right.skipBlanks.peek? = some '[' :=
    start.peek?_iff delimited (by decide) (by decide)
  by_cases opened : left.skipBlanks.peek? = some '['
  · simp only [readList, opened, same.mp opened, if_true]
    apply lockstep_readItems steps forward delimited
    obtain ⟨text, unread, unread'⟩ := start
    cases text with
    | nil =>
        rw [peek?, unread] at opened
        cases opened
    | cons head text =>
        refine ⟨text, ?_, ?_⟩
        · rw [rest_next, unread]
          rfl
        · rw [rest_next, unread']
          rfl
  · have unopened : ¬right.skipBlanks.peek? = some '[' :=
      fun found => opened (same.mpr found)
    simp only [readList, opened, unopened, if_false]
    exact .inl start

theorem rest_resolveReference (objects : ObjectTable)
    (className token : String) (c : Cursor) :
    (c.resolveReference objects className token).2.rest = c.rest := by
  unfold resolveReference
  split
  · rfl
  · split
    · rfl
    · split
      · rfl
      · split <;> rfl

theorem lockstep_readReferenceToken (delimited : Delimited far) :
    Lockstep behind far (fun c => c.readReferenceToken.2)
      fun c => c.readReferenceToken.2 := by
  intro left right abreast
  exact .inl ((abreast.skipBlanks delimited).readBare isTokenEndOrBlank
    ⟨by decide, by decide⟩ delimited)

theorem rest_readReference (objects : ObjectTable) (className : String)
    (c : Cursor) :
    (c.readReference objects className).2.rest =
      c.readReferenceToken.2.rest := by
  unfold readReference
  dsimp only
  split
  · rfl
  · exact rest_resolveReference _ _ _ _

theorem rest_readReferenceItem (objects : ObjectTable) (className : String)
    (c : Cursor) :
    (c.readReferenceItem objects className).2.rest =
      c.readReferenceToken.2.rest := by
  unfold readReferenceItem
  dsimp only
  split
  · rfl
  · exact rest_resolveReference _ _ _ _

theorem lockstep_unlessEnd {α : Type} {read read' : Cursor → α × Cursor}
    (steps : Lockstep behind far (fun c => (read c).2) fun c => (read' c).2)
    (value : α → Option Value) (delimited : Delimited far) :
    Lockstep behind far
      (fun c => (c.unlessEnd fun c => (read c).map value id).2)
      fun c => (c.unlessEnd fun c => (read' c).map value id).2 := by
  intro left right abreast
  have start := abreast.skipBlanks delimited
  obtain ⟨text, unread, unread'⟩ := start
  obtain ⟨mark, tail, rfl, _⟩ := delimited
  have some : left.skipBlanks.rest.isEmpty = false := by
    rw [unread]
    simp
  have some' : right.skipBlanks.rest.isEmpty = false := by
    rw [unread']
    simp
  simp only [unlessEnd, some, some', Bool.false_eq_true, if_false]
  exact steps _ _ ⟨text, unread, unread'⟩

/-- Values are read in lockstep, whatever objects are known. -/
theorem lockstep_readValue (objects objects' : ObjectTable)
    (type : ValueType) (delimited : Delimited far) :
    Lockstep behind far (fun c => (c.readValue objects type).2)
      fun c => (c.readValue objects' type).2 := by
  induction type with
  | string =>
      exact lockstep_unlessEnd (lockstep_readString delimited) _ delimited
  | bool => exact lockstep_unlessEnd (lockstep_readBool delimited) _ delimited
  | int => exact lockstep_unlessEnd (lockstep_readInt delimited) _ delimited
  | double =>
      exact lockstep_unlessEnd (lockstep_readDouble delimited) _ delimited
  | enumeration names =>
      exact lockstep_unlessEnd (lockstep_readVariant names delimited) _
        delimited
  | array element induction =>
      exact lockstep_unlessEnd (lockstep_readList induction
        (reaches_readValue objects element) delimited) _ delimited
  | reference className =>
      exact lockstep_unlessEnd ((lockstep_readReferenceToken delimited).of_rest
        (rest_readReference objects className)
        (rest_readReference objects' className)) _ delimited
  | references className =>
      exact lockstep_unlessEnd (lockstep_readList
        ((lockstep_readReferenceToken delimited).of_rest
          (rest_readReferenceItem objects className)
          (rest_readReferenceItem objects' className))
        (reaches_readReferenceItem objects className) delimited) _ delimited

end

end Cursor

end GridScript
