import GridScript.Proofs.Truncating
import GridScript.Proofs.Vocabulary

/-!
# Reading in silence and passing over

A command that is not understood is passed over without regard to the types of
its fields, by quotes and brackets alone.  Where the typed reader has nothing to
report the two agree: what it reads is passed over as far as it was read, and so
is a whole argument list.
-/

namespace GridScript

open Cursor (isTokenEndOrBlank scanQuoted)

namespace Skip

/-- A character that is passed over like any other. -/
def isPlain (c : Char) : Bool :=
  !([',', ')', '"', '(', '[', ']'].contains c)

theorem value_plain {c : Char} (plain : isPlain c = true) (depth : Nat)
    (rest : List Char) :
    value depth false (c :: rest) = value depth false rest := by
  simp only [isPlain, List.contains_cons, List.contains_nil, Bool.or_false,
    Bool.not_eq_true', Bool.or_eq_false_iff, beq_eq_false_iff_ne] at plain
  rw [value_bare]
  simp [plain]

theorem isPlain_of_isBlank {c : Char} (blank : isBlank c = true) :
    isPlain c = true := by
  have apart : ∀ other, isBlank other = false → c ≠ other := by
    rintro other visible rfl
    rw [visible] at blank
    cases blank
  simp [isPlain, apart ',' (by decide), apart ')' (by decide),
    apart '"' (by decide), apart '(' (by decide), apart '[' (by decide),
    apart ']' (by decide)]

theorem isPlain_of_isBare {c : Char} (bare : isBare c = true) :
    isPlain c = true := by
  have apart : ∀ other, isBare other = false → c ≠ other := by
    rintro other noBare rfl
    rw [noBare] at bare
    cases bare
  simp [isPlain, apart ',' (by decide), apart ')' (by decide),
    apart '"' (by decide), apart '(' (by decide), apart '[' (by decide),
    apart ']' (by decide)]

theorem isPlain_of_isWord {c : Char} (word : isWord c = true) :
    isPlain c = true :=
  isPlain_of_isBare (isBare_of_isWord word)

/-- Passing over the first text comes to the second one, however deep in
brackets it stands. -/
structure Over (before after : List Char) : Prop where
  suffix : after <:+ before
  same : ∀ depth, value depth false before = value depth false after

theorem Over.refl (text : List Char) : Over text text :=
  ⟨List.suffix_rfl, fun _ => rfl⟩

theorem Over.trans {first second third : List Char}
    (left : Over first second) (right : Over second third) :
    Over first third :=
  ⟨right.suffix.trans left.suffix,
    fun depth => (left.same depth).trans (right.same depth)⟩

theorem over_append {lexeme : List Char} (rest : List Char)
    (plain : ∀ c ∈ lexeme, isPlain c = true) : Over (lexeme ++ rest) rest := by
  refine ⟨List.suffix_append lexeme rest, fun depth => ?_⟩
  induction lexeme with
  | nil => rfl
  | cons head lexeme induction =>
      rw [List.cons_append, value_plain (plain head List.mem_cons_self)]
      exact induction fun c member => plain c (List.mem_cons_of_mem head member)

theorem over_cons {c : Char} (rest : List Char) (plain : isPlain c = true) :
    Over (c :: rest) rest :=
  @over_append [c] rest (by simpa using plain)

theorem over_dropWhile {test : Char → Bool}
    (plain : ∀ c, test c = true → isPlain c = true) (text : List Char) :
    Over text (text.dropWhile test) := by
  have passed := @over_append (text.takeWhile test) (text.dropWhile test)
    fun c member => plain c (List.all_eq_true.mp List.all_takeWhile c member)
  rw [List.takeWhile_append_dropWhile] at passed
  exact passed

theorem value_scanQuoted {body : List Char}
    (closed : (scanQuoted body).2.2 = true) (depth : Nat) :
    value depth true body = value depth false (scanQuoted body).2.1 := by
  fun_induction scanQuoted body with
  | case1 => cases closed
  | case2 rest => exact value_quoted_plain (by decide) depth rest
  | case3 => cases closed
  | case4 c rest _ induction => exact induction closed
  | case5 c rest noQuote noEnd noEscape _ induction =>
      have noBackslash : c ≠ '\\' := by
        rintro rfl
        cases rest with
        | nil => exact noEnd rfl rfl
        | cons next rest => exact noEscape next rest rfl rfl
      have other : (c != '"') = true := bne_iff_ne.mpr noQuote
      rw [value_quoted_plain noBackslash, other]
      exact induction closed

/-- A string is passed over from quote to quote. -/
theorem over_quoted {body : List Char}
    (closed : (scanQuoted body).2.2 = true) :
    Over ('"' :: body) (scanQuoted body).2.1 := by
  refine ⟨(scanQuoted_suffix body).trans (List.suffix_cons _ body), ?_⟩
  intro depth
  rw [value_bare, if_neg (by simp), if_pos rfl]
  exact value_scanQuoted closed depth

/-! ### Numerals -/

theorem isPlain_of_isDecimalDigit (c : Char) (digit : isDecimalDigit c = true) :
    isPlain c = true :=
  isPlain_of_isWord (isWord_of_isDecimalDigit digit)

theorem over_splitSign (text : List Char) :
    Over text (Numeral.splitSign text).2 := by
  unfold Numeral.splitSign
  split
  · exact over_cons _ (by decide)
  · exact over_cons _ (by decide)
  · exact .refl _

theorem over_splitDigits (text : List Char) :
    Over text (Numeral.splitDigits text).2 :=
  over_dropWhile isPlain_of_isDecimalDigit text

theorem over_scanMantissa? {text rest : List Char} {whole : List Char}
    {fraction : Option (List Char)}
    (found : Numeral.scanMantissa? text = some (whole, fraction, rest)) :
    Over text rest ∧ rest.length < text.length := by
  have digits := over_splitDigits text
  have count : (text.takeWhile isDecimalDigit).length +
      (text.dropWhile isDecimalDigit).length = text.length := by
    rw [← List.length_append, List.takeWhile_append_dropWhile]
  unfold Numeral.scanMantissa? at found
  simp only [Numeral.splitDigits] at found digits
  split at found
  · rename_i afterPoint shape
    have further := over_splitDigits afterPoint
    have shorter := further.suffix.length_le
    rw [shape] at digits count
    obtain ⟨_, same⟩ := Option.ite_none_left_eq_some.mp found
    cases same
    refine ⟨(digits.trans (over_cons afterPoint (by decide))).trans
      further, ?_⟩
    simp only [List.length_cons, Numeral.splitDigits] at count shorter
    omega
  · obtain ⟨some, same⟩ := Option.ite_none_left_eq_some.mp found
    cases same
    refine ⟨digits, ?_⟩
    have positive := List.length_pos_iff.mpr
      fun none => some (List.isEmpty_iff.mpr none)
    omega

theorem over_scanExponent? {text rest : List Char}
    {exponent : Option NumeralExponent}
    (found : Numeral.scanExponent? text = some (exponent, rest)) :
    Over text rest := by
  unfold Numeral.scanExponent? at found
  split at found
  · cases found
    exact .refl _
  · rename_i letter tail
    split at found
    · rename_i isLetter
      have plain : isPlain letter = true := by
        rcases (by simpa using isLetter : letter = 'e' ∨ letter = 'E')
          with rfl | rfl <;> decide
      dsimp only at found
      split at found
      · cases found
      · cases found
        exact ((over_cons tail plain).trans
          (over_splitSign tail)).trans (over_splitDigits _)
    · cases found
      exact .refl _

theorem over_scan? {text rest : List Char} {numeral : Numeral}
    (found : Numeral.scan? text = some (numeral, rest)) :
    Over text rest ∧ rest.length < text.length := by
  have sign := over_splitSign text
  simp only [Numeral.scan?, Option.bind_eq_bind, Option.bind_eq_some_iff]
    at found
  obtain ⟨⟨whole, fraction, middle⟩, mantissa, ⟨exponent, last⟩, ends, same⟩ :=
    found
  cases same
  obtain ⟨front, less⟩ := over_scanMantissa? mantissa
  have further := over_scanExponent? ends
  refine ⟨(sign.trans front).trans further, ?_⟩
  have first := sign.suffix.length_le
  have second := further.suffix.length_le
  dsimp only at second ⊢
  omega

end Skip

namespace Cursor

/-- Nothing is reported on the way from one cursor to the other. -/
def Silent (before after : Cursor) : Prop :=
  after.diagnostics = before.diagnostics

theorem Silent.halves {first second third : Cursor}
    (silent : first.Silent third) (left : first.Reaches second)
    (right : second.Reaches third) :
    first.Silent second ∧ second.Silent third := by
  have lengths := right.reported.length_le
  rw [silent] at lengths
  have same := left.reported.eq_of_length_le lengths
  exact ⟨same.symm, silent.trans same⟩

theorem not_silent_report {before c after : Cursor} (reached : before.Reaches c)
    {severity : Severity} {line : Nat} {problem : Problem}
    (further : (c.report severity line problem).Reaches after) :
    ¬before.Silent after := by
  intro silent
  obtain ⟨same, _⟩ := silent.halves (reached.trans (reaches_report _ _ _ _))
    further
  obtain ⟨_, added⟩ := Silent.halves same reached (reaches_report _ _ _ _)
  simp [Silent, report] at added

/-- What is read between two cursors is passed over as well.  It is not
nothing, unless a token could not have begun there. -/
structure PassedOver (before after : Cursor) : Prop where
  skipped : Skip.Over before.rest after.rest
  moved : after.rest.length < before.rest.length ∨ EndsToken before.rest

/-- Whatever is read in silence is passed over as well. -/
def Accords {α : Type} (read : Cursor → α × Cursor) : Prop :=
  ∀ c : Cursor, c.Silent (read c).2 → c.PassedOver (read c).2

theorem PassedOver.of_rest {before after other : Cursor}
    (passed : before.PassedOver after) (same : other.rest = after.rest) :
    before.PassedOver other := by
  obtain ⟨skipped, moved⟩ := passed
  rw [← same] at skipped moved
  exact ⟨skipped, moved⟩

theorem PassedOver.of_skipBlanks {c after : Cursor}
    (passed : c.skipBlanks.PassedOver after) : c.PassedOver after := by
  have blanks := Skip.over_dropWhile (fun _ => Skip.isPlain_of_isBlank) c.rest
  rw [← rest_skipBlanks] at blanks
  refine ⟨blanks.trans passed.skipped, ?_⟩
  have shorter := passed.skipped.suffix.length_le
  rcases Nat.lt_or_ge c.skipBlanks.rest.length c.rest.length with less | same
  · exact .inl (Nat.lt_of_le_of_lt shorter less)
  · rw [← c.reaches_skipBlanks.rest_eq same]
    exact passed.moved

theorem passedOver_advance {c : Cursor} {token rest : List Char}
    (unread : c.rest = token ++ rest)
    (plain : ∀ c ∈ token, Skip.isPlain c = true)
    (some : token ≠ [] ∨ EndsToken c.rest) :
    c.PassedOver (c.advance token.length) := by
  rw [advance_eq_behind unread]
  constructor
  · rw [rest_behind, unread]
    exact Skip.over_append rest plain
  · refine some.imp_left fun some => ?_
    have positive := List.length_pos_iff.mpr some
    rw [rest_behind, unread, List.length_append]
    omega

/-! ### Tokens -/

/-- A string is read in silence between two quotes, or as a bare `None`. -/
theorem cases_of_silent_readString {c : Cursor}
    (silent : c.Silent c.readString.2) :
    (∃ body, c.skipBlanks.rest = '"' :: body ∧ (scanQuoted body).2.2 = true ∧
      c.readString.2.rest = (scanQuoted body).2.1) ∨
    ∃ rest, c.skipBlanks.rest = ['N', 'o', 'n', 'e'] ++ rest ∧
      (∀ next, rest.head? = some next → isWord next = false) ∧
      c.readString.2.rest = rest := by
  have rest := rest_readString c
  by_cases quoted : ∃ body, c.skipBlanks.rest = '"' :: body
  · obtain ⟨body, opened⟩ := quoted
    rw [opened, afterString] at rest
    refine .inl ⟨body, opened, ?_, rest⟩
    simp only [readString, opened] at silent
    split at silent
    · assumption
    · exact absurd silent (not_silent_report
        (c.reaches_skipBlanks.trans (reaches_moveTo _ _)) (.refl _))
  · have noQuote : ∀ body, c.skipBlanks.rest ≠ '"' :: body :=
      fun body shape => quoted ⟨body, shape⟩
    rw [readString_of_ne noQuote] at silent
    rw [afterString_of_ne noQuote] at rest
    cases found : afterNone? c.skipBlanks.rest with
    | none =>
        rw [found] at silent
        exact absurd silent (not_silent_report c.reaches_skipBlanks
          (reaches_readBare _ _))
    | some remainder =>
        rw [found, Option.getD_some] at rest
        refine .inr ⟨remainder, ?_⟩
        unfold afterNone? at found
        split at found
        · rename_i tail shape
          split at found
          · cases found
          · rename_i noWord
            cases found
            refine ⟨shape, fun next first => ?_, rest⟩
            rw [first] at noWord
            simpa using noWord
        · cases found

theorem accords_readString : Accords readString := by
  intro c silent
  apply PassedOver.of_skipBlanks
  rcases cases_of_silent_readString silent with
    ⟨body, opened, closed, rest⟩ | ⟨remainder, word, _, rest⟩
  · have shorter := (scanQuoted_suffix body).length_le
    refine ⟨?_, .inl ?_⟩
    · rw [rest, opened]
      exact Skip.over_quoted closed
    · rw [rest, opened, List.length_cons]
      omega
  · refine ⟨?_, .inl ?_⟩
    · rw [rest, word]
      exact Skip.over_append remainder (List.all_eq_true.mp (by decide))
    · rw [rest, word, List.length_append]
      exact Nat.lt_add_of_pos_left (by decide)

/-- A token is passed over between quotes, and without them if its characters
are. -/
theorem passedOver_readToken {bare : Cursor → String × Cursor} {c : Cursor}
    (silent : c.Silent (c.readToken bare).2)
    (unquoted : c.readToken bare = bare c.skipBlanks →
      c.skipBlanks.PassedOver (bare c.skipBlanks).2) :
    c.PassedOver (c.readToken bare).2 := by
  apply PassedOver.of_skipBlanks
  unfold readToken at silent unquoted ⊢
  dsimp only at silent unquoted ⊢
  split
  · rename_i quoted
    rw [if_pos quoted] at silent
    exact accords_readString _ silent
  · rename_i noQuote
    rw [if_neg noQuote] at unquoted
    exact unquoted rfl

theorem isBlank_of_mem_takeWhile {text : List Char} {c : Char}
    (member : c ∈ text.takeWhile (!isTokenEndOrBlank ·)) :
    isBlank c = false := by
  have visible := List.all_eq_true.mp List.all_takeWhile c member
  simp only [isTokenEndOrBlank, Bool.not_eq_true', Bool.or_eq_false_iff]
    at visible
  exact visible.2

theorem readBare_visible (c : Cursor) :
    c.readBare isTokenEndOrBlank =
      (String.ofList (c.rest.takeWhile (!isTokenEndOrBlank ·)),
        c.advance (c.rest.takeWhile (!isTokenEndOrBlank ·)).length) := by
  rw [readBare, trimBackChars_eq_self fun c => isBlank_of_mem_takeWhile]

theorem passedOver_readBare {c : Cursor}
    (plain : ∀ letter ∈ c.rest.takeWhile (!isTokenEndOrBlank ·),
      Skip.isPlain letter = true) :
    c.PassedOver (c.readBare isTokenEndOrBlank).2 := by
  rw [readBare_visible]
  refine passedOver_advance List.takeWhile_append_dropWhile.symm plain ?_
  by_cases none : c.rest.takeWhile (!isTokenEndOrBlank ·) = []
  · refine .inr fun head first => ?_
    obtain ⟨tail, shape⟩ := List.head?_eq_some_iff.mp first
    rw [shape, List.takeWhile_cons] at none
    split at none
    · cases none
    · rename_i stops
      simpa using stops
  · exact .inl none

theorem isPlain_of_foldCase {c : Char}
    (plain : Skip.isPlain (foldCase c) = true) : Skip.isPlain c = true := by
  by_cases same : foldCase c = c
  · rwa [same] at plain
  · have apart : ∀ other, foldCase other = other → c ≠ other := by
      rintro other kept rfl
      exact same kept
    simp [Skip.isPlain, apart ',' (by decide), apart ')' (by decide),
      apart '"' (by decide), apart '(' (by decide), apart '[' (by decide),
      apart ']' (by decide)]

theorem isPlain_of_sameUpToCase {token word : List Char}
    (same : sameUpToCase token word = true)
    (plain : ∀ c ∈ word.map foldCase, Skip.isPlain c = true) :
    ∀ c ∈ token, Skip.isPlain c = true := by
  intro c member
  apply isPlain_of_foldCase
  apply plain
  rw [← beq_iff_eq.mp same]
  exact List.mem_map_of_mem member

theorem eq_token_of_silent_readBool {c : Cursor}
    (silent : c.Silent c.readBool.2) :
    c.readBool.2 = (c.readToken (readBare isTokenEndOrBlank)).2 ∧
      (sameUpToCase (c.readToken (readBare isTokenEndOrBlank)).1.toList
          "true".toList = true ∨
        sameUpToCase (c.readToken (readBare isTokenEndOrBlank)).1.toList
          "false".toList = true) := by
  have forward := c.reaches_readToken (reaches_readBare isTokenEndOrBlank)
  unfold readBool at silent ⊢
  dsimp only at silent ⊢
  split
  · rename_i isTrue
    exact ⟨rfl, .inl isTrue⟩
  · rename_i noTrue
    rw [if_neg noTrue] at silent
    split
    · rename_i isFalse
      exact ⟨rfl, .inr isFalse⟩
    · rename_i noFalse
      rw [if_neg noFalse] at silent
      exact absurd silent (not_silent_report forward (.refl _))

theorem accords_readBool : Accords readBool := by
  intro c silent
  obtain ⟨token, word⟩ := eq_token_of_silent_readBool silent
  rw [token] at silent ⊢
  refine passedOver_readToken silent fun same => passedOver_readBare ?_
  rw [same, readBare_visible, String.toList_ofList] at word
  rcases word with isTrue | isFalse
  · exact isPlain_of_sameUpToCase isTrue (List.all_eq_true.mp (by decide))
  · exact isPlain_of_sameUpToCase isFalse (List.all_eq_true.mp (by decide))

theorem not_silent_rejectNumber {before c : Cursor}
    (reached : before.Reaches c) (read : List Char) :
    ¬before.Silent (c.rejectNumber read) :=
  not_silent_report (reached.trans (reaches_readBare _ _)) (.refl _)

theorem eq_some_of_silent_readNumeral {c : Cursor}
    (silent : c.Silent c.readNumeral.2) :
    ∃ numeral remainder,
      Numeral.scan? c.skipBlanks.rest = some (numeral, remainder) ∧
      (c.skipBlanks.moveTo remainder).isGlued = false ∧
      c.readNumeral = (some numeral, c.skipBlanks.moveTo remainder) := by
  unfold readNumeral at silent ⊢
  dsimp only at silent ⊢
  cases found : Numeral.scan? c.skipBlanks.rest with
  | none =>
      rw [found] at silent
      exact absurd silent (not_silent_rejectNumber c.reaches_skipBlanks _)
  | some read =>
      obtain ⟨numeral, remainder⟩ := read
      rw [found] at silent
      dsimp only at silent ⊢
      refine ⟨numeral, remainder, rfl, ?_⟩
      split
      · rename_i glued
        rw [if_pos glued] at silent
        exact absurd silent (not_silent_rejectNumber
          (c.reaches_skipBlanks.trans (reaches_moveTo _ _)) _)
      · rename_i free
        exact ⟨by simpa using free, rfl⟩

theorem accords_readNumeral : Accords readNumeral := by
  intro c silent
  apply PassedOver.of_skipBlanks
  obtain ⟨numeral, remainder, found, _, read⟩ :=
    eq_some_of_silent_readNumeral silent
  obtain ⟨skipped, less⟩ := Skip.over_scan? found
  have rest := c.skipBlanks.rest_moveTo skipped.suffix
  rw [read]
  refine ⟨?_, .inl ?_⟩
  · rw [rest]
    exact skipped
  · rw [rest]
    exact less

theorem eq_some_of_silent_readInt {c : Cursor} (silent : c.Silent c.readInt.2) :
    c.Silent c.readNumeral.2 ∧
      ∃ value, c.readInt = (some value, c.readNumeral.2) := by
  have forward := c.reaches_readNumeral
  have numeral := @eq_some_of_silent_readNumeral c
  unfold readInt at silent ⊢
  split at silent <;> rename_i read <;> rw [read] at forward numeral ⊢
  · obtain ⟨_, _, _, _, same⟩ := numeral silent
    cases same
  · split at silent
    · rename_i value _
      exact ⟨silent, value, rfl⟩
    · exact absurd silent (not_silent_report forward (.refl _))

theorem accords_readInt : Accords readInt := by
  intro c silent
  obtain ⟨numeral, value, read⟩ := eq_some_of_silent_readInt silent
  rw [read]
  exact accords_readNumeral c numeral

theorem eq_some_of_silent_readDouble {c : Cursor}
    (silent : c.Silent c.readDouble.2) :
    c.Silent c.readNumeral.2 ∧ ∃ numeral, c.readNumeral.1 = some numeral ∧
      c.readDouble = (some numeral.toBinary64, c.readNumeral.2) := by
  have numeral := @eq_some_of_silent_readNumeral c
  unfold readDouble at silent ⊢
  split at silent <;> rename_i read <;> rw [read] at numeral ⊢
  · obtain ⟨_, _, _, _, same⟩ := numeral silent
    cases same
  · exact ⟨silent, _, rfl, rfl⟩

theorem accords_readDouble : Accords readDouble := by
  intro c silent
  obtain ⟨numeral, _, _, read⟩ := eq_some_of_silent_readDouble silent
  rw [read]
  exact accords_readNumeral c numeral

theorem eq_some_of_silent_readVariant {names : Enumeration} {c : Cursor}
    (silent : c.Silent (c.readVariant names).2) :
    ∃ name, names.resolve? (c.readToken readWord).1 = some name ∧
      c.readVariant names = (some name, (c.readToken readWord).2) := by
  have forward := c.reaches_readToken reaches_readWord
  unfold readVariant at silent ⊢
  dsimp only at silent ⊢
  cases found : names.resolve? (c.readToken readWord).1 with
  | none =>
      rw [found] at silent
      exact absurd silent (not_silent_report forward (.refl _))
  | some name => exact ⟨name, rfl, rfl⟩

theorem accords_readVariant {names : Enumeration}
    (words : ∀ name ∈ names.variants, IsWordText name) :
    Accords (readVariant names) := by
  intro c silent
  obtain ⟨name, found, read⟩ := eq_some_of_silent_readVariant silent
  have plain : ∀ letter ∈ c.skipBlanks.rest.takeWhile isWord,
      Skip.isPlain letter = true := fun letter member =>
    Skip.isPlain_of_isWord (List.all_eq_true.mp List.all_takeWhile _ member)
  rw [read] at silent ⊢
  refine passedOver_readToken silent fun same => ?_
  refine passedOver_advance List.takeWhile_append_dropWhile.symm plain
    (.inl ?_)
  -- The variant is not empty, so neither is the word it was found by.
  have token : name = String.ofList (c.skipBlanks.rest.takeWhile isWord) := by
    rw [same] at found
    have equal := List.find?_some found
    exact beq_iff_eq.mp equal
  have some := (words name (List.mem_of_find?_eq_some found)).1
  rwa [token, String.toList_ofList] at some

/-! ### References -/

theorem isPlain_of_parseInteger? {digits : List Char} {value : Int}
    (parsed : parseInteger? digits = some value) :
    ∀ c ∈ digits, Skip.isPlain c = true := by
  have plain : ∀ {digits : List Char} {value other : Int},
      (if digits.isEmpty || !digits.all isDecimalDigit then none
        else some other) = some value →
      ∀ c ∈ digits, Skip.isPlain c = true := by
    intro digits value other found c member
    obtain ⟨all, _⟩ := Option.ite_none_left_eq_some.mp found
    simp only [Bool.or_eq_true, Bool.not_eq_true', not_or,
      Bool.not_eq_false] at all
    exact Skip.isPlain_of_isDecimalDigit c
      (List.all_eq_true.mp all.2 c member)
  unfold parseInteger? at parsed
  split at parsed
  · intro c member
    rcases List.mem_cons.mp member with rfl | later
    · decide
    · exact plain parsed c later
  · intro c member
    rcases List.mem_cons.mp member with rfl | later
    · decide
    · exact plain parsed c later
  · exact plain parsed

theorem isPlain_of_parseNat64? {digits : List Char} {value : Nat}
    (parsed : parseNat64? digits = some value) :
    ∀ c ∈ digits, Skip.isPlain c = true := by
  unfold parseNat64? at parsed
  split at parsed
  · cases parsed
  · obtain ⟨read, _⟩ := Option.filter_eq_some_iff.mp parsed
    obtain ⟨number, found, _⟩ := Option.map_eq_some_iff.mp read
    exact isPlain_of_parseInteger? found

theorem eq_append_of_splitAtFirst? {test : Char → Bool}
    {text front behind : List Char}
    (split : splitAtFirst? test text = some (front, behind)) :
    ∃ mark, test mark = true ∧ text = front ++ mark :: behind := by
  unfold splitAtFirst? at split
  split at split
  · cases split
  · rename_i mark after shape
    cases split
    refine ⟨mark, ?_, ?_⟩
    · have first := List.head?_dropWhile_not (!test ·) text
      rw [shape] at first
      simpa using first
    · rw [← shape, List.takeWhile_append_dropWhile]

/-- A token that is resolved in silence names a known object of the class, and
does so wherever it is read. -/
theorem eq_some_of_silent_resolveReference {objects : ObjectTable}
    {className token : String} {c : Cursor}
    (silent : c.Silent (c.resolveReference objects className token).2) :
    ∃ found number id, splitAtFirst? (· == ':') token.toList =
        some (found, number) ∧
      String.ofList (trimChars found) = className ∧
      parseNat64? (trimChars number) = some id ∧
      ∀ here : Cursor, here.resolveReference objects className token =
        (some ⟨className, id⟩, here) := by
  have rejected : ∀ severity line problem,
      ¬c.Silent (c.report severity line problem) := fun _ _ _ =>
    not_silent_report (.refl c) (.refl _)
  unfold resolveReference at silent ⊢
  cases split : splitAtFirst? (· == ':') token.toList with
  | none =>
      rw [split] at silent
      exact absurd silent (rejected _ _ _)
  | some parts =>
      obtain ⟨found, number⟩ := parts
      rw [split] at silent
      dsimp only at silent ⊢
      cases parsed : parseNat64? (trimChars number) with
      | none =>
          rw [parsed] at silent
          exact absurd silent (rejected _ _ _)
      | some id =>
          rw [parsed] at silent
          dsimp only at silent ⊢
          split at silent
          · exact absurd silent (rejected _ _ _)
          · rename_i sameClass
            split at silent
            · rename_i known
              refine ⟨found, number, id, rfl, Decidable.not_not.mp sameClass,
                parsed, fun here => ?_⟩
              rw [if_neg sameClass, if_pos known]
            · exact absurd silent (rejected _ _ _)

/-- A token that is resolved is a word, a colon and digits. -/
theorem isPlain_of_resolveReference {objects : ObjectTable}
    {className : String} (word : IsWordText className) {token : List Char}
    (visible : ∀ c ∈ token, isBlank c = false) {c : Cursor}
    (silent : c.Silent
      (c.resolveReference objects className (String.ofList token)).2) :
    ∀ c ∈ token, Skip.isPlain c = true := by
  obtain ⟨found, number, id, split, sameClass, parsed, _⟩ :=
    eq_some_of_silent_resolveReference silent
  rw [String.toList_ofList] at split
  obtain ⟨mark, isColon, rfl⟩ := eq_append_of_splitAtFirst? split
  have foundTrimmed : trimChars found = found :=
    trimChars_eq_self fun c member =>
      visible c (List.mem_append_left _ member)
  have numberTrimmed : trimChars number = number :=
    trimChars_eq_self fun c member =>
      visible c (List.mem_append_right _ (List.mem_cons_of_mem _ member))
  rw [foundTrimmed] at sameClass
  rw [numberTrimmed] at parsed
  rw [← sameClass] at word
  intro c member
  rcases List.mem_append.mp member with inClass | later
  · apply Skip.isPlain_of_isWord
    apply word.2
    rwa [String.toList_ofList]
  · rcases List.mem_cons.mp later with rfl | digit
    · rw [beq_iff_eq.mp isColon]
      decide
    · exact isPlain_of_parseNat64? parsed c digit

/-- The token of a reference is passed over, if it is empty or resolved. -/
theorem passedOver_readReferenceToken {objects : ObjectTable}
    {className : String} (word : IsWordText className) {c : Cursor}
    (silent : c.readReferenceToken.1.isEmpty = false →
      c.readReferenceToken.2.Silent (c.readReferenceToken.2.resolveReference
        objects className c.readReferenceToken.1).2) :
    c.PassedOver c.readReferenceToken.2 := by
  apply PassedOver.of_skipBlanks
  refine passedOver_readBare ?_
  unfold readReferenceToken at silent
  rw [readBare_visible] at silent
  cases empty : (String.ofList (c.skipBlanks.rest.takeWhile
      (!isTokenEndOrBlank ·))).isEmpty with
  | true =>
      rw [String.isEmpty_iff, ← String.toList_eq_nil_iff,
        String.toList_ofList] at empty
      intro letter member
      rw [empty] at member
      cases member
  | false =>
      exact isPlain_of_resolveReference word
        (fun letter => isBlank_of_mem_takeWhile) (silent empty)

theorem accords_readReference (objects : ObjectTable) {className : String}
    (word : IsWordText className) :
    Accords (readReference objects className) := by
  intro c silent
  have passed := @passedOver_readReferenceToken objects className word c (by
    intro some
    simp only [readReference, some, Bool.false_eq_true, if_false] at silent
    exact (silent.halves c.reaches_readReferenceToken
      (reaches_resolveReference _ _ _ _)).2)
  exact passed.of_rest (rest_readReference objects className c)

theorem accords_readReferenceItem (objects : ObjectTable) {className : String}
    (word : IsWordText className) :
    Accords (readReferenceItem objects className) := by
  intro c silent
  have passed := @passedOver_readReferenceToken objects className word c (by
    intro some
    simp only [readReferenceItem, some, Bool.false_eq_true, if_false] at silent
    exact (silent.halves c.reaches_readReferenceToken
      (reaches_resolveReference _ _ _ _)).2)
  exact passed.of_rest (rest_readReferenceItem objects className c)

/-! ### Lists -/

theorem over_skipBlanks (c : Cursor) : Skip.Over c.rest c.skipBlanks.rest := by
  rw [rest_skipBlanks]
  exact Skip.over_dropWhile (fun _ => Skip.isPlain_of_isBlank) c.rest

/-- A list that ends in silence ends with its bracket. -/
theorem closes_of_listStep_finished {α : Type}
    {item : Cursor → Option α × Cursor} {c after : Cursor}
    (step : listStep item c = .finished after) (silent : c.Silent after) :
    ∃ tail, c.skipBlanks.rest = ']' :: tail ∧ after = c.skipBlanks.next := by
  have rejected := fun line problem =>
    @not_silent_report c c.skipBlanks _ c.reaches_skipBlanks .error line problem
      (.refl _)
  cases shape : c.skipBlanks.rest with
  | nil =>
      simp only [listStep, shape] at step
      cases step
      exact absurd silent (rejected _ _)
  | cons head tail =>
      rw [listStep_of_cons item shape] at step
      split at step
      · rename_i close
        cases step
        exact ⟨tail, by rw [close], rfl⟩
      · split at step
        · cases step
        · split at step
          · cases step
            exact absurd silent (rejected _ _)
          · cases step

/-- A list goes on behind a comma, or behind an item that opens as a token. -/
theorem cases_of_listStep_continued {α : Type}
    {item : Cursor → Option α × Cursor} {c after : Cursor} {value : Option α}
    (step : listStep item c = .continued value after) :
    ((∃ tail, c.skipBlanks.rest = ',' :: tail) ∧ value = none ∧
      after = c.skipBlanks.next) ∨
    (OpensToken c.skipBlanks.rest ∧ value = (item c.skipBlanks).1 ∧
      after = c.skipBlanks.progress (item c.skipBlanks).2) := by
  cases shape : c.skipBlanks.rest with
  | nil =>
      simp only [listStep, shape] at step
      cases step
  | cons head tail =>
      have visible := visible_of_skipBlanks shape
      rw [listStep_of_cons item shape] at step
      split at step
      · cases step
      · rename_i noClose
        split at step
        · rename_i comma
          cases step
          exact .inl ⟨⟨tail, by rw [comma]⟩, rfl, rfl⟩
        · rename_i noComma
          split at step
          · cases step
          · rename_i noEnd
            cases step
            refine .inr ⟨⟨head, tail, rfl, ?_⟩, rfl, rfl⟩
            rw [not_or] at noEnd
            rw [Bool.eq_false_iff]
            intro stops
            rcases (by simpa [isTokenEndOrBlank, isTokenEnd, visible, noClose,
              noComma, noEnd] using stops : head = '\n' ∨ head = '\r')
              with rfl | rfl
            · exact absurd visible (by decide)
            · exact absurd visible (by decide)

theorem silent_of_progress {before c after : Cursor}
    (silent : before.Silent (c.progress after)) : before.Silent after := by
  unfold progress at silent
  split at silent <;> exact silent

/-- Inside the brackets commas and items are passed over. -/
theorem value_of_listStep_continued {α : Type}
    {item : Cursor → Option α × Cursor} (accords : Accords item)
    {c after : Cursor} {value : Option α}
    (step : listStep item c = .continued value after) (silent : c.Silent after)
    (depth : Nat) :
    Skip.value (depth + 1) false c.rest =
      Skip.value (depth + 1) false after.rest := by
  rw [c.over_skipBlanks.same]
  rcases cases_of_listStep_continued step with
    ⟨⟨tail, comma⟩, _, rfl⟩ | ⟨⟨head, tail, shape, opens⟩, _, rfl⟩
  · rw [rest_next, comma, List.tail_cons, value_bare]
    simp
  · obtain ⟨skipped, moved⟩ := accords _ (silent_of_progress silent)
    -- No token ends where the item begins, so that it cannot be empty.
    have some : ¬EndsToken c.skipBlanks.rest := by
      intro ends
      rw [ends head (by rw [shape]; rfl)] at opens
      cases opens
    rw [progress, if_pos (moved.resolve_right some)]
    exact skipped.same _

/-- The items of a list are passed over one level deeper, together with the
bracket that closes it. -/
theorem value_readItems {α : Type} {item : Cursor → Option α × Cursor}
    (forward : ∀ c : Cursor, c.Reaches (item c).2) (accords : Accords item)
    (c : Cursor) (silent : c.Silent (readItems item c).2) (depth : Nat) :
    Skip.value (depth + 1) false c.rest =
      Skip.value depth false (readItems item c).2.rest := by
  have reached := reaches_listStep forward c
  cases step : listStep item c with
  | finished after =>
      rw [readItems_of_finished step] at silent ⊢
      obtain ⟨tail, closed, rfl⟩ := closes_of_listStep_finished step silent
      rw [c.over_skipBlanks.same, rest_next, closed, List.tail_cons, value_bare]
      simp
  | continued value after =>
      have less := listStep_length_lt step
      rw [step] at reached
      rw [readItems_of_continued step] at silent ⊢
      obtain ⟨first, others⟩ := silent.halves reached
        (reaches_readItems forward after)
      rw [value_of_listStep_continued accords step first]
      exact value_readItems forward accords after others depth
termination_by c.rest.length

theorem eq_some_of_silent_readList {α : Type}
    {item : Cursor → Option α × Cursor} {c : Cursor}
    (silent : c.Silent (readList item c).2) :
    (∃ tail, c.skipBlanks.rest = '[' :: tail) ∧
      readList item c = (some (readItems item c.skipBlanks.next).1,
        (readItems item c.skipBlanks.next).2) := by
  unfold readList at silent ⊢
  dsimp only at silent ⊢
  split
  · rename_i opened
    exact ⟨List.head?_eq_some_iff.mp opened, rfl⟩
  · rename_i unopened
    rw [if_neg unopened] at silent
    exact absurd silent (not_silent_report c.reaches_skipBlanks (.refl _))

theorem accords_readList {α : Type} {item : Cursor → Option α × Cursor}
    (forward : ∀ c : Cursor, c.Reaches (item c).2) (accords : Accords item) :
    Accords (readList item) := by
  intro c silent
  apply PassedOver.of_skipBlanks
  obtain ⟨⟨tail, shape⟩, read⟩ := eq_some_of_silent_readList silent
  rw [read] at silent ⊢
  have items := value_readItems forward accords c.skipBlanks.next silent
  have suffix := (reaches_readItems forward c.skipBlanks.next).suffix
  rw [rest_next, shape, List.tail_cons] at items suffix
  refine ⟨⟨?_, ?_⟩, .inl ?_⟩
  · rw [shape]
    exact suffix.trans (List.suffix_cons _ tail)
  · intro depth
    rw [shape, value_bare, ← items]
    simp
  · rw [shape, List.length_cons]
    exact Nat.lt_succ_of_le suffix.length_le

theorem accords_unlessEnd {α : Type} {read : Cursor → α × Cursor}
    (accords : Accords read) (value : α → Option Value) :
    Accords (unlessEnd fun c => (read c).map value id) := by
  intro c silent
  apply PassedOver.of_skipBlanks
  unfold unlessEnd at silent ⊢
  dsimp only at silent ⊢
  split
  · rename_i done
    rw [if_pos done] at silent
    exact absurd silent (not_silent_report c.reaches_skipBlanks (.refl _))
  · rename_i unread
    rw [if_neg unread] at silent
    exact accords _ silent

/-- A value that is read in silence is passed over as well, if the names in its
type are words. -/
theorem accords_readValue (objects : ObjectTable) {type : ValueType}
    (words : type.hasWords = true) : Accords (readValue objects type) := by
  induction type with
  | string => exact accords_unlessEnd accords_readString _
  | bool => exact accords_unlessEnd accords_readBool _
  | int => exact accords_unlessEnd accords_readInt _
  | double => exact accords_unlessEnd accords_readDouble _
  | enumeration names =>
      refine accords_unlessEnd (accords_readVariant fun name member => ?_) _
      exact of_decide_eq_true (List.all_eq_true.mp words name member)
  | array element induction =>
      exact accords_unlessEnd (accords_readList
        (reaches_readValue objects element) (induction words)) _
  | reference className =>
      exact accords_unlessEnd
        (accords_readReference objects (of_decide_eq_true words)) _
  | references className =>
      exact accords_unlessEnd (accords_readList
        (reaches_readReferenceItem objects className)
        (accords_readReferenceItem objects (of_decide_eq_true words))) _

end Cursor

namespace Parser

open Cursor

/-! ### Argument lists -/

theorem over_identifier? {text word rest : List Char}
    (found : identifier? text = some (word, rest)) : Skip.Over text rest := by
  unfold identifier? at found
  split at found
  · cases found
  · rename_i head tail
    split at found
    · rename_i starts
      cases found
      have first := Skip.isPlain_of_isWord (isWord_of_isWordStart starts)
      exact (Skip.over_cons tail first).trans
        (Skip.over_dropWhile (fun _ => Skip.isPlain_of_isWord) tail)
    · cases found

theorem over_argumentName? {text rest : List Char} {name : ArgumentName}
    (found : argumentName? text = some (name, rest)) :
    Skip.Over text rest := by
  unfold argumentName? at found
  split at found
  · cases found
  · rename_i word behind isName
    have front := (over_identifier? isName).trans
      (Skip.over_dropWhile (fun _ blank =>
        Skip.isPlain_of_isBlank (isBlank_of_isPlainBlank blank)) behind)
    split at found
    · cases found
    · rename_i mark after shape
      rw [shape] at front
      split at found
      · rename_i equals
        cases found
        exact front.trans (Skip.over_cons _ (by rw [equals]; decide))
      · split at found
        · cases found
          exact front
        · cases found

theorem over_readField (objects : ObjectTable) {field : Field} {c : Cursor}
    {state : ArgumentList} (words : field.type.hasWords = true)
    (silent : c.Silent (readField objects field c state).cursor) :
    Skip.Over c.rest (readField objects field c state).cursor.rest := by
  rw [cursor_readField] at silent ⊢
  exact (accords_readValue objects words c silent).skipped

theorem over_readNamed (dialect : Dialect) (objects : ObjectTable)
    {found : ArgumentName} {c : Cursor} {state : ArgumentList}
    (words : ∀ field ∈ state.invocation.fields, field.type.hasWords = true)
    (silent : c.Silent (readNamed dialect objects found c state).cursor) :
    Skip.Over c.rest (readNamed dialect objects found c state).cursor.rest := by
  have reached := (c.reaches_inArgument found.name).trans
    (reaches_checkSeparator dialect found.equals _)
  have rest : (checkSeparator dialect found.equals
      (c.inArgument found.name)).rest = c.rest :=
    rest_checkSeparator dialect found.equals _
  unfold readNamed at silent ⊢
  dsimp only at silent ⊢
  rw [← rest]
  cases known : state.invocation.fields.find? (·.accepts found.name) with
  | none =>
      rw [known] at silent
      exact absurd silent (not_silent_report reached (reaches_skipArgument _))
  | some field =>
      rw [known] at silent
      dsimp only at silent ⊢
      split
      · rename_i scriptable
        rw [if_pos scriptable] at silent
        split
        · rename_i repeated
          rw [if_pos repeated] at silent
          exact absurd silent
            (not_silent_report reached (reaches_readField _ _ _ _))
        · rename_i first
          rw [if_neg first] at silent
          obtain ⟨_, within⟩ :=
            silent.halves reached (reaches_readField _ _ _ _)
          exact over_readField objects
            (words field (List.mem_of_find?_eq_some known)) within
      · rename_i internal
        rw [if_neg internal] at silent
        exact absurd silent
          (not_silent_report reached (reaches_skipArgument _))

theorem over_readPositional (dialect : Dialect) (objects : ObjectTable)
    {c : Cursor} {state : ArgumentList}
    (words : ∀ field ∈ state.invocation.fields, field.type.hasWords = true)
    (silent : c.Silent (readPositional dialect objects c state).cursor) :
    Skip.Over c.rest (readPositional dialect objects c state).cursor.rest := by
  have rejected : ∀ problem, ¬c.Silent (skipArgument (c.error problem)) :=
    fun _ => not_silent_report (.refl c) (reaches_skipArgument _)
  unfold readPositional at silent ⊢
  split
  · rename_i positional
    rw [if_pos positional] at silent
    cases isNext : positionalField? state with
    | none =>
        rw [isNext] at silent
        exact absurd silent (rejected _)
    | some field =>
        rw [isNext] at silent
        have member := (List.mem_filter.mp (List.mem_of_mem_drop
          (List.mem_of_find?_eq_some isNext))).1
        exact @over_readField objects field (c.inArgument field.name) _
          (words field member) silent
  · rename_i named
    rw [if_neg named] at silent
    exact absurd silent (rejected _)

/-- An argument that is read in silence is passed over as well. -/
theorem over_readArgument (dialect : Dialect) (objects : ObjectTable)
    {c : Cursor} {state : ArgumentList}
    (words : ∀ field ∈ state.invocation.fields, field.type.hasWords = true)
    (silent : c.Silent (readArgument dialect objects c state).cursor) :
    Skip.Over c.rest (readArgument dialect objects c state).cursor.rest := by
  unfold readArgument at silent ⊢
  cases named : argumentName? c.rest with
  | none =>
      rw [named] at silent
      exact over_readPositional dialect objects words silent
  | some found =>
      rw [named] at silent
      have name := over_argumentName? named
      have value := over_readNamed dialect objects words
        (silent.halves (c.reaches_moveTo found.2)
          (reaches_readNamed _ _ _ _ _)).2
      rw [c.rest_moveTo name.suffix] at value
      exact name.trans value

theorem arguments_eq (text : List Char) :
    Skip.arguments text =
      match Skip.argument text with
      | [] => []
      | c :: rest => if c = ')' then rest else Skip.arguments rest := by
  rw [Skip.arguments]
  split <;> rename_i left <;> rw [left]

theorem arguments_of_over {before after : List Char}
    (skipped : Skip.Over before after) :
    Skip.arguments before = Skip.arguments after := by
  rw [arguments_eq before, arguments_eq after, Skip.argument, Skip.argument,
    skipped.same]

theorem arguments_comma (tail : List Char) :
    Skip.arguments (',' :: tail) = Skip.arguments tail := by
  have stops : Skip.argument (',' :: tail) = ',' :: tail := by
    rw [Skip.argument, value_bare]
    simp
  rw [arguments_eq, stops]
  simp

theorem arguments_close (tail : List Char) :
    Skip.arguments (')' :: tail) = tail := by
  have stops : Skip.argument (')' :: tail) = ')' :: tail := by
    rw [Skip.argument, value_bare]
    simp
  rw [arguments_eq, stops]
  simp

theorem arguments_finishArgument {c : Cursor}
    (silent : c.Silent (finishArgument c)) :
    Skip.arguments c.rest = Skip.arguments (finishArgument c).rest := by
  rw [arguments_of_over c.over_skipBlanks]
  unfold finishArgument at silent ⊢
  dsimp only at silent ⊢
  cases shape : c.skipBlanks.rest with
  | nil => exact congrArg Skip.arguments shape.symm
  | cons next tail =>
      rw [shape] at silent
      dsimp only at silent ⊢
      split
      · rename_i comma
        rw [comma, arguments_comma]
        simp only [leaveArgument, rest_next, shape, List.tail_cons]
      · rename_i noComma
        rw [if_neg noComma] at silent
        split
        · exact congrArg Skip.arguments shape.symm
        · rename_i noClose
          rw [if_neg noClose] at silent
          exact absurd silent (not_silent_report c.reaches_skipBlanks
            (((reaches_skipArgument _).trans (reaches_skipComma _)).trans
              (reaches_leaveArgument _)))

/-- A step along an argument list that continues in silence does so in what is
passed over. -/
theorem arguments_of_continued {dialect : Dialect} {objects : ObjectTable}
    {start : Nat} {state next : ArgumentList}
    (words : ∀ field ∈ state.invocation.fields, field.type.hasWords = true)
    (step : argumentStep dialect objects start state = .continued next)
    (silent : state.cursor.Silent next.cursor) :
    Skip.arguments state.cursor.rest = Skip.arguments next.cursor.rest := by
  rw [arguments_of_over state.cursor.over_skipBlanks]
  unfold argumentStep at step
  dsimp only at step
  split at step
  · cases step
  · rename_i head tail shape
    split at step
    · cases step
    · split at step
      · rename_i comma
        cases step
        rw [shape, comma, arguments_comma, rest_next, shape, List.tail_cons]
      · cases step
        have forward := reaches_readArgument dialect objects
          state.cursor.skipBlanks state
        obtain ⟨read, finished⟩ := Silent.halves silent
          (state.cursor.reaches_skipBlanks.trans forward)
          (reaches_finishArgument _)
        rw [arguments_of_over (over_readArgument dialect objects words read)]
        exact arguments_finishArgument finished

/-- An argument list that is read in silence is passed over as well, to the same
end. -/
theorem arguments_readArguments {dialect : Dialect} {objects : ObjectTable}
    {start : Nat} (state : ArgumentList)
    (words : ∀ field ∈ state.invocation.fields, field.type.hasWords = true)
    (silent : state.cursor.Silent
      (readArguments dialect objects start state).2) :
    Skip.arguments state.cursor.rest =
      (readArguments dialect objects start state).2.rest := by
  have reached := reaches_argumentStep dialect objects start state
  cases step : argumentStep dialect objects start state with
  | finished after =>
      rw [readArguments_of_finished step] at silent ⊢
      rw [arguments_of_over state.cursor.over_skipBlanks]
      unfold argumentStep at step
      dsimp only at step
      split at step
      · cases step
        exact absurd silent
          (not_silent_report state.cursor.reaches_skipBlanks (.refl _))
      · rename_i head tail shape
        split at step
        · rename_i close
          cases step
          rw [shape, close, arguments_close, rest_next, shape, List.tail_cons]
        · split at step <;> cases step
  | continued next =>
      have less := argumentStep_length_lt step
      rw [step] at reached
      rw [readArguments_of_continued step] at silent ⊢
      obtain ⟨first, others⟩ := silent.halves reached
        (reaches_readArguments dialect objects start next)
      have fields : next.invocation.fields = state.invocation.fields := by
        rcases argumentStep_invocation step with same | sets
        · rw [same]
        · obtain ⟨_, _, _, _, _, _, _, same⟩ := sets
          rw [same]
          rfl
      rw [arguments_of_continued words step first]
      exact arguments_readArguments next (fields ▸ words) others
termination_by state.cursor.rest.length

end Parser

end GridScript
