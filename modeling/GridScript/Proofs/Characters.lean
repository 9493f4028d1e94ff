import GridScript.Value.Reader

/-!
# Characters of tokens

Word characters, blanks and the characters that end a token are apart from
each other.  A token written without quotes consists of bare characters, and
it is followed by a text that ends it.
-/

namespace GridScript

open Cursor (isTokenEndOrBlank)

private theorem eq_ofNat_of_toNat_eq {c : Char} {code : Nat}
    (same : c.toNat = code) : c = Char.ofNat code := by
  rw [← same, Char.ofNat_toNat]

private theorem isWord_ofNat_eq_false {code : Nat}
    (listed : code ∈ [9, 10, 11, 12, 13, 0x20, 0x85, 0xA0, 0x1680, 0x2000,
      0x2001, 0x2002, 0x2003, 0x2004, 0x2005, 0x2006, 0x2007, 0x2008, 0x2009,
      0x200A, 0x2028, 0x2029, 0x202F, 0x205F, 0x3000]) :
    isWord (Char.ofNat code) = false := by
  revert code
  decide +kernel

/-- A blank is no word character. -/
theorem isWord_eq_false_of_isBlank {c : Char} (blank : isBlank c = true) :
    isWord c = false := by
  rw [eq_ofNat_of_toNat_eq (c := c) rfl]
  apply isWord_ofNat_eq_false
  simp only [isBlank, Bool.or_eq_true, Bool.and_eq_true, decide_eq_true_eq,
    beq_iff_eq] at blank
  simp only [List.mem_cons, List.not_mem_nil, or_false]
  omega

theorem isBlank_eq_false_of_isWord {c : Char} (word : isWord c = true) :
    isBlank c = false := by
  cases blank : isBlank c with
  | false => rfl
  | true => simp [isWord_eq_false_of_isBlank blank] at word

theorem ne_of_isWord {c other : Char} (word : isWord c = true)
    (apart : isWord other = false) : c ≠ other := by
  rintro rfl
  simp [apart] at word

/-- A character of a token written without quotes: it does not end the token
and neither quotes nor nests. -/
def isBare (c : Char) : Bool :=
  !isTokenEndOrBlank c && c != '"' && c != '[' && c != '('

theorem isTokenEndOrBlank_of_isBare {c : Char} (bare : isBare c = true) :
    isTokenEndOrBlank c = false := by
  simp only [isBare, Bool.and_eq_true, Bool.not_eq_true'] at bare
  exact bare.1.1.1

theorem isBare_of_isWord {c : Char} (word : isWord c = true) :
    isBare c = true := by
  have apart : ∀ other, isWord other = false → (c == other) = false := by
    intro other noWord
    exact beq_eq_false_iff_ne.mpr (ne_of_isWord word noWord)
  simp only [isBare, isTokenEndOrBlank, isTokenEnd,
    isBlank_eq_false_of_isWord word, apart ',' (by decide),
    apart ')' (by decide), apart ']' (by decide), apart ';' (by decide),
    apart '\n' (by decide), apart '\r' (by decide), bne,
    apart '"' (by decide), apart '[' (by decide), apart '(' (by decide)]
  rfl

/-- What ends a token is no word character. -/
theorem isWord_eq_false_of_ends {c : Char}
    (ends : isTokenEndOrBlank c = true) : isWord c = false := by
  cases word : isWord c with
  | false => rfl
  | true =>
      rw [isTokenEndOrBlank_of_isBare (isBare_of_isWord word)] at ends
      cases ends

theorem isWord_of_isDecimalDigit {c : Char} (digit : isDecimalDigit c = true) :
    isWord c = true := by
  have bounds : 48 ≤ c.toNat ∧ c.toNat ≤ 57 := by
    simpa [isDecimalDigit, Char.le_def, UInt32.le_iff_toNat_le] using digit
  have ascii : c.toNat < 128 := by omega
  simp [isWord, isAlphanumeric, isNumeral, ascii, digit]

/-- Nothing follows, or a character that ends a token does. -/
def EndsToken (rest : List Char) : Prop :=
  ∀ c, rest.head? = some c → isTokenEndOrBlank c = true

theorem endsToken_nil : EndsToken [] := by
  intro c found
  cases found

theorem endsToken_cons {c : Char} {rest : List Char}
    (ends : isTokenEndOrBlank c = true) : EndsToken (c :: rest) := by
  intro head found
  cases found
  exact ends

/-- A run of spaces, tabs, carriage returns and newlines, or nothing at all. -/
def IsBlanks (text : List Char) : Prop :=
  ∀ c ∈ text, isPlainBlank c = true

instance (text : List Char) : Decidable (IsBlanks text) :=
  decidable_of_iff (text.all isPlainBlank = true) List.all_eq_true

theorem isBlanks_nil : IsBlanks [] := by
  intro c member
  cases member

/-- A run of white space of any kind, or nothing at all. -/
def IsSpace (text : List Char) : Prop :=
  ∀ c ∈ text, isBlank c = true

instance (text : List Char) : Decidable (IsSpace text) :=
  decidable_of_iff (text.all isBlank = true) List.all_eq_true

theorem IsSpace.append {left right : List Char} (isLeft : IsSpace left)
    (isRight : IsSpace right) : IsSpace (left ++ right) := by
  intro c member
  rcases List.mem_append.mp member with inLeft | inRight
  · exact isLeft c inLeft
  · exact isRight c inRight

theorem isBlank_of_isPlainBlank {c : Char} (blank : isPlainBlank c = true) :
    isBlank c = true := by
  simp only [isPlainBlank, Bool.or_eq_true, beq_iff_eq] at blank
  rcases blank with ((rfl | rfl) | rfl) | rfl <;> decide

theorem isPlainBlank_eq_false {c : Char} (visible : isBlank c = false) :
    isPlainBlank c = false := by
  rw [Bool.eq_false_iff]
  intro blank
  rw [isBlank_of_isPlainBlank blank] at visible
  cases visible

theorem IsBlanks.isSpace {text : List Char} (areBlanks : IsBlanks text) :
    IsSpace text :=
  fun c member => isBlank_of_isPlainBlank (areBlanks c member)

theorem endsToken_space {space rest : List Char} (isSpace : IsSpace space)
    (ends : EndsToken rest) : EndsToken (space ++ rest) := by
  cases space with
  | nil => exact ends
  | cons head tail =>
      apply endsToken_cons
      rw [isTokenEndOrBlank, isSpace head List.mem_cons_self, Bool.or_true]

theorem endsToken_blanks {blanks rest : List Char} (areBlanks : IsBlanks blanks)
    (ends : EndsToken rest) : EndsToken (blanks ++ rest) :=
  endsToken_space areBlanks.isSpace ends

/-- A token of characters that satisfy `test` is all that is taken, if what
follows does not satisfy it. -/
theorem takeWhile_token {test : Char → Bool} {token rest : List Char}
    (all : ∀ c ∈ token, test c = true)
    (stops : ∀ c, rest.head? = some c → test c = false) :
    (token ++ rest).takeWhile test = token ∧
      (token ++ rest).dropWhile test = rest := by
  rw [List.takeWhile_append_of_pos all, List.dropWhile_append_of_pos all]
  cases rest with
  | nil => simp
  | cons head tail =>
      have stop := stops head rfl
      simp [stop]

end GridScript
