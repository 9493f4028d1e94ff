import GridScript.Proofs.Numerals
import GridScript.Proofs.Passing

/-!
# Which texts are integers

An integer is read by way of a numeral, which may have a point and an exponent
and is refused then.  What comes of it is a grammar of its own: the integer is
the longest run of a sign and digits, if there is a digit in it, its value fits
64 bits, and neither a word character nor a point is joined to it.  Every other
text costs one error.
-/

namespace GridScript

namespace Numeral

/-- A sign, if there is one, and decimal digits, if there are any. -/
def IsSigned (text : List Char) : Prop :=
  ∃ sign digits, text = sign ++ digits ∧ IsSign sign ∧
    ∀ c ∈ digits, isDecimalDigit c = true

/-- No more of the text than the lexeme at its front is a sign and digits. -/
structure IsLongestSigned (lexeme text : List Char) : Prop where
  isPrefix : lexeme <+: text
  isSigned : IsSigned lexeme
  longest : ∀ other, other <+: text → IsSigned other →
    other.length ≤ lexeme.length

/-- The lexeme is a sign, if there is one, and digits of this value. -/
def Denotes (lexeme : List Char) (value : Int) : Prop :=
  ∃ sign digits, lexeme = sign ++ digits ∧ IsSign sign ∧ IsDigits digits ∧
    value = if sign = ['-'] then -(digitsValue digits : Int)
      else digitsValue digits

/-- Neither a word character nor a point comes next. -/
def StandsApart (rest : List Char) : Prop :=
  ∀ c, rest.head? = some c → isWord c = false ∧ c ≠ '.'

theorem Denotes.isSigned {lexeme : List Char} {value : Int}
    (denotes : Denotes lexeme value) : IsSigned lexeme := by
  obtain ⟨sign, digits, split, isSign, isDigits, _⟩ := denotes
  exact ⟨sign, digits, split, isSign, isDigits.2⟩

/-! ### The longest run of a sign and digits -/

theorem splitSign_eq (text : List Char) :
    text = (splitSign text).1 ++ (splitSign text).2 := by
  unfold splitSign
  split <;> rfl

theorem splitDigits_eq (text : List Char) :
    text = (splitDigits text).1 ++ (splitDigits text).2 :=
  List.takeWhile_append_dropWhile.symm

theorem splitSign_of_ne_nil {sign : List Char} (rest : List Char)
    (isSign : IsSign sign) (some : sign ≠ []) :
    splitSign (sign ++ rest) = (sign, rest) := by
  rcases isSign with rfl | rfl | rfl
  · exact absurd rfl some
  · rfl
  · rfl

theorem exists_isLongestSigned (text : List Char) :
    ∃ lexeme rest, text = lexeme ++ rest ∧ IsLongestSigned lexeme text := by
  let digits := (splitDigits (splitSign text).2).1
  let rest := (splitDigits (splitSign text).2).2
  have whole : text = (splitSign text).1 ++ digits ++ rest := by
    rw [List.append_assoc, ← splitDigits_eq, ← splitSign_eq]
  refine ⟨(splitSign text).1 ++ digits, rest, whole, ⟨rest, whole.symm⟩,
    ⟨_, digits, rfl, isSign_splitSign text,
      fun c => isDecimalDigit_of_mem_splitDigits⟩, ?_⟩
  rintro _ ⟨more, split⟩ ⟨sign, others, rfl, isSign, all⟩
  -- Unless the other run is empty, its sign is the one that is split off.
  by_cases empty : sign = [] ∧ others = []
  · simp [empty]
  have signed : splitSign text = (sign, others ++ more) := by
    rw [← split, List.append_assoc]
    by_cases some : sign = []
    · exact splitSign_append more isSign
        ⟨fun none => empty ⟨some, none⟩, all⟩
    · exact splitSign_of_ne_nil (others ++ more) isSign some
  have fewer : others <+: digits := by
    simp only [digits, splitDigits, signed, List.takeWhile_append_of_pos all]
    exact List.prefix_append _ _
  have less := fewer.length_le
  simp only [signed, List.length_append]
  omega

theorem IsLongestSigned.eq {left right text : List Char}
    (first : IsLongestSigned left text) (second : IsLongestSigned right text) :
    left = right := by
  have shorter := second.longest left first.isPrefix first.isSigned
  have longer := first.longest right second.isPrefix second.isSigned
  exact (List.prefix_of_prefix_length_le first.isPrefix second.isPrefix
    shorter).eq_of_length_le longer

theorem IsSign.length_le {sign : List Char} (isSign : IsSign sign) :
    sign.length ≤ 1 := by
  rcases isSign with rfl | rfl | rfl <;> simp

/-- Behind its first character a run of a sign and digits has only digits. -/
theorem IsSigned.isDecimalDigit {front more : List Char} {next : Char}
    (signed : IsSigned (front ++ next :: more)) (some : front ≠ []) :
    isDecimalDigit next = true := by
  obtain ⟨sign, digits, split, isSign, all⟩ := signed
  have short := isSign.length_le
  have long := List.length_pos_iff.mpr some
  have here : (sign ++ digits)[front.length]? = Option.some next := by
    rw [← split, List.getElem?_append_right (Nat.le_refl _), Nat.sub_self]
    rfl
  rw [List.getElem?_append_right (by omega)] at here
  exact all next (List.mem_of_getElem? here)

theorem Denotes.ne_nil {lexeme : List Char} {value : Int}
    (denotes : Denotes lexeme value) : lexeme ≠ [] := by
  obtain ⟨sign, digits, rfl, _, isDigits, _⟩ := denotes
  simp [isDigits.1]

/-- An integer that nothing is joined to does not go on. -/
theorem Denotes.isLongestSigned {lexeme rest : List Char} {value : Int}
    (denotes : Denotes lexeme value) (apart : StandsApart rest) :
    IsLongestSigned lexeme (lexeme ++ rest) := by
  refine ⟨List.prefix_append _ _, denotes.isSigned, ?_⟩
  intro other isPrefix signed
  rcases Nat.le_total other.length lexeme.length with shorter | longer
  · exact shorter
  obtain ⟨tail, rfl⟩ := List.prefix_of_prefix_length_le
    (List.prefix_append lexeme rest) isPrefix longer
  cases tail with
  | nil => simp
  | cons next more =>
      obtain ⟨_, rfl⟩ := (List.prefix_append_right_inj lexeme).mp isPrefix
      have word := isWord_of_isDecimalDigit
        (signed.isDecimalDigit denotes.ne_nil)
      rw [(apart next rfl).1] at word
      cases word

/-! ### Numerals that are integers -/

theorem splitSign_of_unsigned {text : List Char}
    (noPlus : ∀ rest, text ≠ '+' :: rest)
    (noMinus : ∀ rest, text ≠ '-' :: rest) : splitSign text = ([], text) := by
  unfold splitSign
  split
  · exact absurd rfl (noPlus _)
  · exact absurd rfl (noMinus _)
  · rfl

theorem parseInteger?_eq (text : List Char) :
    parseInteger? text =
      if (splitSign text).2.isEmpty || !(splitSign text).2.all isDecimalDigit
      then none
      else some (if (splitSign text).1 = ['-']
        then -(digitsValue (splitSign text).2 : Int)
        else digitsValue (splitSign text).2) := by
  unfold parseInteger?
  split
  · rfl
  · rfl
  · rename_i noMinus noPlus
    rw [splitSign_of_unsigned (fun rest => noPlus rest)
      (fun rest => noMinus rest)]
    rfl

theorem parseInteger?_eq_some_iff {text : List Char} {value : Int} :
    parseInteger? text = some value ↔ Denotes text value := by
  rw [parseInteger?_eq, Option.ite_none_left_eq_some, Option.some.injEq]
  constructor
  · rintro ⟨digits, same⟩
    simp only [Bool.or_eq_true, List.isEmpty_iff, Bool.not_eq_true', not_or,
      Bool.not_eq_false, List.all_eq_true] at digits
    exact ⟨_, _, splitSign_eq text, isSign_splitSign text, digits, same.symm⟩
  · rintro ⟨sign, digits, rfl, isSign, isDigits, rfl⟩
    have signed := splitSign_append [] isSign isDigits
    rw [List.append_nil] at signed
    simpa [signed, isDigits.1] using isDigits.2

theorem toInt?_eq_some_iff {numeral : Numeral} {value : Int} :
    numeral.toInt? = some value ↔
      Denotes numeral.text value ∧ InInt64 value := by
  simp [toInt?, parseInt64?, Option.filter_eq_some_iff,
    parseInteger?_eq_some_iff]

theorem append_of_scanMantissa? {text whole rest : List Char}
    {fraction : Option (List Char)}
    (scanned : scanMantissa? text = some (whole, fraction, rest)) :
    text = whole ++ (fractionText fraction ++ rest) := by
  have digits := splitDigits_eq text
  unfold scanMantissa? at scanned
  dsimp only at scanned
  split at scanned
  · rename_i afterPoint shape
    obtain ⟨_, same⟩ := Option.ite_none_left_eq_some.mp scanned
    cases same
    rw [shape, splitDigits_eq afterPoint] at digits
    exact digits
  · obtain ⟨_, same⟩ := Option.ite_none_left_eq_some.mp scanned
    cases same
    exact digits

theorem append_of_scanExponent? {text rest : List Char}
    {exponent : Option NumeralExponent}
    (scanned : scanExponent? text = some (exponent, rest)) :
    text = exponentText exponent ++ rest := by
  unfold scanExponent? at scanned
  split at scanned
  · cases scanned
    rfl
  · rename_i letter tail
    split at scanned
    · dsimp only at scanned
      obtain ⟨_, same⟩ := Option.ite_none_left_eq_some.mp scanned
      cases same
      have behind := splitSign_eq tail
      rw [splitDigits_eq (splitSign tail).2] at behind
      simpa [exponentText, NumeralExponent.text] using behind
    · cases scanned
      rfl

/-- A numeral is scanned off the front of the text. -/
theorem append_of_scan? {text rest : List Char} {numeral : Numeral}
    (scanned : scan? text = some (numeral, rest)) :
    text = numeral.text ++ rest := by
  simp only [scan?, Option.bind_eq_bind, Option.bind_eq_some_iff] at scanned
  obtain ⟨⟨whole, fraction, middle⟩, mantissa, ⟨exponent, last⟩, ends, same⟩ :=
    scanned
  cases same
  rw [text_eq]
  simp only [List.append_assoc]
  rw [← append_of_scanExponent? ends, ← append_of_scanMantissa? mantissa,
    ← splitSign_eq]

/-- A sign and digits that nothing is joined to are scanned as a numeral. -/
theorem exists_scan?_of_denotes {lexeme rest : List Char} {value : Int}
    (denotes : Denotes lexeme value) (apart : StandsApart rest) :
    ∃ numeral, scan? (lexeme ++ rest) = some (numeral, rest) ∧
      numeral.text = lexeme := by
  obtain ⟨sign, digits, rfl, isSign, isDigits, _⟩ := denotes
  have stops : ∀ c, rest.head? = some c →
      isDecimalDigit c = false ∧ c ≠ '.' := by
    intro c found
    refine ⟨?_, (apart c found).2⟩
    rw [← Bool.not_eq_true]
    intro digit
    have word := isWord_of_isDecimalDigit digit
    rw [(apart c found).1] at word
    cases word
  have mantissa : scanMantissa? (digits ++ rest) = some (digits, none, rest) :=
    @scanMantissa?_append digits none rest isDigits nofun stops
  have exponent : scanExponent? rest = some (none, rest) := by
    cases rest with
    | nil => rfl
    | cons head tail =>
        have noWord := (apart head rfl).1
        have noLetter : (head == 'e' || head == 'E') = false := by
          rw [Bool.or_eq_false_iff, beq_eq_false_iff_ne, beq_eq_false_iff_ne]
          constructor <;> rintro rfl <;> exact absurd noWord (by decide)
        simp [scanExponent?, noLetter]
  refine ⟨⟨sign, digits, none, none⟩, ?_, by simp [text]⟩
  rw [List.append_assoc]
  simp only [scan?, splitSign_append rest isSign isDigits, mantissa, exponent,
    Option.bind_eq_bind, Option.bind_some, Option.pure_def]

end Numeral

namespace Cursor

open Numeral (Denotes IsLongestSigned StandsApart)

variable {c : Cursor}

/-! ### Reading -/

/-- One error is added, about a text that is no number. -/
def TurnsDown (before after : Cursor) : Prop :=
  ∃ text, after.diagnostics = before.diagnostics ++
    [⟨.error, after.line, .invalidNumber text, before.command,
      before.argument⟩]

theorem isGlued_eq_false_iff : c.isGlued = false ↔ StandsApart c.rest := by
  unfold isGlued
  split
  · rename_i unread
    simp [StandsApart, unread]
  · rename_i next rest unread
    simp [StandsApart, unread]

theorem readNumeral_of_scan? {numeral : Numeral} {rest : List Char}
    (scanned : Numeral.scan? c.skipBlanks.rest = some (numeral, rest))
    (apart : StandsApart rest) :
    c.readNumeral = (some numeral, c.skipBlanks.moveTo rest) := by
  have left : (c.skipBlanks.moveTo rest).rest = rest :=
    rest_moveTo _ ⟨_, (Numeral.append_of_scan? scanned).symm⟩
  have free : (c.skipBlanks.moveTo rest).isGlued = false :=
    isGlued_eq_false_iff.mpr (by rwa [left])
  simp only [readNumeral, scanned, free, Bool.false_eq_true, if_false]

/-- Either a numeral is read that nothing is joined to, or the text is
refused. -/
theorem cases_readNumeral (c : Cursor) :
    (∃ numeral rest,
      Numeral.scan? c.skipBlanks.rest = some (numeral, rest) ∧
      StandsApart rest ∧
      c.readNumeral = (some numeral, c.skipBlanks.moveTo rest)) ∨
    c.readNumeral.1 = none ∧ c.TurnsDown c.readNumeral.2 := by
  cases scanned : Numeral.scan? c.skipBlanks.rest with
  | none =>
      right
      simp only [readNumeral, scanned]
      exact ⟨trivial, _, rfl⟩
  | some parts =>
      obtain ⟨numeral, rest⟩ := parts
      by_cases glued : (c.skipBlanks.moveTo rest).isGlued = true
      · right
        simp only [readNumeral, scanned, glued, if_true]
        exact ⟨trivial, _, rfl⟩
      · left
        have left : (c.skipBlanks.moveTo rest).rest = rest :=
          rest_moveTo _ ⟨_, (Numeral.append_of_scan? scanned).symm⟩
        have apart := isGlued_eq_false_iff.mp (Bool.not_eq_true _ ▸ glued)
        rw [left] at apart
        exact ⟨numeral, rest, rfl, apart, readNumeral_of_scan? scanned apart⟩

/-- An integer of 64 bits that nothing is joined to is read. -/
theorem readInt_of_denotes {lexeme rest : List Char} {value : Int}
    (unread : c.skipBlanks.rest = lexeme ++ rest)
    (denotes : Denotes lexeme value) (inside : InInt64 value)
    (apart : StandsApart rest) :
    c.readInt = (some value, c.skipBlanks.moveTo rest) := by
  obtain ⟨numeral, scanned, rfl⟩ :=
    Numeral.exists_scan?_of_denotes denotes apart
  rw [← unread] at scanned
  have integer := Numeral.toInt?_eq_some_iff.mpr ⟨denotes, inside⟩
  simp only [readInt, readNumeral_of_scan? scanned apart, integer]

/-- Either an integer of 64 bits is read that nothing is joined to, or the text
is refused. -/
theorem cases_readInt (c : Cursor) :
    (∃ value lexeme rest, c.skipBlanks.rest = lexeme ++ rest ∧
      Denotes lexeme value ∧ InInt64 value ∧ StandsApart rest ∧
      c.readInt.1 = some value) ∨
    c.readInt.1 = none ∧ c.TurnsDown c.readInt.2 := by
  rcases cases_readNumeral c with
    ⟨numeral, rest, scanned, apart, read⟩ | ⟨none, refuses⟩
  · cases integer : numeral.toInt? with
    | some value =>
        obtain ⟨denotes, inside⟩ := Numeral.toInt?_eq_some_iff.mp integer
        refine .inl ⟨value, numeral.text, rest, Numeral.append_of_scan? scanned,
          denotes, inside, apart, ?_⟩
        simp only [readInt, read, integer]
    | none =>
        right
        simp only [readInt, read, integer]
        exact ⟨trivial, _, rfl⟩
  · obtain ⟨after, read⟩ : ∃ after, c.readNumeral = (Option.none, after) :=
      ⟨_, Prod.ext none rfl⟩
    rw [read] at refuses
    right
    simp only [readInt, read]
    exact ⟨trivial, refuses⟩

/-- Behind the blanks, the longest run of a sign and digits is read as the
integer that it denotes, and nothing more is consumed, exactly if it has a
digit, the integer fits 64 bits, and neither a word character nor a point comes
next.  Every other text adds one error, and no integer is read. -/
theorem readInt_reads_longest (c : Cursor) :
    ∃ lexeme rest, c.rest.dropWhile isBlank = lexeme ++ rest ∧
      IsLongestSigned lexeme (lexeme ++ rest) ∧
      (∀ value, c.readInt.1 = some value ↔
        Denotes lexeme value ∧ InInt64 value ∧ StandsApart rest) ∧
      (∀ value, c.readInt.1 = some value →
        c.readInt.2 = c.behind (c.rest.takeWhile isBlank ++ lexeme) rest) ∧
      (c.readInt.1 = none → c.TurnsDown c.readInt.2) := by
  obtain ⟨lexeme, rest, unread, isLongest⟩ :=
    Numeral.exists_isLongestSigned c.skipBlanks.rest
  rw [unread] at isLongest
  -- What is read is the longest run, for nothing is joined to it.
  have given : ∀ value, c.readInt.1 = some value →
      Denotes lexeme value ∧ InInt64 value ∧ StandsApart rest := by
    intro value read
    rcases cases_readInt c with
      ⟨other, found, behind, split, denotes, inside, apart, same⟩ | ⟨none, _⟩
    · rw [read] at same
      cases same
      have longest := denotes.isLongestSigned apart
      rw [← split, unread] at longest
      obtain rfl := longest.eq isLongest
      rw [unread] at split
      obtain rfl := List.append_cancel_left split
      exact ⟨denotes, inside, apart⟩
    · rw [read] at none
      cases none
  refine ⟨lexeme, rest, (rest_skipBlanks c).symm.trans unread, isLongest,
    fun value => ⟨given value, ?_⟩, ?_, ?_⟩
  · rintro ⟨denotes, inside, apart⟩
    rw [readInt_of_denotes unread denotes inside apart]
  · intro value read
    obtain ⟨denotes, inside, apart⟩ := given value read
    rw [readInt_of_denotes unread denotes inside apart, moveTo_eq_behind unread,
      c.skipBlanks_eq_behind.2, behind_behind]
  · intro none
    rcases cases_readInt c with ⟨_, _, _, _, _, _, _, read⟩ | ⟨_, refuses⟩
    · rw [none] at read
      cases read
    · exact refuses

end Cursor

end GridScript
