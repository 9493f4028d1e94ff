import GridScript.Proofs.Characters

/-!
# Numerals that are written and read back

A well-formed numeral is scanned off the front of any text whose continuation
ends a token.  Integers and finite doubles are written as well-formed
numerals; the other doubles are written as words that are no numerals.
-/

namespace GridScript

open Cursor (isTokenEndOrBlank)

/-! ### Decimal digits -/

theorem decimalDigits_ne_nil (n : Nat) : decimalDigits n ≠ [] :=
  Nat.toDigits_ne_nil

theorem isDecimalDigit_of_mem_decimalDigits {n : Nat} {c : Char}
    (member : c ∈ decimalDigits n) : isDecimalDigit c = true := by
  have digit : c.isDigit = true :=
    Nat.isDigit_of_mem_toDigits (by decide) (by decide) member
  simpa [Char.isDigit, isDecimalDigit, Char.le_def] using digit

theorem digitsValue_decimalDigits (n : Nat) :
    digitsValue (decimalDigits n) = n :=
  Nat.ofDigitChars_ten_toDigits

theorem toList_natText (n : Nat) : (natText n).toList = decimalDigits n :=
  String.toList_ofList

private theorem all_isDecimalDigit_decimalDigits (n : Nat) :
    (decimalDigits n).all isDecimalDigit = true := by
  rw [List.all_eq_true]
  intro c member
  exact isDecimalDigit_of_mem_decimalDigits member

private theorem isEmpty_decimalDigits (n : Nat) :
    (decimalDigits n).isEmpty = false := by
  cases digits : decimalDigits n with
  | nil => exact absurd digits (decimalDigits_ne_nil n)
  | cons head tail => rfl

/-- The first of the digits is neither sign. -/
private theorem exists_cons_decimalDigits (n : Nat) :
    ∃ head tail, decimalDigits n = head :: tail ∧ head ≠ '-' ∧ head ≠ '+' := by
  cases digits : decimalDigits n with
  | nil => exact absurd digits (decimalDigits_ne_nil n)
  | cons head tail =>
      have digit : isDecimalDigit head = true :=
        isDecimalDigit_of_mem_decimalDigits (n := n) (by simp [digits])
      refine ⟨head, tail, rfl, ?_, ?_⟩
      · rintro rfl
        exact absurd digit (by decide)
      · rintro rfl
        exact absurd digit (by decide)

theorem parseInteger?_decimalDigits (n : Nat) :
    parseInteger? (decimalDigits n) = some (n : Int) := by
  obtain ⟨head, tail, digits, noMinus, noPlus⟩ := exists_cons_decimalDigits n
  have all := all_isDecimalDigit_decimalDigits n
  have value := digitsValue_decimalDigits n
  rw [digits] at all value ⊢
  unfold parseInteger?
  split
  · rename_i rest same
    injection same with first _
    exact absurd first noMinus
  · rename_i rest same
    injection same with first _
    exact absurd first noPlus
  · simp [all, value]

theorem parseInteger?_intText (i : Int) :
    parseInteger? (intText i).toList = some i := by
  cases i with
  | ofNat n =>
      simp only [intText, toList_natText]
      exact parseInteger?_decimalDigits n
  | negSucc n =>
      have all := all_isDecimalDigit_decimalDigits (n + 1)
      have some := isEmpty_decimalDigits (n + 1)
      have value := digitsValue_decimalDigits (n + 1)
      simp only [intText, String.toList_append, toList_natText]
      change parseInteger? ('-' :: decimalDigits (n + 1)) = _
      simp only [parseInteger?, some, all, value, Bool.not_true, Bool.or_self,
        Bool.false_eq_true, if_false]
      rfl

theorem parseInt64?_intText {i : Int} (inside : InInt64 i) :
    parseInt64? (intText i).toList = some i := by
  simp [parseInt64?, parseInteger?_intText, inside]

theorem parseNat64?_decimalDigits {n : Nat} (inside : n < 0x10000000000000000) :
    parseNat64? (decimalDigits n) = some n := by
  obtain ⟨head, tail, digits, noMinus, _⟩ := exists_cons_decimalDigits n
  have parsed := parseInteger?_decimalDigits n
  rw [digits] at parsed ⊢
  unfold parseNat64?
  split
  · rename_i rest same
    injection same with first _
    exact absurd first noMinus
  · simp [parsed, inside]

/-! ### Scanning numerals -/

namespace Numeral

/-- A sign, if there is one, is a plus or a minus. -/
def IsSign (sign : List Char) : Prop :=
  sign = [] ∨ sign = ['+'] ∨ sign = ['-']

/-- Decimal digits, at least one. -/
def IsDigits (digits : List Char) : Prop :=
  digits ≠ [] ∧ ∀ c ∈ digits, isDecimalDigit c = true

/-- The parts of a numeral are what they should be, and there are digits
before the point. -/
structure WellFormed (n : Numeral) : Prop where
  sign : IsSign n.sign
  whole : IsDigits n.whole
  fraction : ∀ digits, n.fraction = some digits →
    ∀ c ∈ digits, isDecimalDigit c = true
  exponent : ∀ e, n.exponent = some e →
    (e.letter = 'e' ∨ e.letter = 'E') ∧ IsSign e.sign ∧ IsDigits e.digits

private theorem not_isDecimalDigit_of_endsToken {c : Char}
    (ends : isTokenEndOrBlank c = true) : isDecimalDigit c = false := by
  cases digit : isDecimalDigit c with
  | false => rfl
  | true =>
      have word := isWord_of_isDecimalDigit digit
      simp [isWord_eq_false_of_ends ends] at word

theorem splitDigits_append {digits rest : List Char}
    (all : ∀ c ∈ digits, isDecimalDigit c = true)
    (stops : ∀ c, rest.head? = some c → isDecimalDigit c = false) :
    splitDigits (digits ++ rest) = (digits, rest) := by
  obtain ⟨taken, dropped⟩ := takeWhile_token all stops
  simp only [splitDigits, taken, dropped]

theorem splitSign_append {sign digits : List Char} (rest : List Char)
    (isSign : IsSign sign) (isDigits : IsDigits digits) :
    splitSign (sign ++ (digits ++ rest)) = (sign, digits ++ rest) := by
  obtain ⟨someDigits, all⟩ := isDigits
  cases digits with
  | nil => exact absurd rfl someDigits
  | cons head tail =>
      have digit := all head (by simp)
      rcases isSign with rfl | rfl | rfl
      · rw [List.nil_append, List.cons_append]
        unfold splitSign
        split
        · rename_i same
          injection same with first _
          subst first
          exact absurd digit (by decide)
        · rename_i same
          injection same with first _
          subst first
          exact absurd digit (by decide)
        · rfl
      · rfl
      · rfl

/-- The point and the digits after it, if there is a point. -/
def fractionText : Option (List Char) → List Char
  | none => []
  | some digits => '.' :: digits

/-- The exponent as written, if there is one. -/
def exponentText : Option NumeralExponent → List Char
  | none => []
  | some exponent => exponent.text

theorem text_eq (n : Numeral) :
    n.text = n.sign ++ (n.whole ++
      (fractionText n.fraction ++ exponentText n.exponent)) := by
  obtain ⟨sign, whole, fraction, exponent⟩ := n
  cases fraction <;> cases exponent <;>
    simp [text, fractionText, exponentText]

/-- No digit and no point follows the digits of a mantissa. -/
private theorem stops_exponentText {exponent : Option NumeralExponent}
    {rest : List Char} (ends : EndsToken rest)
    (letters : ∀ e, exponent = some e → e.letter = 'e' ∨ e.letter = 'E') :
    ∀ c, (exponentText exponent ++ rest).head? = some c →
      isDecimalDigit c = false ∧ c ≠ '.' := by
  intro c found
  cases exponent with
  | none =>
      have ends := ends c found
      refine ⟨not_isDecimalDigit_of_endsToken ends, ?_⟩
      rintro rfl
      exact absurd ends (by decide)
  | some e =>
      have same : e.letter = c := by
        simpa [exponentText, NumeralExponent.text] using found
      rcases letters e rfl with letter | letter
      · rw [← same, letter]
        decide
      · rw [← same, letter]
        decide

theorem scanExponent?_append {exponent : Option NumeralExponent}
    {rest : List Char} (ends : EndsToken rest)
    (wellFormed : ∀ e, exponent = some e →
      (e.letter = 'e' ∨ e.letter = 'E') ∧ IsSign e.sign ∧ IsDigits e.digits) :
    scanExponent? (exponentText exponent ++ rest) = some (exponent, rest) := by
  cases exponent with
  | none =>
      rw [exponentText, List.nil_append]
      cases rest with
      | nil => rfl
      | cons head tail =>
          have noLetter : (head == 'e' || head == 'E') = false := by
            rw [Bool.or_eq_false_iff, beq_eq_false_iff_ne, beq_eq_false_iff_ne]
            constructor <;> rintro rfl <;> exact absurd (ends _ rfl) (by decide)
          simp [scanExponent?, noLetter]
  | some e =>
      obtain ⟨letter, isSign, isDigits⟩ := wellFormed e rfl
      have split := splitSign_append rest isSign isDigits
      have digits : splitDigits (e.digits ++ rest) = (e.digits, rest) := by
        apply splitDigits_append isDigits.2
        intro c found
        exact not_isDecimalDigit_of_endsToken (ends c found)
      have isLetter : (e.letter == 'e' || e.letter == 'E') = true := by
        simpa using letter
      have someDigits : e.digits.isEmpty = false := by
        simpa using isDigits.1
      simp only [exponentText, NumeralExponent.text, List.cons_append,
        List.append_assoc, scanExponent?, isLetter, if_true, split, digits,
        someDigits, Bool.false_eq_true, if_false]

theorem scanMantissa?_append {whole : List Char}
    {fraction : Option (List Char)} {rest : List Char}
    (isWhole : IsDigits whole)
    (isFraction : ∀ digits, fraction = some digits →
      ∀ c ∈ digits, isDecimalDigit c = true)
    (stops : ∀ c, rest.head? = some c → isDecimalDigit c = false ∧ c ≠ '.') :
    scanMantissa? (whole ++ (fractionText fraction ++ rest)) =
      some (whole, fraction, rest) := by
  have someWhole : whole.isEmpty = false := by
    simpa using isWhole.1
  cases fraction with
  | none =>
      have split : splitDigits (whole ++ rest) = (whole, rest) :=
        splitDigits_append isWhole.2 fun c found => (stops c found).1
      rw [fractionText, List.nil_append]
      unfold scanMantissa?
      rw [split]
      dsimp only
      split
      · rename_i afterPoint
        exact absurd rfl (stops '.' rfl).2
      · simp [someWhole]
  | some digits =>
      have split : splitDigits (whole ++ '.' :: (digits ++ rest)) =
          (whole, '.' :: (digits ++ rest)) := by
        apply splitDigits_append isWhole.2
        intro c found
        cases found
        decide
      have splitFraction : splitDigits (digits ++ rest) = (digits, rest) :=
        splitDigits_append (isFraction digits rfl) fun c found =>
          (stops c found).1
      rw [fractionText, List.cons_append]
      unfold scanMantissa?
      simp [split, splitFraction, someWhole]

/-- A well-formed numeral is scanned off the front of a text that goes on with
the end of a token. -/
theorem scan?_text {n : Numeral} (wellFormed : n.WellFormed)
    {rest : List Char} (ends : EndsToken rest) :
    scan? (n.text ++ rest) = some (n, rest) := by
  have letters : ∀ e, n.exponent = some e → e.letter = 'e' ∨ e.letter = 'E' :=
    fun e found => (wellFormed.exponent e found).1
  have signed := splitSign_append
    (fractionText n.fraction ++ (exponentText n.exponent ++ rest))
    wellFormed.sign wellFormed.whole
  have mantissa := scanMantissa?_append wellFormed.whole wellFormed.fraction
    (stops_exponentText ends letters)
  have scanned := scanExponent?_append ends wellFormed.exponent
  rw [text_eq]
  simp only [List.append_assoc]
  unfold scan?
  simp only [signed, mantissa, scanned, Option.bind_eq_bind, Option.bind_some,
    Option.pure_def]

theorem isSign_splitSign (text : List Char) : IsSign (splitSign text).1 := by
  unfold splitSign
  split
  · exact .inr (.inl rfl)
  · exact .inr (.inr rfl)
  · exact .inl rfl

theorem isDecimalDigit_of_mem_splitDigits {text : List Char} {c : Char}
    (member : c ∈ (splitDigits text).1) : isDecimalDigit c = true :=
  List.all_eq_true.mp List.all_takeWhile c member

theorem isDecimalDigit_of_scanMantissa? {text whole rest : List Char}
    {fraction : Option (List Char)}
    (found : scanMantissa? text = some (whole, fraction, rest)) :
    (∀ c ∈ whole, isDecimalDigit c = true) ∧
      ∀ digits, fraction = some digits →
        ∀ c ∈ digits, isDecimalDigit c = true := by
  unfold scanMantissa? at found
  dsimp only at found
  split at found
  · obtain ⟨_, same⟩ := Option.ite_none_left_eq_some.mp found
    cases same
    refine ⟨fun c => isDecimalDigit_of_mem_splitDigits, ?_⟩
    rintro digits ⟨⟩ c member
    exact isDecimalDigit_of_mem_splitDigits member
  · obtain ⟨_, same⟩ := Option.ite_none_left_eq_some.mp found
    cases same
    refine ⟨fun c => isDecimalDigit_of_mem_splitDigits, ?_⟩
    intro digits none
    cases none

theorem isDigits_of_scanExponent? {text rest : List Char}
    {exponent : Option NumeralExponent}
    (found : scanExponent? text = some (exponent, rest)) :
    ∀ e, exponent = some e →
      (e.letter = 'e' ∨ e.letter = 'E') ∧ IsSign e.sign ∧
        IsDigits e.digits := by
  unfold scanExponent? at found
  split at found
  · cases found
    intro e none
    cases none
  · split at found
    · rename_i isLetter
      dsimp only at found
      obtain ⟨some, same⟩ := Option.ite_none_left_eq_some.mp found
      cases same
      rintro e ⟨⟩
      exact ⟨by simpa using isLetter, isSign_splitSign _,
        fun none => some (List.isEmpty_iff.mpr none),
        fun c => isDecimalDigit_of_mem_splitDigits⟩
    · cases found
      intro e none
      cases none

/-- The numeral with a zero in front of it. -/
def padded (n : Numeral) : Numeral :=
  { n with whole := '0' :: n.whole }

/-- A numeral that was scanned may begin with its point; behind a zero it is
well-formed. -/
theorem wellFormed_padded {text rest : List Char} {n : Numeral}
    (found : scan? text = some (n, rest)) : n.padded.WellFormed := by
  simp only [scan?, Option.bind_eq_bind, Option.bind_eq_some_iff] at found
  obtain ⟨⟨whole, fraction, middle⟩, mantissa, ⟨exponent, last⟩, ends, same⟩ :=
    found
  cases same
  obtain ⟨wholeDigits, fractionDigits⟩ :=
    isDecimalDigit_of_scanMantissa? mantissa
  refine ⟨isSign_splitSign text, ⟨List.cons_ne_nil _ _, ?_⟩, fractionDigits,
    isDigits_of_scanExponent? ends⟩
  intro c member
  rcases List.mem_cons.mp member with rfl | inside
  · decide
  · exact wholeDigits c inside

theorem toBinary64_padded (n : Numeral) : n.padded.toBinary64 = n.toBinary64 :=
  rfl

/-- The numeral that an integer is written as. -/
def ofInt : Int → Numeral
  | .ofNat n => ⟨[], decimalDigits n, none, none⟩
  | .negSucc n => ⟨['-'], decimalDigits (n + 1), none, none⟩

theorem text_ofInt (i : Int) : (ofInt i).text = (intText i).toList := by
  cases i with
  | ofNat n => simp [ofInt, text, intText, toList_natText]
  | negSucc n => simp [ofInt, text, intText, toList_natText]

theorem isDigits_decimalDigits (n : Nat) : IsDigits (decimalDigits n) :=
  ⟨decimalDigits_ne_nil n, fun _ member =>
    isDecimalDigit_of_mem_decimalDigits member⟩

theorem wellFormed_ofInt (i : Int) : (ofInt i).WellFormed := by
  cases i with
  | ofNat n =>
      exact ⟨.inl rfl, isDigits_decimalDigits n, nofun, nofun⟩
  | negSucc n =>
      exact ⟨.inr (.inr rfl), isDigits_decimalDigits (n + 1), nofun, nofun⟩

end Numeral

/-! ### Doubles -/

namespace Binary64

/-- The exponent that an integer is written as behind the letter. -/
private def exponentOf (i : Int) : NumeralExponent :=
  ⟨'e', (Numeral.ofInt i).sign, (Numeral.ofInt i).whole⟩

private theorem text_exponentOf (i : Int) :
    (exponentOf i).text = 'e' :: (intText i).toList := by
  rw [← Numeral.text_ofInt]
  cases i <;> simp [exponentOf, NumeralExponent.text, Numeral.ofInt,
    Numeral.text]

private theorem value_exponentOf (i : Int) : (exponentOf i).value = i := by
  cases i with
  | ofNat n =>
      simp [exponentOf, NumeralExponent.value, Numeral.ofInt,
        digitsValue_decimalDigits]
  | negSucc n =>
      simp [exponentOf, NumeralExponent.value, Numeral.ofInt,
        digitsValue_decimalDigits, Int.negSucc_eq]

/-- A first digit, others and an exponent make a numeral.  It denotes the number
with these digits whose first digit stands at the place of the exponent. -/
private theorem exists_numeral_scientificText {sign digits : List Char}
    (exponent : Int) (isSign : Numeral.IsSign sign)
    (isDigits : Numeral.IsDigits digits) :
    ∃ n : Numeral, n.WellFormed ∧
      n.text = sign ++ scientificText digits exponent ∧
      n.toBinary64 = ofDecimal (sign == ['-']) (digitsValue digits)
        (exponent - (digits.length - 1 : Nat)) := by
  obtain ⟨someDigits, all⟩ := isDigits
  cases digits with
  | nil => exact absurd rfl someDigits
  | cons first others =>
      refine ⟨⟨sign, [first], some others, some (exponentOf exponent)⟩,
        ⟨isSign, ⟨by simp, ?_⟩, ?_, ?_⟩, ?_, ?_⟩
      · intro c member
        exact all c (by simp_all)
      · intro digits same c member
        cases same
        exact all c (by simp [member])
      · intro e same
        cases same
        have wellFormed := Numeral.wellFormed_ofInt exponent
        exact ⟨.inl rfl, wellFormed.sign, wellFormed.whole⟩
      · simp [Numeral.text, scientificText, text_exponentOf]
      · simp [Numeral.toBinary64, value_exponentOf]

private theorem isDigits_paddedDigits (width n : Nat) :
    Numeral.IsDigits (paddedDigits width n) := by
  constructor
  · simp [paddedDigits, decimalDigits_ne_nil]
  · intro c member
    simp only [paddedDigits, List.mem_append, List.mem_replicate] at member
    rcases member with ⟨_, rfl⟩ | member
    · decide
    · exact isDecimalDigit_of_mem_decimalDigits member

/-- Neither infinite nor what is not a number. -/
def isFinite (d : Binary64) : Bool :=
  !d.isNaN && !d.isInfinite

/-- A finite double is written as a numeral.  It denotes zero, or the rounded
magnitude, with the sign of the double. -/
theorem exists_numeral_scientific {d : Binary64} (finite : d.isFinite = true) :
    ∃ n : Numeral, n.WellFormed ∧ n.text = d.scientific.toList ∧
      n.toBinary64 =
        if d.isZero then ofParts d.isNegative 0
        else
          let rounded := roundSignificant scriptPlaces d.magnitudeRatio.1
            d.magnitudeRatio.2
          ofDecimal d.isNegative rounded.1
            (rounded.2 - ((decimalDigits rounded.1).length - 1 : Nat)) := by
  simp only [isFinite, Bool.and_eq_true, Bool.not_eq_true'] at finite
  obtain ⟨number, notInfinite⟩ := finite
  unfold scientific withSign
  simp only [number, notInfinite, Bool.false_eq_true, if_false,
    String.toList_ofList]
  have isSign : Numeral.IsSign (if d.isNegative then ['-'] else []) := by
    cases d.isNegative
    · exact .inl rfl
    · exact .inr (.inr rfl)
  have minus :
      ((if d.isNegative then ['-'] else []) == ['-']) = d.isNegative := by
    cases d.isNegative <;> rfl
  have signed : ∀ body : List Char,
      (if d.isNegative then '-' :: body else body) =
        (if d.isNegative then ['-'] else []) ++ body := by
    intro body
    cases d.isNegative <;> rfl
  rw [signed]
  by_cases zero : d.isZero = true
  · rw [if_pos zero, if_pos zero]
    have numeral := exists_numeral_scientificText 0 isSign
      (isDigits_paddedDigits (scriptPlaces + 1) 0)
    rwa [minus,
      show digitsValue (paddedDigits (scriptPlaces + 1) 0) = 0 from rfl]
      at numeral
  · rw [if_neg zero, if_neg zero]
    have numeral := exists_numeral_scientificText
      (roundSignificant scriptPlaces d.magnitudeRatio.1 d.magnitudeRatio.2).2
      isSign
      (Numeral.isDigits_decimalDigits
        (roundSignificant scriptPlaces d.magnitudeRatio.1 d.magnitudeRatio.2).1)
    rwa [minus, digitsValue_decimalDigits] at numeral

/-- A finite double is written as a numeral, any other as one of three words. -/
theorem scientific_cases (d : Binary64) :
    (d.isFinite = true ∧
      ∃ n : Numeral, n.WellFormed ∧ n.text = d.scientific.toList) ∨
    (d.isFinite = false ∧
      d.scientific.toList ∈ ["NaN".toList, "inf".toList, "-inf".toList]) := by
  by_cases finite : d.isFinite = true
  · obtain ⟨n, wellFormed, text, _⟩ := exists_numeral_scientific finite
    exact .inl ⟨finite, n, wellFormed, text⟩
  · right
    refine ⟨Bool.eq_false_iff.mpr finite, ?_⟩
    unfold scientific withSign
    dsimp only
    by_cases notNumber : d.isNaN = true
    · rw [if_pos notNumber]
      exact List.mem_cons_self
    · have infinite : d.isInfinite = true := by
        simpa [isFinite, notNumber] using finite
      rw [if_neg notNumber, String.toList_ofList, if_pos infinite]
      cases d.isNegative
      · exact .tail _ (.head _)
      · exact .tail _ (.tail _ (.head _))

end Binary64

end GridScript
