import GridScript.Toml.Quoted

/-!
# Quoted texts are read back

A text is written between quotes or apostrophes, one or three on each side, as
its characters demand.  Whatever the characters are, the reader finds the same
text between the marks, and what follows the closing marks is left.
-/

namespace GridScript

namespace Toml

/-! ### Escapes -/

theorem toNat_lt_of_needsEscape {c : Char} (needs : needsEscape c = true) :
    c.toNat < 128 := by
  simp only [needsEscape, isPrintable, Bool.and_eq_true, Bool.not_eq_true',
    Bool.or_eq_false_iff, Bool.and_eq_false_iff, decide_eq_false_iff_not,
    bne_eq_false_iff_eq] at needs
  omega

/-- A character that has no other form is read from the four digits of its
code. -/
theorem escape?_hex {c : Char} (needs : needsEscape c = true)
    (rest : List Char) :
    escape? ('u' :: ((paddedHex 4 c.toNat).map Char.toUpper ++ rest)) =
      some (c, rest) := by
  have codes : ∀ n < 128, ((paddedHex 4 n).map Char.toUpper).length = 4 ∧
      charOfHex? ((paddedHex 4 n).map Char.toUpper) = some (Char.ofNat n) := by
    decide +kernel
  obtain ⟨four, value⟩ := codes c.toNat (toNat_lt_of_needsEscape needs)
  generalize (paddedHex 4 c.toNat).map Char.toUpper = digits at four value
  match digits, four with
  | [_, _, _, _], _ => simp [escape?, value]

theorem lineEnd?_eq_none {text : List Char}
    (noLine : ∀ c, text.head? = some c → c ≠ '\n' ∧ c ≠ '\r') :
    lineEnd? text = none := by
  unfold lineEnd?
  split
  · exact absurd rfl (noLine _ rfl).1
  · exact absurd rfl (noLine _ rfl).2
  · rfl

/-- No line ends where an escape begins. -/
theorem continuation?_eq_none {mark : Char} (visible : isSpace mark = false)
    (noLine : mark ≠ '\n' ∧ mark ≠ '\r') (rest : List Char) :
    continuation? (mark :: rest) = none := by
  have here : skipSpaces (mark :: rest) = mark :: rest :=
    List.dropWhile_cons_of_neg (by simp [visible])
  rw [continuation?, here, lineEnd?_eq_none]
  · rfl
  · rintro c ⟨⟩
    exact noLine

/-- The text behind a backslash that stands for the character. -/
def IsEscape (code : List Char) (c : Char) : Prop :=
  ∀ rest, escape? (code ++ rest) = some (c, rest) ∧
    continuation? (code ++ rest) = none

/-- What a character is written as: an escape that gives it back, or itself. -/
theorem escaped_cases (c : Char) :
    (∃ code, escaped c = '\\' :: code ∧ IsEscape code c) ∨
      (escaped c = [c] ∧ isPrintable c = true ∧ c ≠ '"' ∧ c ≠ '\\') := by
  by_cases short :
      c ∈ ['"', '\\', '\t', '\n', '\r', Char.ofNat 8, Char.ofNat 12]
  · left
    simp only [List.mem_cons, List.not_mem_nil, or_false] at short
    rcases short with rfl | rfl | rfl | rfl | rfl | rfl | rfl
    all_goals exact ⟨_, rfl, fun rest =>
      ⟨rfl, continuation?_eq_none (by decide) (by decide) rest⟩⟩
  · have notCode : ∀ {n : Nat}, c ≠ Char.ofNat n → c.toNat ≠ n := by
      rintro n differs rfl
      exact differs (Char.ofNat_toNat c).symm
    simp only [List.mem_cons, List.not_mem_nil, or_false, not_or] at short
    obtain ⟨noQuote, noBackslash, noTab, noNewline, noReturn, noEight,
      noTwelve⟩ := short
    simp only [escaped, noQuote, noBackslash, noTab, noNewline, noReturn,
      notCode noEight, notCode noTwelve, if_false]
    cases needs : needsEscape c with
    | true =>
        exact .inl ⟨_, rfl, fun rest => ⟨escape?_hex needs rest,
          continuation?_eq_none (by decide) (by decide) _⟩⟩
    | false =>
        refine .inr ⟨rfl, ?_, noQuote, noBackslash⟩
        simpa [needsEscape, noNewline] using needs

/-! ### One mark on each side -/

theorem readBasic_escaped (c : Char) (rest : List Char) :
    readBasic (escaped c ++ rest) =
      (readBasic rest).map fun (text, rest) => (c :: text, rest) := by
  rcases escaped_cases c with
    ⟨code, written, isEscape⟩ | ⟨written, printable, noQuote, noBackslash⟩
  · rw [written, List.cons_append, readBasic]
    split
    · rename_i none
      rw [(isEscape rest).1] at none
      cases none
    · rename_i found
      rw [(isEscape rest).1] at found
      cases found
      rfl
  · rw [written, List.singleton_append, readBasic]
    · simp [printable]
    · exact noQuote
    · exact noBackslash

/-- Between quotes any text is read back. -/
theorem readBasic_text (text rest : List Char) :
    readBasic (text.flatMap escaped ++ '"' :: rest) = some (text, rest) := by
  induction text with
  | nil => rw [List.flatMap_nil, List.nil_append, readBasic]
  | cons c text induction =>
      rw [List.flatMap_cons, List.append_assoc, readBasic_escaped, induction]
      rfl

theorem readLiteral_text {text : List Char}
    (plain : ∀ c ∈ text, c ≠ '\x27' ∧ isPrintable c = true)
    (rest : List Char) :
    readLiteral (text ++ '\x27' :: rest) = some (text, rest) := by
  induction text with
  | nil => rw [List.nil_append, readLiteral, if_pos rfl]
  | cons c text induction =>
      obtain ⟨noMark, printable⟩ := plain c List.mem_cons_self
      rw [List.cons_append, readLiteral, if_neg noMark, if_pos printable,
        induction fun other member =>
          plain other (List.mem_cons_of_mem c member)]
      rfl

/-! ### Three marks on each side -/

/-- The marks that belong to the text are those in front of what follows. -/
theorem extraMarks_eq_nil {mark : Char} {rest : List Char}
    (apart : rest.head? ≠ some mark) : extraMarks mark rest = ([], rest) := by
  match rest with
  | [] => rfl
  | [c] =>
      have differs : c ≠ mark := by simpa using apart
      simp [extraMarks, differs]
  | c :: d :: rest =>
      have differs : c ≠ mark := by simpa using apart
      simp [extraMarks, differs]

theorem extraMarks_one {mark : Char} {rest : List Char}
    (apart : rest.head? ≠ some mark) :
    extraMarks mark (mark :: rest) = ([mark], rest) := by
  match rest with
  | [] => simp [extraMarks]
  | c :: rest =>
      have differs : c ≠ mark := by simpa using apart
      simp [extraMarks, differs]

theorem extraMarks_two (mark : Char) (rest : List Char) :
    extraMarks mark (mark :: mark :: rest) = ([mark, mark], rest) := by
  simp [extraMarks]

theorem readLongLiteral_plain {c : Char} {rest : List Char}
    (plain : isPrintable c = true ∨ c = '\n')
    (noMarks : c = '\x27' → ∀ more, rest ≠ '\x27' :: '\x27' :: more) :
    readLongLiteral (c :: rest) =
      (readLongLiteral rest).map fun (text, rest) => (c :: text, rest) := by
  rw [readLongLiteral]
  · rw [if_pos (by simpa using plain)]
  · intro more mark same
    exact noMarks mark more same
  · rintro more rfl
    exact absurd plain (by decide)

/-- Behind a mark, what is left of a text without three marks in a row is at
most one mark, or does not begin with two marks whatever follows. -/
theorem noMarks_of_noThree {mark : Char} {text : List Char}
    (noThree : [mark, mark, mark].isPrefixOf (mark :: text) = false) :
    text = [] ∨ text = [mark] ∨
      ∀ rest more, text ++ rest ≠ mark :: mark :: more := by
  match text with
  | [] => exact .inl rfl
  | [c] =>
      by_cases same : c = mark
      · exact .inr (.inl (by rw [same]))
      · refine .inr (.inr fun rest more starts => ?_)
        injection starts with first _
        exact same first
  | c :: d :: text =>
      refine .inr (.inr fun rest more starts => ?_)
      injection starts with first others
      injection others with second _
      simp [first, second] at noThree

/-- Between three apostrophes a text is read back that has neither three of
them in a row nor characters that need an escape. -/
theorem readLongLiteral_text {text : List Char}
    (plain : ∀ c ∈ text, isPrintable c = true ∨ c = '\n')
    (noThree : hasThree '\x27' text = false) {rest : List Char}
    (apart : rest.head? ≠ some '\x27') :
    readLongLiteral (text ++ '\x27' :: '\x27' :: '\x27' :: rest) =
      some (text, rest) := by
  induction text with
  | nil => rw [List.nil_append, readLongLiteral, extraMarks_eq_nil apart]
  | cons c text induction =>
      have here := plain c List.mem_cons_self
      rw [hasThree, Bool.or_eq_false_iff] at noThree
      have later := induction
        (fun other member => plain other (List.mem_cons_of_mem c member))
        noThree.2
      by_cases mark : c = '\x27'
      · subst mark
        -- Marks at the very end of the text are read behind the closing ones.
        rcases noMarks_of_noThree noThree.1 with rfl | rfl | noMarks
        · change readLongLiteral
            ('\x27' :: '\x27' :: '\x27' :: '\x27' :: rest) = _
          rw [readLongLiteral, extraMarks_one apart]
        · change readLongLiteral
            ('\x27' :: '\x27' :: '\x27' :: '\x27' :: '\x27' :: rest) = _
          rw [readLongLiteral, extraMarks_two]
        · rw [List.cons_append,
            readLongLiteral_plain here (fun _ => noMarks _), later]
          rfl
      · rw [List.cons_append, readLongLiteral_plain here
          (fun same => absurd same mark), later]
        rfl

theorem readLongBasic_escaped (c : Char) (rest : List Char) :
    readLongBasic (escaped c ++ rest) =
      (readLongBasic rest).map fun (text, rest) => (c :: text, rest) := by
  rcases escaped_cases c with
    ⟨code, written, isEscape⟩ | ⟨written, printable, noQuote, noBackslash⟩
  · rw [written, List.cons_append, readLongBasic]
    split
    · rename_i continued
      rw [(isEscape rest).2] at continued
      cases continued
    · split
      · rename_i none
        rw [(isEscape rest).1] at none
        cases none
      · rename_i found
        rw [(isEscape rest).1] at found
        cases found
        rfl
  · rw [written, List.singleton_append, readLongBasic]
    · simp [printable]
    · intro _ quote
      exact absurd quote noQuote
    · exact noBackslash
    · rintro _ rfl
      exact absurd printable (by decide)

theorem readLongBasic_plain {c : Char} {rest : List Char}
    (plain : c = '"' ∨ c = '\n')
    (noMarks : c = '"' → ∀ more, rest ≠ '"' :: '"' :: more) :
    readLongBasic (c :: rest) =
      (readLongBasic rest).map fun (text, rest) => (c :: text, rest) := by
  have apart : c ≠ '\\' ∧ c ≠ '\r' ∧ (isPrintable c || c == '\n') = true := by
    rcases plain with rfl | rfl <;> decide
  rw [readLongBasic]
  · rw [if_pos apart.2.2]
  · intro more quote same
    exact noMarks quote more same
  · exact apart.1
  · rintro _ rfl
    exact absurd rfl apart.2.1

/-- Of three quotes in a row the last one is escaped, and nothing else is
written as a quote. -/
theorem exists_cons_escapedLong {quotes : Nat} {c : Char}
    (stops : quotes = 2 ∨ c ≠ '"') (text : List Char) :
    ∃ head tail, escapedLong quotes (c :: text) = head :: tail ∧
      head ≠ '"' := by
  rw [escapedLong]
  split
  · rename_i quote
    have two := stops.resolve_right (fun differs => differs quote)
    rw [if_pos two, quote]
    exact ⟨'\\', _, rfl, by decide⟩
  · rename_i noQuote
    split
    · exact ⟨c, _, rfl, noQuote⟩
    · rcases escaped_cases c with ⟨code, written, _⟩ | ⟨written, _⟩
      · exact ⟨'\\', code ++ escapedLong 0 text, by rw [written]; rfl,
          by decide⟩
      · exact ⟨c, escapedLong 0 text, by rw [written]; rfl, noQuote⟩

/-- Behind a quote, what is left of a text is at most one more quote, or is not
written with two quotes in front. -/
theorem noMarks_escapedLong {quotes : Nat} (few : quotes = 1 ∨ quotes = 2)
    (text : List Char) :
    text = [] ∨ (quotes = 1 ∧ text = ['"']) ∨
      ∀ rest more, escapedLong quotes text ++ rest ≠ '"' :: '"' :: more := by
  match text with
  | [] => exact .inl rfl
  | c :: text =>
      by_cases stops : quotes = 2 ∨ c ≠ '"'
      · obtain ⟨head, tail, written, noQuote⟩ :=
          exists_cons_escapedLong stops text
        refine .inr (.inr fun rest more starts => ?_)
        rw [written] at starts
        injection starts with first _
        exact noQuote first
      · obtain ⟨notTwo, notOther⟩ := not_or.mp stops
        have one : quotes = 1 := few.resolve_right notTwo
        have quote : c = '"' := Decidable.not_not.mp notOther
        subst one quote
        match text with
        | [] => exact .inr (.inl ⟨rfl, rfl⟩)
        | d :: text =>
            obtain ⟨head, tail, written, noQuote⟩ :=
              exists_cons_escapedLong (c := d) (.inl rfl) text
            refine .inr (.inr fun rest more starts => ?_)
            rw [escapedLong, if_pos rfl, if_neg (by decide), written] at starts
            injection starts with _ others
            injection others with first _
            exact noQuote first

/-- Between three quotes any text is read back. -/
theorem readLongBasic_text (text : List Char) {quotes : Nat}
    (few : quotes ≤ 2) {rest : List Char} (apart : rest.head? ≠ some '"') :
    readLongBasic (escapedLong quotes text ++ '"' :: '"' :: '"' :: rest) =
      some (text, rest) := by
  induction text generalizing quotes with
  | nil => rw [escapedLong, List.nil_append, readLongBasic,
      extraMarks_eq_nil apart]
  | cons c text induction =>
      rw [escapedLong]
      split
      · rename_i quote
        subst quote
        split
        · rw [List.append_assoc, readLongBasic_escaped,
            induction (Nat.zero_le 2)]
          rfl
        · rename_i notTwo
          have next : quotes + 1 = 1 ∨ quotes + 1 = 2 := by omega
          -- As above, but what follows is written with escapes.
          rcases noMarks_escapedLong next text with rfl | ⟨one, rfl⟩ | noMarks
          · change readLongBasic ('"' :: '"' :: '"' :: '"' :: rest) = _
            rw [readLongBasic, extraMarks_one apart]
          · rw [one]
            change readLongBasic ('"' :: '"' :: '"' :: '"' :: '"' :: rest) = _
            rw [readLongBasic, extraMarks_two]
          · rw [List.cons_append,
              readLongBasic_plain (.inl rfl) (fun _ => noMarks _),
              induction (by omega)]
            rfl
      · rename_i noQuote
        split
        · rename_i newline
          rw [List.cons_append, readLongBasic_plain (.inr newline)
            (fun same => absurd same noQuote), induction (Nat.zero_le 2)]
          rfl
        · rw [List.append_assoc, readLongBasic_escaped,
            induction (Nat.zero_le 2)]
          rfl

/-! ### The form of a text -/

/-- No mark of a text follows. -/
def EndsText (rest : List Char) : Prop :=
  rest.head? ≠ some '"' ∧ rest.head? ≠ some '\x27'

/-- What the form of a text says about its characters. -/
theorem formOf_cases (text : List Char) :
    formOf text = .basic ∨
      (formOf text = .literal ∧
        ∀ c ∈ text, c ≠ '\x27' ∧ isPrintable c = true) ∨
      formOf text = .longBasic ∨
      (formOf text = .longLiteral ∧ hasThree '\x27' text = false ∧
        ∀ c ∈ text, isPrintable c = true ∨ c = '\n') := by
  have printable : text.any needsEscape = false →
      ∀ c ∈ text, isPrintable c = true ∨ c = '\n' := by
    intro plain c member
    have escapes := List.any_eq_false.mp plain c member
    cases shown : isPrintable c with
    | true => exact .inl rfl
    | false => exact .inr (by simpa [needsEscape, shown] using escapes)
  unfold formOf
  dsimp only
  split
  · exact .inl rfl
  · split
    · rename_i conditions
      simp only [Bool.and_eq_true, Bool.not_eq_true'] at conditions
      obtain ⟨⟨plain, oneLine⟩, noMark⟩ := conditions
      refine .inr (.inl ⟨rfl, fun c member => ⟨?_, ?_⟩⟩)
      · rintro rfl
        simp [member] at noMark
      · rcases printable plain c member with shown | rfl
        · exact shown
        · simp [member] at oneLine
    · split
      · exact .inr (.inr (.inl rfl))
      · split
        · rename_i conditions
          simp only [Bool.and_eq_true, Bool.not_eq_true'] at conditions
          exact .inr (.inr (.inr ⟨rfl, conditions.2, printable conditions.1⟩))
        · split
          · exact .inl rfl
          · exact .inr (.inr (.inl rfl))

/-- The line end behind three opening marks is the one that was written
there. -/
theorem dropFirstLineEnd_openLong {text written : List Char}
    (starts : ∀ c, written.head? = some c →
      c ≠ '\r' ∧ (c = '\n' → '\n' ∈ text)) :
    dropFirstLineEnd
        ((if text.contains '\n' then ['\n'] else []) ++ written) =
      written := by
  by_cases newline : '\n' ∈ text
  · simp [newline, dropFirstLineEnd, lineEnd?]
  · have noLine : ∀ c, written.head? = some c → c ≠ '\n' ∧ c ≠ '\r' :=
      fun c first => ⟨fun same => newline ((starts c first).2 same),
        (starts c first).1⟩
    simp [newline, dropFirstLineEnd, lineEnd?_eq_none noLine]

theorem head_escapedLong {text rest : List Char} {c : Char}
    (first : (escapedLong 0 text ++ '"' :: rest).head? = some c) :
    c ≠ '\r' ∧ (c = '\n' → '\n' ∈ text) := by
  cases text with
  | nil =>
      cases first
      exact ⟨by decide, fun same => absurd same (by decide)⟩
  | cons head tail =>
      rw [escapedLong] at first
      split at first
      · rename_i quote
        subst quote
        cases first
        exact ⟨by decide, fun same => absurd same (by decide)⟩
      · split at first
        · rename_i newline
          subst newline
          cases first
          exact ⟨by decide, fun _ => List.mem_cons_self⟩
        · rename_i noNewline
          rcases escaped_cases head with ⟨_, written, _⟩ | ⟨written, shown, _⟩
          · rw [written] at first
            cases first
            exact ⟨by decide, fun same => absurd same (by decide)⟩
          · rw [written] at first
            cases first
            refine ⟨?_, fun same => absurd same noNewline⟩
            rintro rfl
            exact absurd shown (by decide)

theorem readText?_basic (text : List Char) {rest : List Char}
    (apart : rest.head? ≠ some '"') :
    readText? ('"' :: (text.flatMap escaped ++ '"' :: rest)) =
      some (text, rest) := by
  rw [readText?, readBasic_text]
  intro more starts
  cases text with
  | nil =>
      injection starts with _ same
      exact apart (by rw [same]; rfl)
  | cons c text =>
      rw [List.flatMap_cons] at starts
      rcases escaped_cases c with ⟨_, written, _⟩ | ⟨written, _, noQuote, _⟩
      · rw [written] at starts
        injection starts with first _
        exact absurd first (by decide)
      · rw [written] at starts
        injection starts with first _
        exact noQuote first

theorem readText?_literal {text : List Char}
    (plain : ∀ c ∈ text, c ≠ '\x27' ∧ isPrintable c = true)
    {rest : List Char} (apart : rest.head? ≠ some '\x27') :
    readText? ('\x27' :: (text ++ '\x27' :: rest)) = some (text, rest) := by
  rw [readText?, readLiteral_text plain]
  intro more starts
  cases text with
  | nil =>
      injection starts with _ same
      exact apart (by rw [same]; rfl)
  | cons c text =>
      injection starts with first _
      exact (plain c List.mem_cons_self).1 first

/-- Any text is read back from the form chosen for it. -/
theorem readText?_quoted (text : List Char) {rest : List Char}
    (ends : EndsText rest) :
    readText? (quoted text ++ rest) = some (text, rest) := by
  rcases formOf_cases text with
    form | ⟨form, plain⟩ | form | ⟨form, noThree, plain⟩
  · simpa [quoted, form] using readText?_basic text ends.1
  · simpa [quoted, form] using readText?_literal plain ends.2
  · have opened : quoted text ++ rest = '"' :: '"' :: '"' ::
        ((if text.contains '\n' then ['\n'] else []) ++
          (escapedLong 0 text ++ '"' :: '"' :: '"' :: rest)) := by
      simp [quoted, form, openLong]
    rw [opened, readText?,
      dropFirstLineEnd_openLong (fun _ first => head_escapedLong first),
      readLongBasic_text text (Nat.zero_le 2) ends.1]
  · have opened : quoted text ++ rest = '\x27' :: '\x27' :: '\x27' ::
        ((if text.contains '\n' then ['\n'] else []) ++
          (text ++ '\x27' :: '\x27' :: '\x27' :: rest)) := by
      simp [quoted, form, openLong]
    rw [opened, readText?, dropFirstLineEnd_openLong,
      readLongLiteral_text plain noThree ends.2]
    intro c first
    cases text with
    | nil =>
        cases first
        exact ⟨by decide, fun same => absurd same (by decide)⟩
    | cons head tail =>
        cases first
        refine ⟨?_, fun same => same ▸ List.mem_cons_self⟩
        rintro rfl
        exact absurd (plain _ List.mem_cons_self) (by decide)

end Toml

end GridScript
