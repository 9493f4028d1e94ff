import GridScript.Proofs.IdleArguments

/-!
# Values that are bare tokens

A token without blanks, quotes and brackets is what scripts give where they get
a value wrong.  Each reader takes such a token up to its end, or it stops
inside; what is left is reported at the end of the argument.  An integer may
be reported by both: `Numeral.IsTorn` tells when.
-/

namespace GridScript

namespace ValueType

/-- Whether the type takes one token or quoted text, whatever it is. -/
def isSimple : ValueType → Bool
  | string => true
  | bool => true
  | int => true
  | double => true
  | reference _ => true
  | _ => false

end ValueType

/-- A token that neither quotes nor nests. -/
structure IsBareToken (token : List Char) : Prop where
  nonEmpty : token ≠ []
  bare : ∀ c ∈ token, isBare c = true

instance (token : List Char) : Decidable (IsBareToken token) :=
  decidable_of_iff (token ≠ [] ∧ token.all isBare = true)
    ⟨fun both => ⟨both.1, List.all_eq_true.mp both.2⟩,
      fun isToken => ⟨isToken.nonEmpty, List.all_eq_true.mpr isToken.bare⟩⟩

/-- The token begins with a numeral that is no integer of 64 bits, and something
follows that is not glued to the numeral. -/
def Numeral.IsTorn (token : List Char) : Prop :=
  ∃ numeral next more, scan? token = some (numeral, next :: more) ∧
    numeral.toInt? = none ∧ (isWord next || next == '.') = false

namespace Cursor

/-- The cursor with problems reported where it stands. -/
def tell (problems : List (Severity × Problem)) (c : Cursor) : Cursor :=
  { c with
    diagnostics := c.diagnostics ++ problems.map fun problem =>
      ⟨problem.1, c.line, problem.2, c.command, c.argument⟩ }

theorem tell_nil (c : Cursor) : c.tell [] = c := by
  simp [tell]

/-- What is read from a bare token, and told of it, does not depend on where the
token stands.  `left` is what is left of it. -/
structure ReadsToken {α : Type} (read : Cursor → α × Cursor)
    (token : List Char) (value : α) (problems : List (Severity × Problem))
    (left : List Char) : Prop where
  suffix : left <:+ token
  reads : ∀ (c : Cursor) (rest : List Char), rest = [] ∨ Delimited rest →
    c.rest = token ++ rest →
      read c = (value, (c.facing (left ++ rest)).tell problems)

section

variable {token : List Char} {c : Cursor} {rest : List Char}

theorem endsToken_of_stops (stops : rest = [] ∨ Delimited rest) :
    EndsToken rest := by
  rcases stops with rfl | delimited
  · exact endsToken_nil
  · exact delimited.endsToken

/-- No line ends inside a bare token. -/
theorem behind_bare (bare : ∀ c ∈ token, isBare c = true) :
    c.behind token rest = c.facing rest := by
  have single : '\n' ∉ token := by
    intro member
    exact absurd (bare '\n' member) (by decide)
  simp [behind, facing, List.count_eq_zero_of_not_mem single]

theorem moveTo_suffix (bare : ∀ c ∈ token, isBare c = true)
    (unread : c.rest = token ++ rest) {left : List Char}
    (suffix : left <:+ token) :
    c.moveTo (left ++ rest) = c.facing (left ++ rest) := by
  obtain ⟨front, rfl⟩ := suffix
  rw [List.append_assoc] at unread
  rw [moveTo_eq_behind unread, behind_bare fun c member =>
    bare c (List.mem_append_left left member)]

/-- A bare token is what the next reader sees. -/
theorem skipBlanks_token (isToken : IsBareToken token)
    (unread : c.rest = token ++ rest) :
    c.skipBlanks = c ∧ c.peek? ≠ some '"' ∧ c.peek? ≠ none := by
  obtain ⟨head, tail, rfl⟩ := List.exists_cons_of_ne_nil isToken.nonEmpty
  have bare := isToken.bare head List.mem_cons_self
  refine ⟨skipBlanks_eq_self unread (isBlank_of_isBare bare), ?_, ?_⟩
  · rw [peek?, unread]
    intro quote
    cases quote
    exact absurd bare (by decide)
  · rw [peek?, unread]
    exact Option.some_ne_none head

theorem readBare_bareToken (isToken : IsBareToken token)
    (stops : rest = [] ∨ Delimited rest) (unread : c.rest = token ++ rest) :
    c.readBare isTokenEndOrBlank = (String.ofList token, c.facing rest) := by
  rw [readBare_token isToken.bare (endsToken_of_stops stops) unread,
    behind_bare isToken.bare]

/-! ### The readers one by one -/

theorem afterNone?_append (stops : rest = [] ∨ Delimited rest)
    (token : List Char) :
    afterNone? (token ++ rest) = (afterNone? token).map (· ++ rest) := by
  rcases stops with rfl | delimited
  · simp
  · exact afterNone?_delimited delimited token

theorem scan?_append (stops : rest = [] ∨ Delimited rest)
    (token : List Char) :
    Numeral.scan? (token ++ rest) =
      (Numeral.scan? token).map fun found => (found.1, found.2 ++ rest) := by
  rcases stops with rfl | delimited
  · simp
  · exact scan?_delimited delimited token

/-- A bare token is no string.  Only what follows a `None` is left of it. -/
theorem readsToken_readString (isToken : IsBareToken token) :
    ∃ value problems left, ReadsToken readString token value problems left ∧
      problems.length ≤ 1 ∧ (problems = [] ∨ left = []) := by
  cases none : afterNone? token with
  | some left =>
      have suffix := afterNone?_suffix none
      refine ⟨"", [], left, ⟨suffix, ?_⟩, by simp, .inl rfl⟩
      intro c rest stops unread
      obtain ⟨start, noQuote, _⟩ := skipBlanks_token isToken unread
      have found := afterNone?_append stops token
      rw [none, ← unread, Option.map_some] at found
      have moved := moveTo_suffix isToken.bare unread suffix
      rw [readString, start]
      split
      · rename_i body quoted
        exact absurd (congrArg List.head? quoted) noQuote
      · simp only [found, moved, tell_nil]
  | none =>
      refine ⟨String.ofList token, [(.error, .missingOpeningQuote)], [],
        ⟨List.nil_suffix, ?_⟩, by simp, .inr rfl⟩
      intro c rest stops unread
      obtain ⟨start, noQuote, _⟩ := skipBlanks_token isToken unread
      have found := afterNone?_append stops token
      rw [none, ← unread, Option.map_none] at found
      have bare : (c.error .missingOpeningQuote).readBare isTokenEnd =
          (String.ofList token,
            (c.error .missingOpeningQuote).facing rest) := by
        rw [← behind_bare isToken.bare]
        refine readBare_of_stop ?_ ?_ ?_ unread
        · intro c member
          exact (Bool.or_eq_false_iff.mp
            (isTokenEndOrBlank_of_isBare (isToken.bare c member))).1
        · intro c first
          rcases stops with rfl | ⟨mark, tail, rfl, isMark⟩
          · cases first
          · cases first
            rcases isMark with rfl | rfl <;> decide
        · exact fun c member => isBlank_of_isBare (isToken.bare c member)
      rw [readString, start]
      split
      · rename_i body quoted
        exact absurd (congrArg List.head? quoted) noQuote
      · simp only [found, bare]
        rfl

theorem readsToken_readBool (isToken : IsBareToken token) :
    ∃ value problems, ReadsToken readBool token value problems [] ∧
      problems.length ≤ 1 := by
  have word : ∀ (c : Cursor) (rest : List Char),
      rest = [] ∨ Delimited rest → c.rest = token ++ rest →
        c.readToken (readBare isTokenEndOrBlank) =
          (String.ofList token, c.facing rest) := by
    intro c rest stops unread
    obtain ⟨start, noQuote, _⟩ := skipBlanks_token isToken unread
    rw [readToken, start]
    simp only [noQuote, if_false, readBare_bareToken isToken stops unread]
  by_cases yes : sameUpToCase token "true".toList = true
  · refine ⟨true, [], ⟨List.nil_suffix, ?_⟩, by simp⟩
    intro c rest stops unread
    simp only [readBool, word c rest stops unread, String.toList_ofList, yes,
      if_true, tell_nil, List.nil_append]
  · by_cases no : sameUpToCase token "false".toList = true
    · refine ⟨false, [], ⟨List.nil_suffix, ?_⟩, by simp⟩
      intro c rest stops unread
      simp only [readBool, word c rest stops unread, String.toList_ofList, yes,
        no, Bool.false_eq_true, if_false, if_true, tell_nil, List.nil_append]
    · refine ⟨false, [(.error, .invalidBool (String.ofList token))],
        ⟨List.nil_suffix, ?_⟩, by simp⟩
      intro c rest stops unread
      simp only [readBool, word c rest stops unread, String.toList_ofList, yes,
        no]
      rfl

theorem isGlued_append (stops : rest = [] ∨ Delimited rest)
    (left : List Char) (c : Cursor) :
    (c.facing (left ++ rest)).isGlued =
      ({ rest := left } : Cursor).isGlued := by
  cases left with
  | nil => exact isGlued_of_endsToken (endsToken_of_stops stops)
  | cons next more => rfl

/-- The numeral in front of a token is found wherever the token stands, with
`left` behind it. -/
theorem readNumeral_scanned (isToken : IsBareToken token) {numeral : Numeral}
    {left : List Char} (scanned : Numeral.scan? token = some (numeral, left))
    (stops : rest = [] ∨ Delimited rest) (unread : c.rest = token ++ rest) :
    c.readNumeral =
      let after := c.facing (left ++ rest)
      if ({ rest := left } : Cursor).isGlued then
        (none, after.rejectNumber numeral.text)
      else (some numeral, after) := by
  have suffix : left <:+ token := (Skip.over_scan? scanned).1.suffix
  have start := (skipBlanks_token isToken unread).1
  have found := scan?_append stops token
  rw [scanned, ← unread, Option.map_some] at found
  simp only [readNumeral, start, found,
    moveTo_suffix isToken.bare unread suffix, isGlued_append stops left c]

/-- Either the whole token is refused, or a numeral is split off that nothing
is glued to. -/
theorem readsToken_readNumeral (isToken : IsBareToken token) :
    (∃ problem,
      ReadsToken readNumeral token none [(.error, problem)] [] ∧
        ∀ numeral left, Numeral.scan? token = some (numeral, left) →
          ({ rest := left } : Cursor).isGlued = true) ∨
      ∃ numeral left, Numeral.scan? token = some (numeral, left) ∧
        ({ rest := left } : Cursor).isGlued = false ∧
        ReadsToken readNumeral token (some numeral) [] left := by
  cases scanned : Numeral.scan? token with
  | none =>
      refine .inl ⟨.invalidNumber (String.ofList [] ++ String.ofList token),
        ⟨List.nil_suffix, ?_⟩, by simp⟩
      intro c rest stops unread
      have start := (skipBlanks_token isToken unread).1
      have found := scan?_append stops token
      rw [scanned, ← unread, Option.map_none] at found
      simp only [readNumeral, start, found, rejectNumber,
        readBare_bareToken isToken stops unread]
      rfl
  | some parts =>
      obtain ⟨numeral, left⟩ := parts
      have suffix : left <:+ token := (Skip.over_scan? scanned).1.suffix
      cases glued : ({ rest := left } : Cursor).isGlued with
      | true =>
          have inside : IsBareToken left := by
            refine ⟨?_, fun c member => isToken.bare c (suffix.subset member)⟩
            rintro rfl
            cases glued
          refine .inl ⟨.invalidNumber
            (String.ofList numeral.text ++ String.ofList left),
            ⟨List.nil_suffix, ?_⟩, ?_⟩
          · intro c rest stops unread
            have whole := @readBare_bareToken _ (c.facing (left ++ rest)) rest
              inside stops rfl
            simp only [readNumeral_scanned isToken scanned stops unread, glued,
              if_true, rejectNumber, whole]
            rfl
          · intro numeral' left' same
            cases same
            exact glued
      | false =>
          refine .inr ⟨numeral, left, rfl, glued, suffix, ?_⟩
          intro c rest stops unread
          simp only [readNumeral_scanned isToken scanned stops unread, glued,
            Bool.false_eq_true, if_false, tell_nil]

theorem readsToken_readInt (isToken : IsBareToken token) :
    ∃ value problems left, ReadsToken readInt token value problems left ∧
      problems.length ≤ 1 ∧
      (problems ≠ [] ∧ left ≠ [] ↔ Numeral.IsTorn token) := by
  rcases readsToken_readNumeral isToken with
    ⟨problem, reads, glued⟩ | ⟨numeral, left, scanned, free, reads⟩
  · refine ⟨none, [(.error, problem)], [], ⟨reads.suffix, ?_⟩, by simp, ?_⟩
    · intro c rest stops unread
      simp only [readInt, reads.reads c rest stops unread]
    · refine ⟨fun both => absurd rfl both.2, ?_⟩
      rintro ⟨numeral, next, more, scanned, _, free⟩
      exact absurd (glued numeral _ scanned) (Bool.eq_false_iff.mp free)
  · cases parsed : numeral.toInt? with
    | some value =>
        refine ⟨some value, [], left, ⟨reads.suffix, ?_⟩, by simp, ?_⟩
        · intro c rest stops unread
          simp only [readInt, reads.reads c rest stops unread, parsed]
        · refine ⟨fun both => absurd rfl both.1, ?_⟩
          rintro ⟨_, next, more, same, noInt, _⟩
          rw [scanned] at same
          cases same
          rw [parsed] at noInt
          cases noInt
    | none =>
        refine ⟨none, [(.error, .invalidNumber (String.ofList numeral.text))],
          left, ⟨reads.suffix, ?_⟩, by simp, ?_⟩
        · intro c rest stops unread
          simp only [readInt, reads.reads c rest stops unread, parsed, tell_nil]
          rfl
        · constructor
          · rintro ⟨_, some⟩
            obtain ⟨next, more, rfl⟩ := List.exists_cons_of_ne_nil some
            exact ⟨numeral, next, more, scanned, parsed, free⟩
          · rintro ⟨_, next, more, same, _⟩
            rw [scanned] at same
            cases same
            exact ⟨by simp, by simp⟩

theorem readsToken_readDouble (isToken : IsBareToken token) :
    ∃ value problems left, ReadsToken readDouble token value problems left ∧
      problems.length ≤ 1 ∧ (problems = [] ∨ left = []) := by
  rcases readsToken_readNumeral isToken with
    ⟨problem, reads, _⟩ | ⟨numeral, left, _, _, reads⟩
  · refine ⟨none, [(.error, problem)], [], ⟨reads.suffix, ?_⟩, by simp,
      .inr rfl⟩
    intro c rest stops unread
    simp only [readDouble, reads.reads c rest stops unread]
  · refine ⟨some numeral.toBinary64, [], left, ⟨reads.suffix, ?_⟩, by simp,
      .inl rfl⟩
    intro c rest stops unread
    simp only [readDouble, reads.reads c rest stops unread]

/-- What a token refers to, and what is told of it, is the same wherever the
token stands. -/
theorem resolveReference_eq_tell (objects : ObjectTable)
    (className token : String) :
    ∃ value problems, problems.length ≤ 1 ∧
      ∀ c : Cursor, c.resolveReference objects className token =
        (value, c.tell problems) := by
  unfold resolveReference
  cases splitAtFirst? (· == ':') token.toList with
  | none =>
      exact ⟨none, [(.error, .malformedReference token)], Nat.le_refl 1,
        fun _ => rfl⟩
  | some parts =>
      obtain ⟨found, number⟩ := parts
      dsimp only
      cases parseNat64? (trimChars number) with
      | none =>
          exact ⟨none, [(.error, .malformedReference token)], Nat.le_refl 1,
            fun _ => rfl⟩
      | some id =>
          dsimp only
          split
          · exact ⟨none, [(.error, .wrongClass className token)],
              Nat.le_refl 1, fun _ => rfl⟩
          · split
            · exact ⟨some ⟨className, id⟩, [], Nat.zero_le 1,
                fun c => by rw [tell_nil]⟩
            · exact ⟨none, [(.warning,
                .unknownObject (ObjectRef.text ⟨className, id⟩))],
                Nat.le_refl 1, fun _ => rfl⟩

theorem readsToken_readReference (objects : ObjectTable) (className : String)
    (isToken : IsBareToken token) :
    ∃ value problems,
      ReadsToken (readReference objects className) token value problems [] ∧
        problems.length ≤ 1 := by
  obtain ⟨value, problems, few, resolved⟩ :=
    resolveReference_eq_tell objects className (String.ofList token)
  refine ⟨value, problems, ⟨List.nil_suffix, ?_⟩, few⟩
  intro c rest stops unread
  have start := (skipBlanks_token isToken unread).1
  have some := isEmpty_ofList isToken.nonEmpty
  simp only [readReference, readReferenceToken, start,
    readBare_bareToken isToken stops unread, some, Bool.false_eq_true, if_false,
    resolved]
  rfl

/-! ### Values -/

theorem readsToken_unlessEnd {α : Type} {read : Cursor → α × Cursor}
    {value : α} {problems : List (Severity × Problem)} {left : List Char}
    (isToken : IsBareToken token)
    (reads : ReadsToken read token value problems left)
    (wrap : α → Option Value) :
    ReadsToken (unlessEnd fun c => (read c).map wrap id) token (wrap value)
      problems left := by
  refine ⟨reads.suffix, fun c rest stops unread => ?_⟩
  obtain ⟨head, tail, chars⟩ := List.exists_cons_of_ne_nil isToken.nonEmpty
  have visible := isBlank_of_isBare
    (isToken.bare head (by simp [chars]))
  have opened : c.rest = head :: (tail ++ rest) := by
    rw [unread, chars, List.cons_append]
  rw [unlessEnd_eq opened visible, reads.reads c rest stops unread]
  rfl

/-- Reading a bare token as a simple type is told of at most once, and only a
torn integer is both told of and left unread in part. -/
theorem readsToken_readValue (objects : ObjectTable) {type : ValueType}
    (simple : type.isSimple = true) (isToken : IsBareToken token) :
    ∃ value problems left,
      ReadsToken (readValue objects type) token value problems left ∧
      problems.length ≤ 1 ∧
      (problems ≠ [] ∧ left ≠ [] ↔
        type = .int ∧ Numeral.IsTorn token) := by
  have never : ∀ {problems : List (Severity × Problem)} {left : List Char},
      type ≠ .int → problems = [] ∨ left = [] →
        (problems ≠ [] ∧ left ≠ [] ↔ type = .int ∧ Numeral.IsTorn token) := by
    intro problems left noInt either
    refine ⟨fun both => ?_, fun both => absurd both.1 noInt⟩
    rcases either with none | none
    · exact absurd none both.1
    · exact absurd none both.2
  cases type with
  | string =>
      obtain ⟨value, problems, left, reads, few, either⟩ :=
        readsToken_readString isToken
      exact ⟨_, problems, left, readsToken_unlessEnd isToken reads _, few,
        never (by simp) either⟩
  | bool =>
      obtain ⟨value, problems, reads, few⟩ := readsToken_readBool isToken
      exact ⟨_, problems, [], readsToken_unlessEnd isToken reads _, few,
        never (by simp) (.inr rfl)⟩
  | int =>
      obtain ⟨value, problems, left, reads, few, torn⟩ :=
        readsToken_readInt isToken
      exact ⟨_, problems, left, readsToken_unlessEnd isToken reads _, few,
        torn.trans (by simp)⟩
  | double =>
      obtain ⟨value, problems, left, reads, few, either⟩ :=
        readsToken_readDouble isToken
      exact ⟨_, problems, left, readsToken_unlessEnd isToken reads _, few,
        never (by simp) either⟩
  | reference className =>
      obtain ⟨value, problems, reads, few⟩ :=
        readsToken_readReference objects className isToken
      exact ⟨_, problems, [], readsToken_unlessEnd isToken reads _, few,
        never (by simp) (.inr rfl)⟩
  | _ => cases simple

end

end Cursor

namespace Parser

section

variable {dialect : Dialect} (objects : ObjectTable) (start : Nat)
  (earlier : List Diagnostic) {state : ArgumentList} {name : String}
  {token rest : List Char}

/-- What the end of an argument tells of the text in front of it. -/
def leftover : List Char → List (Severity × Problem)
  | [] => []
  | next :: _ => [(.error, .unexpectedAfterValue next)]

theorem length_append_leftover {problems : List (Severity × Problem)}
    (few : problems.length ≤ 1) (left : List Char) :
    (problems ++ leftover left).length ≤ 1 ↔
      ¬(problems ≠ [] ∧ left ≠ []) := by
  rcases problems with _ | ⟨first, problems⟩
  · cases left <;> simp [leftover]
  · cases left <;> simp_all [leftover]

/-- The recovery from an error in an argument passes over a bare text. -/
theorem skipArgument_bare {text : List Char}
    (bare : ∀ c ∈ text, isBare c = true) (delimited : Delimited rest)
    (c : Cursor) :
    skipArgument (c.facing (text ++ rest)) = c.facing rest := by
  have ends : Skip.argument (text ++ rest) = rest :=
    ((Skip.over_append rest fun c member =>
      Skip.isPlain_of_isBare (bare c member)).same 0).trans
        (Skip.argument_delimited delimited)
  change Cursor.moveTo _ (Skip.argument (text ++ rest)) = _
  rw [ends, @Cursor.moveTo_eq_behind _ text rest rfl,
    Cursor.behind_bare bare]
  rfl

/-- What is left of a token is told of and passed over. -/
theorem finishArgument_left {left : List Char}
    (bare : ∀ c ∈ left, isBare c = true) (delimited : Delimited rest)
    (c : Cursor) :
    finishArgument (c.facing (left ++ rest)) =
      finishArgument ((c.facing rest).tell (leftover left)) := by
  cases left with
  | nil => rw [leftover, Cursor.tell_nil, List.nil_append]
  | cons next more =>
      have visible := Cursor.isBlank_of_isBare (bare next List.mem_cons_self)
      have noMark : ¬(next = ',' ∨ next = ')') := by
        rintro (rfl | rfl)
        · exact absurd (bare ',' List.mem_cons_self) (by decide)
        · exact absurd (bare ')' List.mem_cons_self) (by decide)
      have start := @Cursor.skipBlanks_eq_self
        (c.facing (next :: more ++ rest)) next (more ++ rest) rfl visible
      have skipped : skipArgument ((c.facing (next :: more ++ rest)).error
          (.unexpectedAfterValue next)) =
            (c.facing rest).tell (leftover (next :: more)) :=
        skipArgument_bare bare delimited (c.error (.unexpectedAfterValue next))
      have recovered : recover (c.facing (next :: more ++ rest)) =
          (c.facing rest).tell (leftover (next :: more)) := by
        rw [recover, start, ← skipped]
        exact if_neg noMark
      obtain ⟨mark, tail, rfl, isMark⟩ := delimited
      have stays : recover ((c.facing (mark :: tail)).tell
          (leftover (next :: more))) =
            (c.facing (mark :: tail)).tell (leftover (next :: more)) := by
        have visible : isBlank mark = false := by
          rcases isMark with rfl | rfl <;> decide
        rw [recover, @Cursor.skipBlanks_eq_self _ mark tail rfl visible]
        exact if_pos isMark
      rw [finishArgument_eq, finishArgument_eq, recovered, stays]

/-- The diagnostics for problems of an argument. -/
def stamped (line : Nat) (keyword : Option String) (name : String)
    (problems : List (Severity × Problem)) : List Diagnostic :=
  problems.map fun problem =>
    ⟨problem.1, line, problem.2, keyword, some name⟩

/-- What is told of an argument, and of what is left in front of its end, stands
behind what was told before. -/
theorem readArguments_told {alter : Invocation → Invocation}
    (outside : state.cursor.argument = none)
    (fresh : state.cursor.diagnostics = []) {left : List Char}
    (bare : ∀ c ∈ left, isBare c = true) (delimited : Delimited rest)
    (problems : List (Severity × Problem)) :
    readArguments dialect objects start
        { state.altered alter with
          cursor := finishArgument (((state.cursor.placed 0 earlier
            (left ++ rest)).inArgument name).tell problems) } =
      readArguments dialect objects start
        ((state.altered alter).placed 0 (earlier ++
          stamped state.cursor.line state.cursor.command name
            (problems ++ leftover left)) rest) := by
  have finished := finishArgument_left bare delimited
    (((state.cursor.placed 0 earlier rest).inArgument name).tell problems)
  have told : ((((state.cursor.placed 0 earlier rest).inArgument name).tell
      problems).facing rest).tell (leftover left) =
        (state.cursor.inArgument name).placed 0 (earlier ++
          stamped state.cursor.line state.cursor.command name
            (problems ++ leftover left)) rest := by
    simp [Cursor.placed, Cursor.facing, Cursor.shift, Cursor.inArgument,
      Cursor.tell, stamped, fresh]
  have outward : (state.cursor.inArgument name).leaveArgument =
      state.cursor := by
    rw [Cursor.inArgument, Cursor.leaveArgument, ← outside]
  have passed := @readArguments_finishArgument dialect objects start 0
    (earlier ++ stamped state.cursor.line state.cursor.command name
      (problems ++ leftover left)) rest delimited
    { state.altered alter with cursor := state.cursor.inArgument name }
  rw [told] at finished
  rw [outward, ← finished] at passed
  exact passed

/-- What scripts can set a field to by a token: what the token is read as, if
scripts may set the field at all. -/
def tokenValue (objects : ObjectTable) (field : Field) (token : List Char) :
    Option Value :=
  if field.scriptable then
    (({ rest := token } : Cursor).readValue objects field.type).1
  else none

/-- The name of an argument leads its reader to the text behind the equals
sign. -/
theorem argumentStep_equals (word : IsIdentifier name) (body : List Char) :
    argumentStep dialect objects start
        (state.placed 0 earlier (name.toList ++ '=' :: body)) =
      let read := readNamed dialect objects ⟨name, true⟩
        (state.cursor.placed 0 earlier body) state
      .continued { read with cursor := finishArgument read.cursor } := by
  have named := argumentName?_equals word isBlanks_nil body
  have single : '\n' ∉ [] ++ (name.toList ++ ['=']) :=
    newline_not_mem_nameText word true
  rw [@argumentStep_name dialect objects start _ [] ['='] _ _ _
    isBlanks_nil.isSpace word named rfl]
  dsimp only [ArgumentList.placed]
  rw [Cursor.behind_placed_of_single _ _ _ _ single]
  rfl

/-- An argument that scripts may not give is refused, and its token is passed
over. -/
theorem readArguments_idleToken (either : dialect.separator = .either)
    (word : IsIdentifier name) (idle : IsIdle state.invocation.fields name)
    (bare : ∀ c ∈ token, isBare c = true)
    (outside : state.cursor.argument = none)
    (fresh : state.cursor.diagnostics = []) (delimited : Delimited rest) :
    readArguments dialect objects start (state.placed 0 earlier
        (name.toList ++ '=' :: (token ++ rest))) =
      readArguments dialect objects start ((state.altered id).placed 0
        (earlier ++ stamped state.cursor.line state.cursor.command name
          [refusal state.invocation.fields name]) rest) := by
  have read := @argumentStep_equals dialect objects start earlier state name
    word (token ++ rest)
  have skipped : skipArgument (((state.cursor.placed 0 earlier
      (token ++ rest)).inArgument name).report
        (refusal state.invocation.fields name).1 state.cursor.line
        (refusal state.invocation.fields name).2) =
      ((state.cursor.placed 0 earlier rest).inArgument name).tell
        [refusal state.invocation.fields name] :=
    skipArgument_bare bare delimited
      (((state.cursor.placed 0 earlier rest).inArgument name).tell
        [refusal state.invocation.fields name])
  rw [readNamed_idle objects either idle] at read
  change _ = ArgumentStep.continued { state.altered id with
    cursor := finishArgument (skipArgument (((state.cursor.placed 0 earlier
      (token ++ rest)).inArgument name).report
        (refusal state.invocation.fields name).1 state.cursor.line
        (refusal state.invocation.fields name).2)) } at read
  rw [skipped] at read
  exact (readArguments_of_continued read).trans
    (@readArguments_told dialect objects start earlier state name rest id
      outside fresh [] (by simp) delimited
      [refusal state.invocation.fields name])

/-- A bare token for a field that scripts may set gives the field what the
token is read as. -/
theorem readArguments_givenToken (either : dialect.separator = .either)
    (word : IsIdentifier name) {field : Field}
    (leads : state.invocation.fields.find? (·.accepts name) = some field)
    (scriptable : field.scriptable = true)
    (unset : state.invocation.arguments.isSet field.name = false)
    {value : Option Value} {problems : List (Severity × Problem)}
    {left : List Char} (isToken : IsBareToken token)
    (reads : Cursor.ReadsToken (Cursor.readValue objects field.type) token
      value problems left)
    (outside : state.cursor.argument = none)
    (fresh : state.cursor.diagnostics = []) (delimited : Delimited rest) :
    readArguments dialect objects start (state.placed 0 earlier
        (name.toList ++ '=' :: (token ++ rest))) =
      readArguments dialect objects start
        ((state.altered (Invocation.give field.name value)).placed 0
          (earlier ++ stamped state.cursor.line state.cursor.command name
            (problems ++ leftover left)) rest) := by
  have bare : ∀ c ∈ left, isBare c = true :=
    fun c member => isToken.bare c (reads.suffix.subset member)
  have decode := reads.reads
    ((state.cursor.placed 0 earlier (token ++ rest)).inArgument name) rest
    (.inr delimited) rfl
  have allowed : ∀ c, checkSeparator dialect true c = c := by
    intro c
    simp [checkSeparator, either]
  have read := @argumentStep_equals dialect objects start earlier state name
    word (token ++ rest)
  simp only [readNamed, allowed, leads, scriptable, unset, if_true,
    Bool.false_eq_true, if_false, readField_eq_give, decode] at read
  exact (readArguments_of_continued read).trans
    (@readArguments_told dialect objects start earlier state name rest
      (Invocation.give field.name value) outside fresh left bare delimited
      problems)

/-- A bare token for a field that is not set yet sets this field or changes
nothing.  It is told of more than once exactly if it is a torn integer. -/
theorem readArguments_bareToken (either : dialect.separator = .either)
    (word : IsIdentifier name) {field : Field}
    (leads : state.invocation.fields.find? (·.accepts name) = some field)
    (simple : field.type.isSimple = true) (isToken : IsBareToken token)
    (unset : state.invocation.arguments.isSet field.name = false)
    (outside : state.cursor.argument = none)
    (fresh : state.cursor.diagnostics = []) :
    ∃ problems : List (Severity × Problem),
      (problems.length ≤ 1 ↔ ¬(field.scriptable = true ∧
        field.type = .int ∧ Numeral.IsTorn token)) ∧
      ∀ start earlier rest, Delimited rest →
        readArguments dialect objects start (state.placed 0 earlier
            (name.toList ++ '=' :: (token ++ rest))) =
          readArguments dialect objects start
            ((state.altered (Invocation.give field.name
              (tokenValue objects field token))).placed 0 (earlier ++
                stamped state.cursor.line state.cursor.command name problems)
              rest) := by
  cases scriptable : field.scriptable with
  | false =>
      have idle : IsIdle state.invocation.fields name := by
        intro other found
        rw [leads] at found
        cases found
        exact scriptable
      have kept : Invocation.give field.name
          (tokenValue objects field token) = id := by
        rw [tokenValue, scriptable]
        rfl
      refine ⟨[refusal state.invocation.fields name], by simp, ?_⟩
      intro start earlier rest delimited
      rw [kept]
      exact readArguments_idleToken objects start earlier either word idle
        isToken.bare outside fresh delimited
  | true =>
      obtain ⟨value, problems, left, reads, few, torn⟩ :=
        Cursor.readsToken_readValue objects simple isToken
      have decoded : tokenValue objects field token = value := by
        have alone := reads.reads { rest := token } [] (.inl rfl)
          (List.append_nil token).symm
        rw [tokenValue, scriptable, if_pos rfl, alone]
      refine ⟨problems ++ leftover left, ?_, ?_⟩
      · rw [length_append_leftover few, torn]
        simp only [true_and]
      · intro start earlier rest delimited
        rw [decoded]
        exact readArguments_givenToken objects start earlier either word leads
          scriptable unset isToken reads outside fresh delimited

end

end Parser

/-- A command with arguments for its fields, a bare token for one more field
somewhere among them, and any text behind the command. -/
structure TokenScene where
  registry : Registry
  dialect : Dialect := {}
  objects : ObjectTable := .empty
  keyword : String
  command : Command
  before : List Parser.NamedArgument
  after : List Parser.NamedArgument
  field : Field
  /-- The name that the token is given under. -/
  name : String
  token : List Char
  rest : String

namespace TokenScene

/-- The token is given once for a field of a simple type, and the arguments are
given for other fields. -/
structure Proper (scene : TokenScene) : Prop where
  either : scene.dialect.separator = .either
  comment : isWord scene.dialect.comment = false
  registered : scene.registry.get? scene.keyword = some scene.command
  isKeyword : IsIdentifier scene.keyword
  given : ∃ shape, ∀ argument ∈ scene.before ++ scene.after,
    argument.IsGiven shape scene.command.fields
  word : IsIdentifier scene.name
  leads : scene.command.fields.find? (·.accepts scene.name) = some scene.field
  simple : scene.field.type.isSimple = true
  isToken : IsBareToken scene.token
  once : ∀ argument ∈ scene.before ++ scene.after,
    argument.field.name ≠ scene.field.name

/-- What is read from the command with these arguments. -/
def parse (scene : TokenScene) (arguments : List (List Char)) : ParsedScript :=
  parseScript scene.registry scene.dialect scene.objects
    (commandText scene.keyword arguments ++ scene.rest)

/-- What is read without the token. -/
def without (scene : TokenScene) : ParsedScript :=
  scene.parse (scene.before.map (·.text) ++ scene.after.map (·.text))

/-- What is read with it. -/
def along (scene : TokenScene) : ParsedScript :=
  scene.parse (scene.before.map (·.text) ++
    (scene.name.toList ++ '=' :: scene.token) :: scene.after.map (·.text))

/-- The line that the token stands on. -/
def line (scene : TokenScene) : Nat :=
  1 + (scene.before.flatMap (·.text)).count '\n'

/-- What the field is set to, if it is. -/
def value (scene : TokenScene) : Option Value :=
  Parser.tokenValue scene.objects scene.field scene.token

/-- The token is for an integer that scripts may set, and it is torn. -/
def IsTorn (scene : TokenScene) : Prop :=
  scene.field.scriptable = true ∧ scene.field.type = .int ∧
    Numeral.IsTorn scene.token

/-- The diagnostic belongs to the argument of the token. -/
def Owns (scene : TokenScene) (d : Diagnostic) : Prop :=
  d.line = scene.line ∧ d.command = some scene.keyword ∧
    d.argument = some scene.name

/-- A bare token makes a difference in its own field only, which stays at its
default where the token has no value.  It costs at most one diagnostic exactly
if it is no torn integer. -/
theorem along_sets {scene : TokenScene} (proper : scene.Proper) :
    ∃ first others earlier told later,
      scene.without = ⟨first :: others, earlier ++ later⟩ ∧
      scene.along = ⟨first.give scene.field.name scene.value :: others,
        earlier ++ told ++ later⟩ ∧
      first.AgreeOn scene.field.name
        (.ofCommand scene.keyword scene.command) ∧
      (∀ d ∈ told, scene.Owns d) ∧
      (told.length ≤ 1 ↔ ¬scene.IsTorn) := by
  obtain ⟨shape, given⟩ := proper.given
  let opened := Parser.openedBy scene.keyword scene.command (.ofText "") [] []
  have line := Parser.line_openedBy proper.isKeyword scene.command
  obtain ⟨middle, told, last, beyond, fresh, agrees, agreesBehind, among⟩ :=
    @Parser.readArguments_among scene.dialect scene.objects opened shape
      proper.either scene.before scene.after given rfl
  have fields : middle.invocation.fields = scene.command.fields :=
    congrArg Command.fields beyond.invoked
  have front : middle.invocation.AgreeOn scene.field.name
      (.ofCommand scene.keyword scene.command) := by
    have kept := agrees scene.field.name fun argument member =>
      (proper.once argument (List.mem_append_left _ member)).symm
    exact ⟨kept.get?, kept.isSet⟩
  have behind := agreesBehind scene.field.name fun argument member =>
    (proper.once argument (List.mem_append_right _ member)).symm
  obtain ⟨problems, few, passed⟩ := @Parser.readArguments_bareToken
    scene.dialect scene.objects middle scene.name scene.token proper.either
    proper.word scene.field (fields ▸ proper.leads) proper.simple proper.isToken
    (front.isSet.trans (Arguments.isSet_ofDefaults _ _)) beyond.argument fresh
  let added := Parser.stamped middle.cursor.line middle.cursor.command
    scene.name problems
  have without := parseScript_commandText_here proper.comment proper.registered
    proper.isKeyword fun start => among [] id 0 told start
      (fun argument _ => Invocation.spares_id argument.field.name)
      (fun _ _ => rfl) scene.rest.toList
  have along := parseScript_commandText_here proper.comment proper.registered
    proper.isKeyword fun start =>
      among [scene.name.toList ++ '=' :: scene.token]
        (Invocation.give scene.field.name scene.value) 0 (told ++ added) start
        (fun argument member => Invocation.spares_give
          (proper.once argument (List.mem_append_right _ member)) scene.value)
        (fun rest delimited => by
          rw [Parser.readArguments_commaTail_cons, List.append_assoc]
          exact passed start told rest delimited)
        scene.rest.toList
  refine ⟨last.invocation, _, told, added, _, without, along,
    behind.trans front, ?_, ?_⟩
  · intro d member
    obtain ⟨problem, _, rfl⟩ := List.mem_map.mp member
    exact ⟨beyond.line.trans (congrArg (· + _) line), beyond.command, rfl⟩
  · have counted : added.length = problems.length := List.length_map _
    rw [counted]
    exact few

/-- A use of `survey` with a token for its double that goes on behind a
numeral. -/
def measuring : TokenScene :=
  { registry := { commands := [Invocation.survey] }
    keyword := "survey"
    command := Invocation.survey
    before := [⟨{ name := "title", type := .string, default := .string "" },
      .string "a\n", "title", false⟩]
    after := [⟨{ name := "mode", type := .enumeration ⟨"Mode", ["FAST", "SLOW"]⟩
                 default := .variant "FAST" }, .variant "SLOW", "mode", true⟩]
    field := { name := "factor", type := .double, default := .double .zero }
    name := "factor"
    token := ['1', '.', '5', '-', '2']
    rest := "\nsurvey(5" }

theorem along_sets_measuring :
    ∃ first others earlier told later,
      measuring.without = ⟨first :: others, earlier ++ later⟩ ∧
      measuring.along =
        ⟨first.give "factor" measuring.value :: others,
          earlier ++ told ++ later⟩ ∧
      first.AgreeOn "factor" (.ofCommand "survey" Invocation.survey) ∧
      (∀ d ∈ told, measuring.Owns d) ∧
      (told.length ≤ 1 ↔ ¬measuring.IsTorn) := by
  have given : ∀ argument ∈ measuring.before ++ measuring.after,
      argument.IsGiven .empty Invocation.survey.fields := by
    intro argument member
    rcases List.mem_append.mp member with front | back
    · rw [List.mem_singleton.mp front]
      exact ⟨by decide, rfl, rfl, by decide, by decide +kernel, rfl⟩
    · rw [List.mem_singleton.mp back]
      exact ⟨by decide, rfl, rfl, by decide, by decide +kernel, rfl⟩
  have once : ∀ argument ∈ measuring.before ++ measuring.after,
      argument.field.name ≠ measuring.field.name := by
    decide
  have proper : measuring.Proper :=
    ⟨rfl, by decide, rfl, by decide, ⟨.empty, given⟩, by decide, rfl, rfl,
      by decide, once⟩
  exact along_sets proper

/-- A command that counts something. -/
def tally : Command :=
  { name := "tally"
    fields := [{ name := "count", type := .int, default := .int 7 }]
    run := fun _ => pure .ok }

/-- A use of it with a torn integer. -/
def tallying : TokenScene :=
  { registry := { commands := [tally] }
    keyword := "tally"
    command := tally
    before := []
    after := []
    field := { name := "count", type := .int, default := .int 7 }
    name := "count"
    token := ['1', '.', '5', '+', '2']
    rest := "" }

/-- Not every bare token costs at most one diagnostic. -/
theorem not_forall_told_once :
    ¬∀ scene : TokenScene, scene.Proper →
      ∃ earlier told later,
        scene.without.diagnostics = earlier ++ later ∧
        scene.along.diagnostics = earlier ++ told ++ later ∧
        told.length ≤ 1 := by
  intro once
  have proper : tallying.Proper :=
    ⟨rfl, by decide, rfl, by decide, ⟨.empty, by simp [tallying]⟩, by decide,
      rfl, rfl, by decide, by simp [tallying]⟩
  obtain ⟨earlier, told, later, without, along, few⟩ := once tallying proper
  have counts : tallying.along.diagnostics.length ≤
      tallying.without.diagnostics.length + 1 := by
    rw [without, along]
    simp only [List.length_append]
    omega
  revert counts
  decide +kernel

end TokenScene

end GridScript
