import GridScript.Number.Numeral
import GridScript.Script.Cursor
import GridScript.Value.Basic

/-!
# Values from script text

Every reader takes a cursor and gives back what it read together with the cursor
behind it.  Problems are reported on the cursor.  A reader answers `none` only
where the field should keep its value: a malformed number, an unknown variant,
or an array without its bracket.  Strings and booleans always produce a value.
-/

namespace GridScript

namespace Cursor

/-- The end of a token that a blank ends as well. -/
def isTokenEndOrBlank (c : Char) : Bool :=
  isTokenEnd c || isBlank c

/-- Reads raw text up to a character that satisfies `stop`, without the blanks
at its back. -/
def readBare (stop : Char → Bool) (c : Cursor) : String × Cursor :=
  let token := c.rest.takeWhile (!stop ·)
  (String.ofList (trimBackChars token), c.advance token.length)

/-- What follows an opening quote: the text up to the closing quote, what is
left behind it, and whether there was a closing quote at all.  A backslash takes
the next character as it is. -/
def scanQuoted : List Char → List Char × List Char × Bool
  | [] => ([], [], false)
  | '"' :: rest => ([], rest, true)
  | '\\' :: [] => ([], [], false)
  | '\\' :: c :: rest =>
    let scanned := scanQuoted rest; (c :: scanned.1, scanned.2)
  | c :: rest => let scanned := scanQuoted rest; (c :: scanned.1, scanned.2)

/-- What is left behind a bare `None`, the empty string. -/
def afterNone? : List Char → Option (List Char)
  | 'N' :: 'o' :: 'n' :: 'e' :: rest =>
    if (rest.head?.map isWord).getD false then none else some rest
  | _ => none

/-- Reads a string.  A missing quote is reported, and the text is returned
nevertheless. -/
def readString (c : Cursor) : String × Cursor :=
  let start := c.skipBlanks
  match start.rest with
  | '"' :: body =>
    let scanned := scanQuoted body
    let after := start.moveTo scanned.2.1
    (String.ofList scanned.1,
      if scanned.2.2 then after
      else after.errorAt start.line .missingClosingQuote)
  | rest =>
    match afterNone? rest with
    | some remainder => ("", start.moveTo remainder)
    | none => (start.error .missingOpeningQuote).readBare isTokenEnd

/-- Reads a token that may stand between quotes. -/
def readToken (bare : Cursor → String × Cursor) (c : Cursor) :
    String × Cursor :=
  let start := c.skipBlanks
  if start.peek? = some '"' then start.readString else bare start

/-- Reads `true` or `false` in any case.  Anything else is reported and counts
as false. -/
def readBool (c : Cursor) : Bool × Cursor :=
  let token := c.readToken (readBare isTokenEndOrBlank)
  if sameUpToCase token.1.toList "true".toList then (true, token.2)
  else if sameUpToCase token.1.toList "false".toList then (false, token.2)
  else (false, token.2.error (.invalidBool token.1))

/-- Whether a word character or a point follows at once. -/
def isGlued (c : Cursor) : Bool :=
  match c.rest with
  | [] => false
  | next :: _ => isWord next || next == '.'

/-- Reads the rest of a token that is no number and reports the whole of it. -/
def rejectNumber (c : Cursor) (read : List Char) : Cursor :=
  let token := c.readBare isTokenEndOrBlank
  token.2.error (.invalidNumber (String.ofList read ++ token.1))

/-- Reads a numeral that nothing is glued to.  Otherwise the whole token is read
and reported. -/
def readNumeral (c : Cursor) : Option Numeral × Cursor :=
  let start := c.skipBlanks
  match Numeral.scan? start.rest with
  | none => (none, start.rejectNumber [])
  | some (numeral, remainder) =>
    let after := start.moveTo remainder
    if after.isGlued then (none, after.rejectNumber numeral.text)
    else (some numeral, after)

/-- Reads an integer of 64 bits. -/
def readInt (c : Cursor) : Option Int × Cursor :=
  match c.readNumeral with
  | (none, after) => (none, after)
  | (some numeral, after) =>
    match numeral.toInt? with
    | some value => (some value, after)
    | none => (none, after.error (.invalidNumber (String.ofList numeral.text)))

/-- Reads a double. -/
def readDouble (c : Cursor) : Option Binary64 × Cursor :=
  match c.readNumeral with
  | (none, after) => (none, after)
  | (some numeral, after) => (some numeral.toBinary64, after)

/-- Reads a run of word characters. -/
def readWord (c : Cursor) : String × Cursor :=
  let token := c.rest.takeWhile isWord
  (String.ofList token, c.advance token.length)

/-- Reads a variant of an enumeration, bare or between quotes. -/
def readVariant (names : Enumeration) (c : Cursor) : Option String × Cursor :=
  let token := c.readToken readWord
  match names.resolve? token.1 with
  | some name => (some name, token.2)
  | none => (none, token.2.error (.unknownVariant names.name token.1))

/-- Goes on behind an item.  An item that consumed nothing is stepped over by
one character, so that every list comes to an end. -/
def progress (before after : Cursor) : Cursor :=
  if after.rest.length < before.rest.length then after
  else { before.next with diagnostics := after.diagnostics }

/-- One step along a bracketed list. -/
inductive ListStep (α : Type) where
  | finished (after : Cursor)
  | continued (item : Option α) (after : Cursor)

/-- Reads up to the end of the list, over a comma, or over one item. -/
def listStep {α : Type} (item : Cursor → Option α × Cursor) (c : Cursor) :
    ListStep α :=
  let here := c.skipBlanks
  match here.rest with
  | [] => .finished (here.errorAt c.line .missingArrayEnd)
  | next :: _ =>
    if next = ']' then .finished here.next
    else if next = ',' then .continued none here.next
    else if next = ')' ∨ next = ';' then
      .finished (here.errorAt c.line .missingArrayEnd)
    else
      let read := item here
      .continued read.1 (here.progress read.2)

theorem progress_length_lt {before : Cursor} (after : Cursor)
    (unread : before.rest ≠ []) :
    (before.progress after).rest.length < before.rest.length := by
  unfold progress
  split
  · assumption
  · have positive := List.length_pos_iff.mpr unread
    simp only [rest_next, List.length_tail]
    omega

theorem listStep_length_lt {α : Type} {item : Cursor → Option α × Cursor}
    {c after : Cursor} {value : Option α}
    (step : listStep item c = .continued value after) :
    after.rest.length < c.rest.length := by
  have shorter := c.reaches_skipBlanks.length_le
  unfold listStep at step
  dsimp only at step
  split at step
  · cases step
  · rename_i next tail unread
    have lengths : c.skipBlanks.rest.length = tail.length + 1 := by
      rw [unread, List.length_cons]
    split at step
    · cases step
    · split at step
      · cases step
        simp only [rest_next, unread, List.tail_cons]
        omega
      · split at step
        · cases step
        · cases step
          have some : c.skipBlanks.rest ≠ [] := by
            rw [unread]
            exact List.cons_ne_nil _ _
          have less := progress_length_lt (item c.skipBlanks).2 some
          omega

/-- Reads the items of a list whose bracket is open. -/
def readItems {α : Type} (item : Cursor → Option α × Cursor) (c : Cursor) :
    List α × Cursor :=
  match _step : listStep item c with
  | .finished after => ([], after)
  | .continued value after =>
    let others := readItems item after
    (value.toList ++ others.1, others.2)
termination_by c.rest.length
decreasing_by exact listStep_length_lt _step

/-- Reads a bracketed list.  A missing closing bracket is reported for the line
where the list stopped. -/
def readList {α : Type} (item : Cursor → Option α × Cursor) (c : Cursor) :
    Option (List α) × Cursor :=
  let start := c.skipBlanks
  if start.peek? = some '[' then
    let items := readItems item start.next
    (some items.1, items.2)
  else (none, start.error .missingArrayStart)

/-- Reads the token of a reference. -/
def readReferenceToken (c : Cursor) : String × Cursor :=
  c.skipBlanks.readBare isTokenEndOrBlank

/-- The object that a token names: a known one of the class that is asked
for. -/
def resolveReference (objects : ObjectTable) (className token : String)
    (c : Cursor) : Option ObjectRef × Cursor :=
  match splitAtFirst? (· == ':') token.toList with
  | none => (none, c.error (.malformedReference token))
  | some (found, number) =>
    match parseNat64? (trimChars number) with
    | none => (none, c.error (.malformedReference token))
    | some id =>
      if String.ofList (trimChars found) ≠ className then
        (none, c.error (.wrongClass className token))
      else if objects.contains className id then (some ⟨className, id⟩, c)
      else (none, c.warn (.unknownObject (ObjectRef.text ⟨className, id⟩)))

/-- Reads a reference.  An empty token is a null reference. -/
def readReference (objects : ObjectTable) (className : String) (c : Cursor) :
    Option ObjectRef × Cursor :=
  let token := c.readReferenceToken
  if token.1.isEmpty then (none, token.2)
  else token.2.resolveReference objects className token.1

/-- Reads one item of a list of references.  One that cannot be resolved is
null; an empty token is no item. -/
def readReferenceItem (objects : ObjectTable) (className : String)
    (c : Cursor) : Option (Option ObjectRef) × Cursor :=
  let token := c.readReferenceToken
  if token.1.isEmpty then (none, token.2)
  else
    let object := token.2.resolveReference objects className token.1
    (some object.1, object.2)

/-- Reads a list of references. -/
def readReferences (objects : ObjectTable) (className : String) (c : Cursor) :
    Option (List (Option ObjectRef)) × Cursor :=
  c.readList (readReferenceItem objects className)

/-- Reads with `read` behind the blanks.  At the end of the text there is
nothing to read. -/
def unlessEnd (read : Cursor → Option Value × Cursor) (c : Cursor) :
    Option Value × Cursor :=
  let start := c.skipBlanks
  if start.rest.isEmpty then (none, start.error .unexpectedEnd) else read start

/-- Reads a value of the given type.  Items of an array that cannot be read are
left out. -/
def readValue (objects : ObjectTable) :
    ValueType → Cursor → Option Value × Cursor
  | .string => unlessEnd fun c => c.readString.map (some ∘ Value.string) id
  | .bool => unlessEnd fun c => c.readBool.map (some ∘ Value.bool) id
  | .int => unlessEnd fun c => c.readInt.map (Option.map Value.int) id
  | .double => unlessEnd fun c => c.readDouble.map (Option.map Value.double) id
  | .enumeration names =>
    unlessEnd fun c => (c.readVariant names).map (Option.map Value.variant) id
  | .array element =>
    unlessEnd fun c =>
      (c.readList (readValue objects element)).map (Option.map Value.array) id
  | .reference className =>
    unlessEnd fun c =>
      (c.readReference objects className).map (some ∘ Value.reference) id
  | .references className =>
    unlessEnd fun c => (c.readReferences objects className).map
      (Option.map fun references =>
        Value.array (references.map Value.reference)) id

/-! ### Reading moves forward -/

theorem reaches_readBare (stop : Char → Bool) (c : Cursor) :
    c.Reaches (c.readBare stop).2 :=
  c.reaches_advance _

theorem reaches_readString (c : Cursor) : c.Reaches c.readString.2 := by
  refine c.reaches_skipBlanks.trans ?_
  unfold readString
  dsimp only
  split
  · split
    · exact reaches_moveTo _ _
    · exact (reaches_moveTo _ _).trans (reaches_errorAt _ _ _)
  · split
    · exact reaches_moveTo _ _
    · exact (reaches_error _ _).trans (reaches_readBare _ _)

theorem reaches_readToken {bare : Cursor → String × Cursor}
    (forward : ∀ c : Cursor, c.Reaches (bare c).2) (c : Cursor) :
    c.Reaches (c.readToken bare).2 := by
  refine c.reaches_skipBlanks.trans ?_
  unfold readToken
  dsimp only
  split
  · exact reaches_readString _
  · exact forward _

theorem reaches_readBool (c : Cursor) : c.Reaches c.readBool.2 := by
  have token := c.reaches_readToken (reaches_readBare isTokenEndOrBlank)
  unfold readBool
  dsimp only
  split
  · exact token
  · split
    · exact token
    · exact token.trans (reaches_error _ _)

theorem reaches_rejectNumber (c : Cursor) (read : List Char) :
    c.Reaches (c.rejectNumber read) :=
  (reaches_readBare _ _).trans (reaches_error _ _)

theorem reaches_readNumeral (c : Cursor) : c.Reaches c.readNumeral.2 := by
  refine c.reaches_skipBlanks.trans ?_
  unfold readNumeral
  dsimp only
  split
  · exact reaches_rejectNumber _ _
  · split
    · exact (reaches_moveTo _ _).trans (reaches_rejectNumber _ _)
    · exact reaches_moveTo _ _

theorem reaches_readInt (c : Cursor) : c.Reaches c.readInt.2 := by
  have numeral := c.reaches_readNumeral
  unfold readInt
  split <;> rename_i read <;> rw [read] at numeral
  · exact numeral
  · split
    · exact numeral
    · exact numeral.trans (reaches_error _ _)

theorem reaches_readDouble (c : Cursor) : c.Reaches c.readDouble.2 := by
  have numeral := c.reaches_readNumeral
  unfold readDouble
  split <;> rename_i read <;> rw [read] at numeral <;> exact numeral

theorem reaches_readWord (c : Cursor) : c.Reaches c.readWord.2 :=
  c.reaches_advance _

theorem reaches_readVariant (names : Enumeration) (c : Cursor) :
    c.Reaches (c.readVariant names).2 := by
  have token := c.reaches_readToken reaches_readWord
  unfold readVariant
  dsimp only
  split
  · exact token
  · exact token.trans (reaches_error _ _)

theorem reaches_progress {before after : Cursor}
    (reached : before.Reaches after) :
    before.Reaches (before.progress after) := by
  unfold progress
  split
  · exact reached
  · exact ⟨before.reaches_next.moved, reached.reported⟩

/-- The cursor after a step along a list, whether the list ends there or not. -/
def ListStep.cursor {α : Type} : ListStep α → Cursor
  | .finished after => after
  | .continued _ after => after

theorem reaches_listStep {α : Type} {item : Cursor → Option α × Cursor}
    (forward : ∀ c : Cursor, c.Reaches (item c).2) (c : Cursor) :
    c.Reaches (listStep item c).cursor := by
  refine c.reaches_skipBlanks.trans ?_
  unfold listStep
  dsimp only
  split
  · exact reaches_errorAt _ _ _
  · split
    · exact reaches_next _
    · split
      · exact reaches_next _
      · split
        · exact reaches_errorAt _ _ _
        · exact reaches_progress (forward _)

theorem reaches_readItems {α : Type} {item : Cursor → Option α × Cursor}
    (forward : ∀ c : Cursor, c.Reaches (item c).2) (c : Cursor) :
    c.Reaches (readItems item c).2 := by
  have step := reaches_listStep forward c
  rw [readItems]
  split <;> rename_i found <;> rw [found] at step
  · exact step
  · have shorter := listStep_length_lt found
    exact step.trans (reaches_readItems forward _)
termination_by c.rest.length

theorem reaches_readList {α : Type} {item : Cursor → Option α × Cursor}
    (forward : ∀ c : Cursor, c.Reaches (item c).2) (c : Cursor) :
    c.Reaches (readList item c).2 := by
  refine c.reaches_skipBlanks.trans ?_
  unfold readList
  dsimp only
  split
  · exact (reaches_next _).trans (reaches_readItems forward _)
  · exact reaches_error _ _

theorem reaches_readReferenceToken (c : Cursor) :
    c.Reaches c.readReferenceToken.2 :=
  c.reaches_skipBlanks.trans (reaches_readBare _ _)

theorem reaches_resolveReference (objects : ObjectTable)
    (className token : String) (c : Cursor) :
    c.Reaches (c.resolveReference objects className token).2 := by
  unfold resolveReference
  split
  · exact reaches_error _ _
  · split
    · exact reaches_error _ _
    · split
      · exact reaches_error _ _
      · split
        · exact .refl c
        · exact reaches_warn _ _

theorem reaches_readReference (objects : ObjectTable) (className : String)
    (c : Cursor) :
    c.Reaches (c.readReference objects className).2 := by
  refine c.reaches_readReferenceToken.trans ?_
  unfold readReference
  dsimp only
  split
  · exact .refl _
  · exact reaches_resolveReference _ _ _ _

theorem reaches_readReferenceItem (objects : ObjectTable) (className : String)
    (c : Cursor) :
    c.Reaches (c.readReferenceItem objects className).2 := by
  refine c.reaches_readReferenceToken.trans ?_
  unfold readReferenceItem
  dsimp only
  split
  · exact .refl _
  · exact reaches_resolveReference _ _ _ _

theorem reaches_readReferences (objects : ObjectTable) (className : String)
    (c : Cursor) :
    c.Reaches (c.readReferences objects className).2 :=
  reaches_readList (reaches_readReferenceItem objects className) c

theorem reaches_unlessEnd {α : Type} {read : Cursor → α × Cursor}
    (forward : ∀ c : Cursor, c.Reaches (read c).2) (value : α → Option Value)
    (c : Cursor) :
    c.Reaches (c.unlessEnd fun c => (read c).map value id).2 := by
  refine c.reaches_skipBlanks.trans ?_
  unfold unlessEnd
  dsimp only
  split
  · exact reaches_error _ _
  · exact forward _

/-- Reading a value moves the cursor forward, whatever the text. -/
theorem reaches_readValue (objects : ObjectTable) (type : ValueType)
    (c : Cursor) :
    c.Reaches (c.readValue objects type).2 := by
  induction type generalizing c with
  | string => exact reaches_unlessEnd reaches_readString _ c
  | bool => exact reaches_unlessEnd reaches_readBool _ c
  | int => exact reaches_unlessEnd reaches_readInt _ c
  | double => exact reaches_unlessEnd reaches_readDouble _ c
  | enumeration names => exact reaches_unlessEnd (reaches_readVariant names) _ c
  | array element hypothesis =>
    exact reaches_unlessEnd (reaches_readList hypothesis) _ c
  | reference className =>
    exact reaches_unlessEnd (reaches_readReference objects className) _ c
  | references className =>
    exact reaches_unlessEnd (reaches_readReferences objects className) _ c

end Cursor

end GridScript
