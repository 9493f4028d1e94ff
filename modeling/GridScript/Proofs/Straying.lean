import GridScript.Proofs.Arguments
import GridScript.Proofs.CommandText
import GridScript.Proofs.Locality

/-!
# Arguments found inside a value

Reading that resumes inside the text of a value takes what is left of it for
arguments.  The first one goes to the field that it names, or to the first
field of the command; if that field is a string, it ends up with a text that is
no longer than what was left to read.
-/

namespace GridScript

namespace Cursor

/-! ### Strings are no longer than their text -/

theorem length_scanQuoted (text : List Char) :
    (scanQuoted text).1.length ≤ text.length := by
  fun_induction scanQuoted text with
  | case1 => simp
  | case2 => simp
  | case3 => simp
  | case4 c rest _ induction =>
      exact Nat.le_succ_of_le (Nat.succ_le_succ induction)
  | case5 c rest _ _ _ _ induction => exact Nat.succ_le_succ induction

theorem length_readBare (stop : Char → Bool) (c : Cursor) :
    (c.readBare stop).1.length ≤ c.rest.length := by
  have trimmed : ∀ text : List Char,
      (trimBackChars text).length ≤ text.length := by
    intro text
    have shorter := (List.dropWhile_suffix (l := text.reverse)
      isBlank).length_le
    simpa [trimBackChars] using shorter
  have taken := (List.takeWhile_prefix (l := c.rest) (!stop ·)).length_le
  simp only [readBare, String.length_ofList]
  exact Nat.le_trans (trimmed _) taken

theorem length_readString (c : Cursor) :
    c.readString.1.length ≤ c.rest.length := by
  refine Nat.le_trans ?_ c.reaches_skipBlanks.length_le
  unfold readString
  dsimp only
  split
  · rename_i body unread
    rw [unread, String.length_ofList]
    exact Nat.le_succ_of_le (length_scanQuoted body)
  · split
    · simp
    · exact length_readBare _ _

theorem readValue_string (objects : ObjectTable) {c : Cursor} {value : Value}
    (read : (c.readValue objects .string).1 = some value) :
    ∃ text : String, value = .string text ∧ text.length ≤ c.rest.length := by
  simp only [readValue, unlessEnd] at read
  split at read
  · cases read
  · cases read
    exact ⟨_, rfl, Nat.le_trans (length_readString _)
      c.reaches_skipBlanks.length_le⟩

theorem isSome_readValue_string (objects : ObjectTable) {c : Cursor}
    (unread : c.skipBlanks.rest ≠ []) :
    ((c.readValue objects .string).1).isSome = true := by
  simp only [readValue, unlessEnd]
  split
  · rename_i done
    exact absurd (List.isEmpty_iff.mp done) unread
  · rfl

end Cursor

namespace Parser

/-! ### Names -/

theorem identifier?_delimited {behind : List Char}
    (delimited : Delimited behind) (text : List Char) :
    identifier? (text ++ behind) =
      (identifier? text).map fun found => (found.1, found.2 ++ behind) := by
  have refuses : Refuses isWord := ⟨by decide, by decide⟩
  cases text with
  | nil =>
      obtain ⟨mark, tail, rfl, isMark⟩ := delimited
      have noStart : isWordStart mark = false := by
        rcases isMark with rfl | rfl <;> decide
      simp [identifier?, noStart]
  | cons head text =>
      simp only [List.cons_append, identifier?,
        takeWhile_delimited refuses delimited,
        dropWhile_delimited refuses delimited]
      split <;> rfl

/-- No name reaches across a delimiter. -/
theorem argumentName?_delimited {behind : List Char}
    (delimited : Delimited behind) (text : List Char) :
    argumentName? (text ++ behind) =
      (argumentName? text).map fun found => (found.1, found.2 ++ behind) := by
  have refuses : Refuses isPlainBlank := ⟨by decide, by decide⟩
  simp only [argumentName?, identifier?_delimited delimited]
  cases identifier? text with
  | none => rfl
  | some found =>
      obtain ⟨name, rest⟩ := found
      simp only [Option.map_some, dropWhile_delimited refuses delimited]
      cases blanks : rest.dropWhile isPlainBlank with
      | nil =>
          obtain ⟨mark, tail, rfl, isMark⟩ := delimited
          rcases isMark with rfl | rfl <;> simp [isDelimiter]
      | cons head after =>
          have glued : (rest ++ behind).head? = rest.head? := by
            cases rest with
            | nil => cases blanks
            | cons first rest => rfl
          simp only [List.cons_append, glued]
          split
          · rfl
          · split <;> rfl

theorem isIdentifier_of_argumentName? {text after : List Char}
    {found : ArgumentName}
    (named : argumentName? text = some (found, after)) :
    IsIdentifier found.name ∧ found.name.length ≤ text.length := by
  unfold argumentName? at named
  split at named
  · cases named
  · rename_i name rest isName
    have same : found.name = String.ofList name := by
      split at named
      · cases named
      · split at named
        · cases named
          rfl
        · split at named
          · cases named
            rfl
          · cases named
    rw [same]
    unfold identifier? at isName
    split at isName
    · cases isName
    · rename_i head tail
      split at isName
      · rename_i starts
        cases isName
        have shorter := (List.takeWhile_prefix (l := tail) isWord).length_le
        constructor
        · simp only [IsIdentifier, String.toList_ofList]
          exact ⟨starts, List.all_eq_true.mp List.all_takeWhile⟩
        · rw [String.length_ofList]
          exact Nat.succ_le_succ shorter
      · cases isName

/-! ### The first argument on the way -/

/-- What is passed over in front of an argument. -/
def isFiller (c : Char) : Bool :=
  isBlank c || c == ','

theorem dropWhile_isFiller (text : List Char) :
    (text.dropWhile isBlank).dropWhile isFiller = text.dropWhile isFiller := by
  induction text with
  | nil => rfl
  | cons head text induction =>
      by_cases blank : isBlank head = true
      · simp [isFiller, blank, induction]
      · simp [blank]

/-- The list is over at the end of the text and at a closing parenthesis. -/
theorem readArguments_over (objects : ObjectTable) (start : Nat)
    {state : ArgumentList}
    (ended : state.cursor.skipBlanks.rest = [] ∨
      ∃ tail, state.cursor.skipBlanks.rest = ')' :: tail) :
    (readArguments {} objects start state).1 = state.invocation := by
  obtain ⟨after, step⟩ : ∃ after,
      argumentStep {} objects start state = .finished after := by
    unfold argumentStep
    dsimp only
    rcases ended with none | ⟨tail, close⟩
    · exact ⟨_, by rw [none]⟩
    · exact ⟨_, by rw [close]; rfl⟩
  rw [readArguments_of_finished step]

/-- Blanks and commas are passed over, up to the next argument. -/
theorem readArguments_filler (objects : ObjectTable) (start : Nat)
    {behind : List Char} (delimited : Delimited behind) (text : List Char)
    (state : ArgumentList) (unread : state.cursor.rest = text ++ behind)
    (visible : text.dropWhile isFiller ≠ []) :
    ∃ next : ArgumentList, readArguments {} objects start state =
        readArguments {} objects start next ∧
      next.invocation = state.invocation ∧ next.passed = state.passed ∧
      state.cursor.Reaches next.cursor ∧
      next.cursor.skipBlanks.rest = text.dropWhile isFiller ++ behind := by
  have refuses : Refuses isBlank := ⟨by decide, by decide⟩
  have here : state.cursor.skipBlanks.rest =
      text.dropWhile isBlank ++ behind := by
    rw [Cursor.rest_skipBlanks, unread,
      dropWhile_delimited refuses delimited]
  rw [← dropWhile_isFiller] at visible ⊢
  cases shape : text.dropWhile isBlank with
  | nil =>
      rw [shape] at visible
      exact absurd rfl visible
  | cons head tail =>
      rw [shape] at here visible
      by_cases comma : head = ','
      · subst comma
        have step : argumentStep {} objects start state =
            .continued
              { state with cursor := state.cursor.skipBlanks.next } := by
          simp only [argumentStep, here, List.cons_append]
          rfl
        have filler : isFiller ',' = true := by decide
        have shorter : tail.length < text.length := by
          have less := (List.dropWhile_suffix (l := text) isBlank).length_le
          rw [shape] at less
          exact less
        have left : state.cursor.skipBlanks.next.rest = tail ++ behind := by
          rw [Cursor.rest_next, here]
          rfl
        rw [List.dropWhile_cons_of_pos filler] at visible ⊢
        obtain ⟨next, same, invocation, passed, forward, rest⟩ :=
          readArguments_filler objects start delimited tail
            { state with cursor := state.cursor.skipBlanks.next } left visible
        refine ⟨next, (readArguments_of_continued step).trans same, invocation,
          passed, ?_, rest⟩
        exact state.cursor.reaches_skipBlanks.trans <|
          (Cursor.reaches_next _).trans forward
      · have visibleHead : isBlank head = false := by
          have first := List.head?_dropWhile_not isBlank text
          rw [shape] at first
          simpa using first
        have noFiller : ¬isFiller head = true := by
          simp [isFiller, visibleHead, comma]
        refine ⟨state, rfl, rfl, rfl, .refl _, ?_⟩
        rw [List.dropWhile_cons_of_neg noFiller]
        exact here
termination_by text.length

/-- The first argument goes to the first field, a string, if that field is not
set and no other field is named. -/
theorem readArgument_first (objects : ObjectTable) {c : Cursor}
    {state : ArgumentList} {field : Field} {others : List Field}
    {text behind : List Char} (delimited : Delimited behind)
    (unread : c.rest = text ++ behind)
    (fields : state.invocation.fields = field :: others)
    (type : field.type = .string) (scriptable : field.scriptable = true)
    (unset : state.invocation.arguments.isSet field.name = false)
    (passed : state.passed = 0)
    (named : ∀ found after, argumentName? text = some (found, after) →
      found.name = field.name) :
    ∃ value : String, value.length ≤ c.rest.length ∧
      (readArgument {} objects c state).invocation =
        state.invocation.set field.name (.string value) := by
  have refuses : Refuses isBlank := ⟨by decide, by decide⟩
  -- A string is read wherever the delimiter is still ahead.
  have field_read : ∀ (start : Cursor) (left : List Char)
      (before : ArgumentList), c.Reaches start → start.rest = left ++ behind →
        before.invocation = state.invocation →
        ∃ value : String, value.length ≤ c.rest.length ∧
          (readField objects field start before).invocation =
            state.invocation.set field.name (.string value) := by
    intro start left before reached ahead same
    have more : start.skipBlanks.rest ≠ [] := by
      rw [Cursor.rest_skipBlanks, ahead,
        dropWhile_delimited refuses delimited]
      obtain ⟨mark, tail, rfl, _⟩ := delimited
      simp
    obtain ⟨value, read⟩ := Option.isSome_iff_exists.mp
      (Cursor.isSome_readValue_string objects more)
    obtain ⟨text, rfl, short⟩ := Cursor.readValue_string objects read
    refine ⟨text, Nat.le_trans short reached.length_le, ?_⟩
    simp only [readField, type, read, same]
  have names : argumentName? c.rest = (argumentName? text).map
      fun found => (found.1, found.2 ++ behind) := by
    rw [unread, argumentName?_delimited delimited]
  rw [readArgument, names]
  cases name : argumentName? text with
  | none =>
      have first : positionalField? state = some field := by
        simp [positionalField?, fields, passed, scriptable, unset]
      simp only [Option.map_none, readPositional, first, if_true]
      exact field_read (c.inArgument field.name) text
        { state with passed := passedBy state field }
        (c.reaches_inArgument _) unread rfl
  | some pair =>
      obtain ⟨found, after⟩ := pair
      have same := named found after name
      have accepted : field.accepts found.name = true := by
        rw [same]
        exact accepts_name field
      simp only [Option.map_some, readNamed, checkSeparator, fields,
        List.find?_cons, accepted, scriptable, unset, if_true,
        Bool.false_eq_true, if_false]
      exact field_read _ _ state
        ((c.reaches_moveTo _).trans (Cursor.reaches_inArgument _ _))
        (Cursor.rest_moveTo_append unread) rfl

end Parser

end GridScript
