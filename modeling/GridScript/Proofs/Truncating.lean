import GridScript.Proofs.Joining

/-!
# Reading in a text that is cut short

A text may be cut behind the parenthesis that closes an argument list.  What
has not been passed in the whole text is not passed in the cut one, so that a
statement without errors is read the same wherever the text goes on behind it,
and however it goes on.
-/

namespace GridScript

theorem value_overruns {depth : Nat} {quoted : Bool} {text : List Char}
    (passed : Skip.value depth quoted (text ++ [')']) = [])
    (more : List Char) :
    (Skip.value depth quoted (text ++ ')' :: more)).length ≤ more.length := by
  fun_induction Skip.value depth quoted text with
  | case1 depth quoted =>
      rw [List.nil_append] at passed ⊢
      cases quoted with
      | true =>
          rw [value_quoted_plain (by decide)]
          exact Skip.value_length_le _ _ _
      | false =>
          by_cases level : depth = 0
          · rw [value_bare, if_pos ⟨level, .inr rfl⟩] at passed
            cases passed
          · rw [value_bare]
            simp only [level, false_and, if_false]
            exact Skip.value_length_le _ _ _
  | case2 depth c rest induction => exact induction passed
  | case3 depth c rest noEscape induction =>
      by_cases backslash : c = '\\'
      · subst backslash
        cases rest with
        | nil => exact Skip.value_length_le depth true more
        | cons next rest => exact absurd rfl (noEscape next rest rfl)
      · rw [List.cons_append, value_quoted_plain backslash] at passed ⊢
        exact induction passed
  | case4 depth c rest stops =>
      rw [List.cons_append, value_bare, if_pos stops] at passed
      cases passed
  | case5 depth rest goesOn induction =>
      rw [List.cons_append, value_bare, if_neg goesOn, if_pos rfl]
        at passed ⊢
      exact induction passed
  | case6 depth c rest goesOn noQuote opens induction =>
      rw [List.cons_append, value_bare, if_neg goesOn, if_neg noQuote,
        if_pos opens] at passed ⊢
      exact induction passed
  | case7 depth c rest goesOn noQuote noOpen closes induction =>
      rw [List.cons_append, value_bare, if_neg goesOn, if_neg noQuote,
        if_neg noOpen, if_pos closes] at passed ⊢
      exact induction passed
  | case8 depth c rest goesOn noQuote noOpen noClose induction =>
      rw [List.cons_append, value_bare, if_neg goesOn, if_neg noQuote,
        if_neg noOpen, if_neg noClose] at passed ⊢
      exact induction passed

namespace Cursor

/-- The unread text ends with a closing parenthesis. -/
def Closed (c : Cursor) : Prop :=
  [')'] <:+ c.rest

theorem Closed.mem {c : Cursor} (closed : c.Closed) : ')' ∈ c.rest :=
  List.IsSuffix.mem List.mem_cons_self closed

theorem Closed.of_reaches {before after : Cursor} (closed : before.Closed)
    (reached : before.Reaches after) (unread : after.rest ≠ []) :
    after.Closed :=
  List.suffix_of_suffix_length_le closed reached.suffix
    (List.length_pos_iff.mpr unread)

theorem Closed.skipBlanks {c : Cursor} (closed : c.Closed) :
    c.skipBlanks.Closed :=
  closed.of_reaches c.reaches_skipBlanks
    (List.ne_nil_of_mem (mem_rest_skipBlanks closed.mem))

/-- Behind another character the parenthesis is still to come. -/
theorem Closed.next {c : Cursor} (closed : c.Closed) {head : Char}
    {tail : List Char} (unread : c.rest = head :: tail) (other : head ≠ ')') :
    c.next.Closed := by
  refine closed.of_reaches c.reaches_next ?_
  rw [rest_next, unread, List.tail_cons]
  rintro rfl
  have last : [')'] = [head] :=
    (unread ▸ closed : [')'] <:+ [head]).eq_of_length rfl
  injection last with same
  exact other same.symm

/-- A reader that passes the last parenthesis of a text passes it in a longer
text, too. -/
def Overruns {α : Type} (read : Cursor → α × Cursor) : Prop :=
  ∀ more c, Closed c → (read c).2.rest = [] →
    (read (extend more c)).2.rest.length ≤ more.length

/-- The reader never passes a closing parenthesis. -/
def Halts {α : Type} (read : Cursor → α × Cursor) : Prop :=
  ∀ c, ')' ∈ c.rest → ')' ∈ (read c).2.rest

theorem Halts.overruns {α : Type} {read : Cursor → α × Cursor}
    (halts : Halts read) : Overruns read := by
  intro more c closed done
  have unread := halts c closed.mem
  rw [done] at unread
  cases unread

/-! ### Values -/

theorem halts_readBare {stop : Char → Bool} (stops : stop ')' = true) :
    Halts (readBare stop) := by
  intro c unread
  have rest : (c.readBare stop).2.rest = c.rest.dropWhile (!stop ·) :=
    rest_skipWhile c _
  rw [rest]
  apply mem_dropWhile_of_refuses ?_ unread
  rw [stops]
  rfl

theorem halts_readWord : Halts readWord := by
  intro c unread
  have rest : c.readWord.2.rest = c.rest.dropWhile isWord :=
    rest_skipWhile c _
  rw [rest]
  exact mem_dropWhile_of_refuses (by decide) unread

theorem halts_rejectNumber {c : Cursor} (unread : ')' ∈ c.rest)
    (read : List Char) : ')' ∈ (c.rejectNumber read).rest :=
  halts_readBare isTokenEndOrBlank_close c unread

/-- What a scan finds in front of a parenthesis ends in front of it. -/
theorem halts_scan {α : Type} {scan : List Char → Option (α × List Char)}
    (stops : ∀ {behind : List Char}, Delimited behind → ∀ text : List Char,
      scan (text ++ behind) =
        (scan text).map fun found => (found.1, found.2 ++ behind))
    {c : Cursor} (unread : ')' ∈ c.rest) {found : α} {rest : List Char}
    (scanned : scan c.rest = some (found, rest)) :
    ')' ∈ (c.moveTo rest).rest := by
  obtain ⟨front, behind, shape⟩ := List.append_of_mem unread
  rw [shape, stops (delimited_close behind)] at scanned
  obtain ⟨read, _, same⟩ := Option.map_eq_some_iff.mp scanned
  cases same
  rw [rest_moveTo_append shape]
  simp

theorem halts_readNumeral : Halts readNumeral := by
  intro c unread
  have here := mem_rest_skipBlanks unread
  unfold readNumeral
  dsimp only
  split
  · exact halts_rejectNumber here _
  · rename_i numeral remainder found
    have left := halts_scan scan?_delimited here found
    split
    · exact halts_rejectNumber left _
    · exact left

theorem halts_readInt : Halts readInt := by
  intro c unread
  have left := halts_readNumeral c unread
  unfold readInt
  split <;> rename_i read <;> rw [read] at left
  · exact left
  · split <;> exact left

theorem halts_readDouble : Halts readDouble := by
  intro c unread
  have left := halts_readNumeral c unread
  unfold readDouble
  split <;> rename_i read <;> rw [read] at left <;> exact left

theorem halts_readReferenceToken : Halts readReferenceToken := by
  intro c unread
  exact halts_readBare isTokenEndOrBlank_close c.skipBlanks
    (mem_rest_skipBlanks unread)

theorem halts_readReference (objects : ObjectTable) (className : String) :
    Halts (readReference objects className) := by
  intro c unread
  rw [rest_readReference]
  exact halts_readReferenceToken c unread

theorem halts_readReferenceItem (objects : ObjectTable)
    (className : String) : Halts (readReferenceItem objects className) := by
  intro c unread
  rw [rest_readReferenceItem]
  exact halts_readReferenceToken c unread

theorem close_mem_afterString {text : List Char} (unread : ')' ∈ text)
    (noQuote : ∀ body, text ≠ '"' :: body) : ')' ∈ afterString text := by
  rw [afterString_of_ne noQuote]
  cases found : afterNone? text with
  | none => exact mem_dropWhile_of_refuses (by decide) unread
  | some rest =>
      obtain ⟨front, behind, rfl⟩ := List.append_of_mem unread
      rw [afterNone?_delimited (delimited_close behind)] at found
      obtain ⟨read, _, rfl⟩ := Option.map_eq_some_iff.mp found
      simp

theorem overruns_readString : Overruns readString := by
  intro more c closed done
  have here := closed.skipBlanks
  rw [rest_readString] at done ⊢
  rw [skipBlanks_extend more closed.mem, rest_extend]
  by_cases quoted : ∃ body, c.skipBlanks.rest = '"' :: body
  · obtain ⟨body, opened⟩ := quoted
    obtain ⟨text, shape⟩ := here.next opened (by decide)
    rw [rest_next, opened, List.tail_cons] at shape
    rw [opened, afterString, ← shape] at done
    rw [opened, List.cons_append, afterString, ← shape, List.append_assoc]
    rcases scanQuoted_leavesAbreast (')' :: more) [')'] (List.cons_ne_nil _ _)
      text with ⟨left, _, same⟩ | passed
    · exact absurd (same.symm.trans done) (by simp)
    · exact Nat.le_of_lt_succ passed
  · have unread := close_mem_afterString here.mem
      fun body shape => quoted ⟨body, shape⟩
    rw [done] at unread
    cases unread

theorem overruns_readToken {bare : Cursor → String × Cursor}
    (halts : Halts bare) : Overruns (readToken bare) := by
  intro more c closed done
  have here := closed.skipBlanks
  have some := List.ne_nil_of_mem here.mem
  unfold readToken at done ⊢
  dsimp only at done ⊢
  rw [skipBlanks_extend more closed.mem, peek?_extend more some]
  split at done
  · rename_i quoted
    rw [if_pos quoted]
    exact overruns_readString more _ here done
  · rename_i unquoted
    rw [if_neg unquoted]
    exact halts.overruns more _ here done

/-- What becomes of a token does not move the cursor. -/
theorem Overruns.of_rest {α β : Type} {read : Cursor → α × Cursor}
    {other : Cursor → β × Cursor} (overruns : Overruns read)
    (same : ∀ c, (other c).2.rest = (read c).2.rest) : Overruns other := by
  intro more c closed done
  rw [same] at done ⊢
  exact overruns more c closed done

theorem overruns_readBool : Overruns readBool := by
  refine (overruns_readToken (halts_readBare isTokenEndOrBlank_close)).of_rest
    fun c => ?_
  unfold readBool
  dsimp only
  split
  · rfl
  · split <;> rfl

theorem overruns_readVariant (names : Enumeration) :
    Overruns (readVariant names) := by
  refine (overruns_readToken halts_readWord).of_rest fun c => ?_
  unfold readVariant
  dsimp only
  split <;> rfl

/-! ### Lists -/

/-- A list that has passed the parenthesis did so with one of its items. -/
theorem listStep_overruns {α : Type} {item : Cursor → Option α × Cursor}
    (overruns : Overruns item) (more : List Char) {c : Cursor}
    (closed : c.Closed) (done : (listStep item c).cursor.rest = []) :
    ∃ value after, listStep item (extend more c) = .continued value after ∧
      after.rest.length ≤ more.length := by
  have here := closed.skipBlanks
  have some := List.ne_nil_of_mem here.mem
  obtain ⟨head, tail, shape⟩ := List.exists_cons_of_ne_nil some
  have longer : (extend more c).skipBlanks.rest = head :: (tail ++ more) := by
    rw [skipBlanks_extend more closed.mem, rest_extend, shape,
      List.cons_append]
  have inside : head ≠ ')' → c.skipBlanks.next.rest ≠ [] :=
    fun other => List.ne_nil_of_mem (here.next shape other).mem
  rw [listStep_of_cons item shape] at done
  rw [listStep_of_cons item longer, skipBlanks_extend more closed.mem]
  by_cases close : head = ']'
  · rw [if_pos close] at done
    exact absurd done (inside (by rw [close]; decide))
  · by_cases comma : head = ','
    · rw [if_neg close, if_pos comma] at done
      exact absurd done (inside (by rw [comma]; decide))
    · by_cases ends : head = ')' ∨ head = ';'
      · rw [if_neg close, if_neg comma, if_pos ends] at done
        exact absurd done some
      · rw [if_neg close, if_neg comma, if_neg ends] at done ⊢
        rw [not_or] at ends
        refine ⟨_, _, rfl, ?_⟩
        -- An item that consumes nothing is passed by one character only.
        have read : (item c.skipBlanks).2.rest = [] := by
          simp only [ListStep.cursor, progress] at done
          split at done
          · exact done
          · exact absurd done (inside ends.1)
        have passed := overruns more _ here read
        have moved : (item (extend more c.skipBlanks)).2.rest.length <
            (extend more c.skipBlanks).rest.length := by
          rw [rest_extend, shape, List.length_append, List.length_cons]
          omega
        rw [progress, if_pos moved]
        exact passed

theorem overruns_readItems {α : Type} {item : Cursor → Option α × Cursor}
    (forward : ∀ c : Cursor, c.Reaches (item c).2)
    (itemExtends : Extends item) (overruns : Overruns item) :
    Overruns (readItems item) := by
  intro more c closed done
  by_cases passed : (listStep item c).cursor.rest = []
  · obtain ⟨value, after, step, short⟩ :=
      listStep_overruns overruns more closed passed
    rw [readItems_of_continued step]
    exact Nat.le_trans (reaches_readItems forward after).length_le short
  · have left := closed.of_reaches (reaches_listStep forward c) passed
    have step := listStep_extend forward itemExtends more left.mem
    cases found : listStep item c with
    | finished after =>
        rw [found] at passed
        rw [readItems_of_finished found] at done
        exact absurd done passed
    | continued value after =>
        have less := listStep_length_lt found
        rw [found] at step left
        rw [readItems_of_continued found] at done
        rw [readItems_of_continued step]
        exact overruns_readItems forward itemExtends overruns more after left
          done
termination_by _ c => c.rest.length

theorem overruns_readList {α : Type} {item : Cursor → Option α × Cursor}
    (forward : ∀ c : Cursor, c.Reaches (item c).2)
    (itemExtends : Extends item) (overruns : Overruns item) :
    Overruns (readList item) := by
  intro more c closed done
  have here := closed.skipBlanks
  have some := List.ne_nil_of_mem here.mem
  unfold readList at done ⊢
  dsimp only at done ⊢
  rw [skipBlanks_extend more closed.mem, peek?_extend more some]
  split at done
  · rename_i opened
    obtain ⟨tail, shape⟩ : ∃ tail, c.skipBlanks.rest = '[' :: tail :=
      List.head?_eq_some_iff.mp opened
    rw [if_pos opened, next_extend more some]
    exact overruns_readItems forward itemExtends overruns more _
      (here.next shape (by decide)) done
  · exact absurd done some

theorem overruns_unlessEnd {α : Type} {read : Cursor → α × Cursor}
    (overruns : Overruns read) (value : α → Option Value) :
    Overruns (unlessEnd fun c => (read c).map value id) := by
  intro more c closed done
  have here := closed.skipBlanks
  obtain ⟨head, tail, shape⟩ :=
    List.exists_cons_of_ne_nil (List.ne_nil_of_mem here.mem)
  have goesOn : c.skipBlanks.rest.isEmpty = false := by
    rw [shape]
    rfl
  have stillGoesOn : (c.skipBlanks.rest ++ more).isEmpty = false := by
    rw [shape]
    rfl
  simp only [unlessEnd, skipBlanks_extend more closed.mem, rest_extend, goesOn,
    stillGoesOn, Bool.false_eq_true, if_false] at done ⊢
  exact overruns more _ here done

theorem overruns_readValue (objects : ObjectTable) (type : ValueType) :
    Overruns (readValue objects type) := by
  induction type with
  | string => exact overruns_unlessEnd overruns_readString _
  | bool => exact overruns_unlessEnd overruns_readBool _
  | int => exact overruns_unlessEnd halts_readInt.overruns _
  | double => exact overruns_unlessEnd halts_readDouble.overruns _
  | enumeration names => exact overruns_unlessEnd (overruns_readVariant names) _
  | array element induction =>
      exact overruns_unlessEnd (overruns_readList
        (reaches_readValue objects element)
        (extends_readValue objects element) induction) _
  | reference className =>
      exact overruns_unlessEnd
        (halts_readReference objects className).overruns _
  | references className =>
      exact overruns_unlessEnd (overruns_readList
        (reaches_readReferenceItem objects className)
        (extends_readReferenceItem objects className)
        (halts_readReferenceItem objects className).overruns) _

end Cursor

namespace Parser

open Cursor

section

variable (more : List Char)

/-! ### Arguments -/

theorem skipArgument_overruns {c : Cursor} (closed : c.Closed)
    (done : (skipArgument c).rest = []) :
    (skipArgument (c.extend more)).rest.length ≤ more.length := by
  obtain ⟨text, shape⟩ := closed
  rw [rest_skipArgument, ← shape] at done
  rw [rest_skipArgument, rest_extend, ← shape, List.append_assoc]
  exact value_overruns done more

theorem readField_overruns (objects : ObjectTable) (field : Field) {c : Cursor}
    (state : ArgumentList) (closed : c.Closed)
    (done : (readField objects field c state).cursor.rest = []) :
    (readField objects field (c.extend more)
      (state.extend more)).cursor.rest.length ≤ more.length := by
  rw [cursor_readField] at done ⊢
  exact overruns_readValue objects field.type more c closed done

theorem rest_checkSeparator (dialect : Dialect) (equals : Bool) (c : Cursor) :
    (checkSeparator dialect equals c).rest = c.rest := by
  unfold checkSeparator
  split <;> rfl

theorem readNamed_overruns (dialect : Dialect) (objects : ObjectTable)
    (found : ArgumentName) {c : Cursor} (state : ArgumentList)
    (closed : c.Closed)
    (done : (readNamed dialect objects found c state).cursor.rest = []) :
    (readNamed dialect objects found (c.extend more)
      (state.extend more)).cursor.rest.length ≤ more.length := by
  have invocation : (state.extend more).invocation = state.invocation := rfl
  have here : (checkSeparator dialect found.equals
      (c.inArgument found.name)).Closed := by
    unfold Closed
    rw [rest_checkSeparator]
    exact closed
  unfold readNamed at done ⊢
  simp only [inArgument_extend, checkSeparator_extend, warn_extend,
    error_extend, invocation] at done ⊢
  split
  · rename_i unknown
    rw [unknown] at done
    exact skipArgument_overruns more here done
  · rename_i field known
    rw [known] at done
    dsimp only at done
    split
    · rename_i scriptable
      rw [if_pos scriptable] at done
      split
      · rename_i repeated
        rw [if_pos repeated] at done
        exact readField_overruns more objects field state here done
      · rename_i first
        rw [if_neg first] at done
        exact readField_overruns more objects field state here done
    · rename_i internal
      rw [if_neg internal] at done
      exact skipArgument_overruns more here done

theorem readPositional_overruns (dialect : Dialect) (objects : ObjectTable)
    {c : Cursor} (state : ArgumentList) (closed : c.Closed)
    (done : (readPositional dialect objects c state).cursor.rest = []) :
    (readPositional dialect objects (c.extend more)
      (state.extend more)).cursor.rest.length ≤ more.length := by
  have same : positionalField? (state.extend more) =
      positionalField? state := rfl
  unfold readPositional at done ⊢
  simp only [same, inArgument_extend, error_extend] at done ⊢
  split
  · rename_i positional
    rw [if_pos positional] at done
    split
    · rename_i field isNext
      rw [isNext] at done
      exact readField_overruns more objects field
        { state with passed := passedBy state field } closed done
    · rename_i full
      rw [full] at done
      exact skipArgument_overruns more closed done
  · rename_i named
    rw [if_neg named] at done
    exact skipArgument_overruns more closed done

theorem readArgument_overruns (dialect : Dialect) (objects : ObjectTable)
    {c : Cursor} (state : ArgumentList) (closed : c.Closed)
    (done : (readArgument dialect objects c state).cursor.rest = []) :
    (readArgument dialect objects (c.extend more)
      (state.extend more)).cursor.rest.length ≤ more.length := by
  have name := scan_append argumentName?_delimited closed.mem more
  unfold readArgument at done ⊢
  rw [rest_extend, name]
  cases named : argumentName? c.rest with
  | none =>
      rw [named] at done
      exact readPositional_overruns more dialect objects state closed done
  | some found =>
      have left := halts_scan argumentName?_delimited closed.mem named
      have here := closed.of_reaches (c.reaches_moveTo found.2)
        (List.ne_nil_of_mem left)
      rw [named] at done
      simp only [Option.map_some, moveTo_extend]
      exact readNamed_overruns more dialect objects found.1 state here done

theorem recover_overruns {c : Cursor} (closed : c.Closed)
    (done : (recover c).rest = []) :
    (recover (c.extend more)).rest.length ≤ more.length := by
  have here := closed.skipBlanks
  have some := List.ne_nil_of_mem here.mem
  obtain ⟨head, tail, shape⟩ := List.exists_cons_of_ne_nil some
  unfold recover at done ⊢
  simp only [skipBlanks_extend more closed.mem, rest_extend, shape,
    List.cons_append] at done ⊢
  split
  · rename_i mark
    rw [if_pos mark] at done
    exact absurd done some
  · rename_i other
    rw [if_neg other] at done
    rw [error_extend]
    exact skipArgument_overruns more
      (c := c.skipBlanks.error (.unexpectedAfterValue head)) here done

theorem skipComma_closed {c : Cursor} (closed : c.Closed) :
    (skipComma c).Closed := by
  unfold skipComma
  split
  · rename_i comma
    obtain ⟨tail, shape⟩ := List.head?_eq_some_iff.mp comma
    exact closed.next shape (by decide)
  · exact closed

theorem finishArgument_overruns {c : Cursor} (closed : c.Closed)
    (done : (finishArgument c).rest = []) :
    (finishArgument (c.extend more)).rest.length ≤ more.length := by
  rw [finishArgument_eq] at done ⊢
  by_cases passed : (recover c).rest = []
  · exact Nat.le_trans (reaches_skipComma _).length_le
      (recover_overruns more closed passed)
  · have left := closed.of_reaches (reaches_recover c) passed
    exact absurd done (List.ne_nil_of_mem (skipComma_closed left).mem)

/-- A step that passes the parenthesis passes it in a longer text, too. -/
theorem argumentStep_overruns (dialect : Dialect) (objects : ObjectTable)
    (start : Nat) {state : ArgumentList} (closed : state.cursor.Closed)
    {next : ArgumentList}
    (step : argumentStep dialect objects start state = .continued next)
    (done : next.cursor.rest = []) :
    ∃ further, argumentStep dialect objects start (state.extend more) =
      .continued further ∧ further.cursor.rest.length ≤ more.length := by
  have here := closed.skipBlanks
  have some := List.ne_nil_of_mem here.mem
  obtain ⟨head, tail, shape⟩ := List.exists_cons_of_ne_nil some
  have cursor : (state.extend more).cursor = state.cursor.extend more := rfl
  simp only [argumentStep, shape] at step
  simp only [argumentStep, cursor, skipBlanks_extend more closed.mem,
    rest_extend, shape, List.cons_append]
  by_cases close : head = ')'
  · rw [if_pos close] at step
    cases step
  · rw [if_neg close] at step ⊢
    by_cases comma : head = ','
    · rw [if_pos comma] at step
      cases step
      exact absurd done (List.ne_nil_of_mem (here.next shape close).mem)
    · rw [if_neg comma] at step ⊢
      cases step
      refine ⟨_, rfl, ?_⟩
      by_cases passed : (readArgument dialect objects state.cursor.skipBlanks
          state).cursor.rest = []
      · exact Nat.le_trans (reaches_finishArgument _).length_le
          (readArgument_overruns more dialect objects state here passed)
      · have left := here.of_reaches
          (reaches_readArgument dialect objects _ state) passed
        rw [readArgument_extend more dialect objects _ state left.mem]
        exact finishArgument_overruns more left done

/-- Without an error an argument list ends behind a closing parenthesis. -/
theorem close_suffix_of_clean {dialect : Dialect} {objects : ObjectTable}
    {start : Nat} (state : ArgumentList)
    (clean : (readArguments dialect objects start state).2.Clean) :
    ')' :: (readArguments dialect objects start state).2.rest <:+
      state.cursor.rest := by
  cases step : argumentStep dialect objects start state with
  | finished after =>
      rw [readArguments_of_finished step] at clean ⊢
      obtain ⟨tail, shape⟩ := exists_close_of_finished step clean
      have forward := state.cursor.reaches_skipBlanks.suffix
      simp only [argumentStep, shape, if_true] at step
      cases step
      rw [rest_next, shape, List.tail_cons]
      rw [shape] at forward
      exact forward
  | continued next =>
      have less := argumentStep_length_lt step
      have forward := reaches_argumentStep dialect objects start state
      rw [step] at forward
      rw [readArguments_of_continued step] at clean ⊢
      exact (close_suffix_of_clean next clean).trans forward.suffix
termination_by state.cursor.rest.length

/-- An argument list that ends where the text is cut has no errors in the cut
text. -/
theorem readArguments_cut {dialect : Dialect} {objects : ObjectTable}
    {start : Nat} (state : ArgumentList) (closed : state.cursor.Closed)
    (clean : (readArguments dialect objects start
      (state.extend more)).2.Clean)
    (ends : (readArguments dialect objects start
      (state.extend more)).2.rest = more) :
    (readArguments dialect objects start state).2.Clean := by
  cases step : argumentStep dialect objects start state with
  | finished after =>
      have begun : (state.extend more).cursor.Clean :=
        clean.of_reaches (reaches_readArguments dialect objects start _)
      obtain ⟨head, tail, shape⟩ := List.exists_cons_of_ne_nil
        (List.ne_nil_of_mem closed.skipBlanks.mem)
      rw [readArguments_of_finished step]
      simp only [argumentStep, shape] at step
      split at step
      · cases step
        exact begun
      · split at step <;> cases step
  | continued next =>
      have less := argumentStep_length_lt step
      have forward := reaches_argumentStep dialect objects start state
      rw [step] at forward
      rw [readArguments_of_continued step]
      by_cases passed : next.cursor.rest = []
      · obtain ⟨further, step', short⟩ := argumentStep_overruns more dialect
          objects start closed step passed
        rw [readArguments_of_continued step'] at clean ends
        have long := (close_suffix_of_clean further clean).length_le
        rw [ends, List.length_cons] at long
        omega
      · have left := closed.of_reaches forward passed
        rw [readArguments_of_continued
          (argumentStep_extend more step left.mem)] at clean ends
        exact readArguments_cut next left clean ends
termination_by state.cursor.rest.length

theorem readInvocation_cut {dialect : Dialect} {objects : ObjectTable}
    {invocation : Invocation} {c : Cursor} (closed : c.Closed)
    (clean : (readInvocation dialect objects invocation
      (c.extend more)).2.Clean)
    (ends : (readInvocation dialect objects invocation
      (c.extend more)).2.rest = more) :
    (readInvocation dialect objects invocation c).2.Clean := by
  have here := closed.skipBlanks
  have some := List.ne_nil_of_mem here.mem
  obtain ⟨opened, _⟩ := exists_open_of_clean clean
  rw [skipBlanks_extend more closed.mem, peek?_extend more some] at opened
  obtain ⟨tail, shape⟩ : ∃ tail, c.skipBlanks.rest = '(' :: tail :=
    List.head?_eq_some_iff.mp opened
  simp only [readInvocation, skipBlanks_extend more closed.mem,
    peek?_extend more some, opened, if_true, next_extend more some,
    line_extend] at clean ends ⊢
  exact readArguments_cut more { cursor := c.skipBlanks.next, invocation }
    (here.next shape (by decide)) clean ends

theorem readStatement_cut {registry : Registry} {dialect : Dialect}
    {objects : ObjectTable} {c : Cursor} (closed : c.Closed)
    (clean : (readStatement registry dialect objects
      (c.extend more)).2.Clean)
    (ends : (readStatement registry dialect objects
      (c.extend more)).2.rest = more) :
    (readStatement registry dialect objects c).2.Clean := by
  unfold readStatement at clean ends ⊢
  simp only [rest_extend, scan_append identifier?_delimited closed.mem]
    at clean ends
  cases word : identifier? c.rest with
  | none =>
      simp only [word, Option.map_none] at clean
      exact absurd (clean.of_reaches (reaches_skipCommand _))
        (not_clean_errorAt _ _ _)
  | some found =>
      obtain ⟨letters, after⟩ := found
      simp only [word, Option.map_some, moveTo_extend, inCommand_extend,
        line_extend] at clean ends ⊢
      cases known : registry.create? (String.ofList letters) with
      | none =>
          simp only [known] at clean
          exact absurd (Clean.of_reaches clean ((reaches_skipCommand _).trans
            (reaches_leaveCommand _))) (not_clean_errorAt _ _ _)
      | some invocation =>
          simp only [known] at clean ends ⊢
          have left := halts_scan identifier?_delimited closed.mem word
          have here : ((c.moveTo after).inCommand
              (String.ofList letters)).Closed :=
            closed.of_reaches ((c.reaches_moveTo after).trans
              (reaches_inCommand _ _)) (List.ne_nil_of_mem left)
          exact readInvocation_cut more here clean ends

end

/-- A statement without errors ends behind a closing parenthesis. -/
theorem readStatement_close_suffix {registry : Registry} {dialect : Dialect}
    {objects : ObjectTable} {c : Cursor}
    (clean : (readStatement registry dialect objects c).2.Clean) :
    ')' :: (readStatement registry dialect objects c).2.rest <:+ c.rest := by
  unfold readStatement at clean ⊢
  cases word : identifier? c.rest with
  | none =>
      rw [word] at clean
      exact absurd (clean.of_reaches (reaches_skipCommand _))
        (not_clean_errorAt _ _ _)
  | some found =>
      obtain ⟨letters, after⟩ := found
      simp only [word] at clean ⊢
      cases known : registry.create? (String.ofList letters) with
      | none =>
          simp only [known] at clean
          exact absurd (Clean.of_reaches clean ((reaches_skipCommand _).trans
            (reaches_leaveCommand _))) (not_clean_errorAt _ _ _)
      | some invocation =>
          simp only [known] at clean ⊢
          obtain ⟨opened, _⟩ := exists_open_of_clean
            (c := (c.moveTo after).inCommand (String.ofList letters)) clean
          have forward := ((c.reaches_moveTo after).trans
            (reaches_inCommand _ (String.ofList letters))).trans
              ((reaches_skipBlanks _).trans (reaches_next _))
          simp only [readInvocation, opened, if_true] at clean ⊢
          exact (close_suffix_of_clean _ clean).trans forward.suffix

/-- A statement without errors is read the same however the text goes on
behind it. -/
theorem readStatement_elsewhere {registry : Registry} {dialect : Dialect}
    {objects : ObjectTable} {c : Cursor}
    (clean : (readStatement registry dialect objects c).2.Clean)
    {text : List Char}
    (passed : c.rest =
      text ++ (readStatement registry dialect objects c).2.rest)
    (other : List Char) :
    readStatement registry dialect objects { c with rest := text ++ other } =
      ((readStatement registry dialect objects c).1,
        { (readStatement registry dialect objects c).2 with
          rest := other }) := by
  let cut : Cursor := { c with rest := text }
  obtain ⟨front, shape⟩ := readStatement_close_suffix clean
  generalize behind : (readStatement registry dialect objects c).2.rest = rest
    at passed shape
  have whole : c = cut.extend rest := by
    simp only [cut, extend, ← passed]
  have closed : cut.Closed := by
    have joined : (front ++ [')']) ++ rest = text ++ rest := by
      rw [List.append_assoc, ← passed]
      exact shape
    exact ⟨front, List.append_cancel_right joined⟩
  rw [whole] at clean behind
  have cutClean := readStatement_cut rest closed clean behind
  have here := readStatement_extend rest cutClean
  have done : (readStatement registry dialect objects cut).2.rest = [] := by
    rw [here, rest_extend] at behind
    exact List.append_left_eq_self.mp behind
  rw [whole, here]
  refine (readStatement_extend other cutClean).trans ?_
  simp only [extend, done, List.nil_append]

end Parser

end GridScript
