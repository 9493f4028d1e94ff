import GridScript.Proofs.Joining
import GridScript.Proofs.Silence

/-!
# Reading makes progress

Scripts are read by loops: over the statements, over what separates them, over
the arguments of an invocation, over the arguments of a command that is not
understood, and over the items of arrays.  A round of a loop either leaves it or
uses up text.  So every loop ends, after no more rounds than there are
characters, and what it ends with is what the reading functions give.
-/

namespace GridScript

namespace Loop

variable {σ ρ : Type} {round : σ → σ ⊕ ρ} {unread : σ → List Char}
  {result : σ → ρ}

/-- The loop that repeats `round` is left with a result, after so many rounds
that did not leave it. -/
inductive Ends (round : σ → σ ⊕ ρ) : σ → Nat → ρ → Prop where
  | leave {state : σ} {final : ρ} (left : round state = .inr final) :
      Ends round state 0 final
  | again {state next : σ} {count : Nat} {final : ρ}
      (goes : round state = .inl next) (later : Ends round next count final) :
      Ends round state (count + 1) final

/-- Every round that does not leave the loop leaves less text unread; so no
rounds go on for ever, and from any state the loop ends with `result`. -/
structure UsesUp (round : σ → σ ⊕ ρ) (unread : σ → List Char)
    (result : σ → ρ) : Prop where
  shrinks : ∀ state next, round state = .inl next →
    (unread next).length < (unread state).length
  wellFounded : WellFounded fun next state => round state = .inl next
  ends : ∀ state, ∃ count ≤ (unread state).length,
    Ends round state count (result state)

/-- What a round comes to, if `result` is what the loop ends with: it leaves the
loop with the result, or it uses up text and the result stays the same. -/
def Follows (unread : σ → List Char) (result : σ → ρ) (state : σ) :
    σ ⊕ ρ → Prop
  | .inl next => (unread next).length < (unread state).length ∧
      result state = result next
  | .inr final => result state = final

theorem UsesUp.of_follows
    (follows : ∀ state, Follows unread result state (round state)) :
    UsesUp round unread result := by
  have goes : ∀ state next, round state = .inl next →
      (unread next).length < (unread state).length ∧
        result state = result next := by
    intro state next step
    have here := follows state
    rw [step] at here
    exact here
  have wellFounded : WellFounded fun next state => round state = .inl next :=
    Subrelation.wf (fun {next state} step => (goes state next step).1)
      (measure fun state => (unread state).length).wf
  refine ⟨fun state next step => (goes state next step).1, wellFounded, ?_⟩
  intro state
  induction state using wellFounded.induction with
  | h state induction =>
      have here := follows state
      cases step : round state with
      | inr final =>
          rw [step] at here
          rw [here]
          exact ⟨0, Nat.zero_le _, .leave step⟩
      | inl next =>
          obtain ⟨less, same⟩ := goes state next step
          obtain ⟨count, few, ends⟩ := induction next step
          rw [same]
          exact ⟨count + 1, by omega, .again step ends⟩

end Loop

open Loop (Ends UsesUp)

namespace Cursor

/-! ### Items -/

/-- A round along a bracketed list, with the items read so far. -/
def listRound {α : Type} (item : Cursor → Option α × Cursor)
    (state : List α × Cursor) : (List α × Cursor) ⊕ (List α × Cursor) :=
  match listStep item state.2 with
  | .finished after => .inr (state.1, after)
  | .continued value after => .inl (state.1 ++ value.toList, after)

/-- The items read so far and those that follow. -/
def readItemsOnto {α : Type} (item : Cursor → Option α × Cursor)
    (state : List α × Cursor) : List α × Cursor :=
  let others := readItems item state.2
  (state.1 ++ others.1, others.2)

theorem usesUp_listRound {α : Type} (item : Cursor → Option α × Cursor) :
    UsesUp (listRound item) (·.2.rest) (readItemsOnto item) := by
  apply UsesUp.of_follows
  intro state
  unfold listRound
  split
  · rename_i step
    simp only [Loop.Follows, readItemsOnto, readItems_of_finished step,
      List.append_nil]
  · rename_i step
    refine ⟨listStep_length_lt step, ?_⟩
    simp only [readItemsOnto, readItems_of_continued step, List.append_assoc]

/-! ### Moving in parts -/

/-- Moving on from behind a lexeme is moving on from its start. -/
theorem moveTo_behind {c : Cursor} {lexeme rest remainder : List Char}
    (unread : c.rest = lexeme ++ rest) (ends : remainder <:+ rest) :
    (c.behind lexeme rest).moveTo remainder = c.moveTo remainder := by
  obtain ⟨middle, rfl⟩ := ends
  have split : c.rest = (lexeme ++ middle) ++ remainder := by
    rw [unread, List.append_assoc]
  rw [moveTo_eq_behind (rest_behind c lexeme (middle ++ remainder)),
    behind_behind, moveTo_eq_behind split]

end Cursor

namespace Parser

open Cursor

/-! ### Separators -/

/-- A round along what separates statements: blanks, and then a semicolon or a
comment line. -/
def separatorRound (dialect : Dialect) (c : Cursor) : Cursor ⊕ Cursor :=
  let here := c.skipBlanks
  match here.rest with
  | [] => .inr here
  | next :: _ =>
      if next = ';' then .inl here.next
      else if next = dialect.comment then .inl here.skipLine
      else .inr here

theorem separators_dropWhile (comment : Char) (text : List Char) :
    Skip.separators comment (text.dropWhile isBlank) =
      Skip.separators comment text := by
  induction text with
  | nil => rfl
  | cons head tail induction =>
      by_cases blank : isBlank head = true
      · rw [List.dropWhile_cons_of_pos blank, induction,
          separators_cons comment head, blank]
        rfl
      · rw [List.dropWhile_cons_of_neg blank]

/-- Separators that are passed in parts are passed as a whole. -/
theorem skipSeparators_behind {dialect : Dialect} {c : Cursor}
    {lexeme rest : List Char} (unread : c.rest = lexeme ++ rest)
    (same : Skip.separators dialect.comment c.rest =
      Skip.separators dialect.comment rest) :
    skipSeparators dialect c =
      skipSeparators dialect (c.behind lexeme rest) := by
  rw [skipSeparators, skipSeparators, rest_behind, same]
  exact (moveTo_behind unread (separators_suffix _ _)).symm

theorem skipSeparators_skipBlanks (dialect : Dialect) (c : Cursor) :
    skipSeparators dialect c = skipSeparators dialect c.skipBlanks := by
  obtain ⟨split, here⟩ := c.skipBlanks_eq_behind
  rw [here]
  apply skipSeparators_behind split
  rw [rest_skipBlanks, separators_dropWhile]

/-- A comment line is passed together with its first character. -/
theorem skipSeparators_skipLine {dialect : Dialect} {c : Cursor}
    {tail : List Char} (unread : c.rest = dialect.comment :: tail)
    (visible : isBlank dialect.comment = false)
    (opens : dialect.comment ≠ ';') :
    c.skipLine.rest.length < c.rest.length ∧
      skipSeparators dialect c = skipSeparators dialect c.skipLine := by
  have noNewline : dialect.comment ≠ '\n' := by
    intro newline
    rw [newline] at visible
    exact absurd visible (by decide)
  have line : afterNewline c.rest = afterNewline tail := by
    rw [unread, afterNewline, if_neg noNewline]
  have suffix := Skip.afterNewline_suffix c.rest
  constructor
  · have shorter := (Skip.afterNewline_suffix tail).length_le
    rw [skipLine, length_moveTo _ suffix.length_le, line, unread,
      List.length_cons]
    omega
  · obtain ⟨passed, split⟩ := suffix
    rw [skipLine, moveTo_eq_behind split.symm]
    apply skipSeparators_behind split.symm
    rw [line, unread, separators_cons]
    simp [visible, opens]

theorem usesUp_separatorRound (dialect : Dialect) :
    UsesUp (separatorRound dialect) Cursor.rest (skipSeparators dialect) := by
  apply UsesUp.of_follows
  intro c
  have shorter := c.reaches_skipBlanks.length_le
  have blanks := skipSeparators_skipBlanks dialect c
  unfold separatorRound
  dsimp only
  split
  · rename_i done
    refine blanks.trans ?_
    rw [skipSeparators, done, separators_nil, moveTo_eq_self done]
  · rename_i next tail unread
    have visible := visible_of_skipBlanks unread
    split
    · rename_i semicolon
      constructor
      · rw [rest_next, unread, List.tail_cons]
        rw [unread, List.length_cons] at shorter
        omega
      · rw [blanks, next_eq_behind unread]
        apply skipSeparators_behind unread
        rw [unread, separators_cons, semicolon]
        simp
    · rename_i opens
      split
      · rename_i comment
        rw [comment] at unread visible opens
        obtain ⟨less, same⟩ := skipSeparators_skipLine unread visible opens
        exact ⟨Nat.lt_of_lt_of_le less shorter, blanks.trans same⟩
      · rename_i noComment
        exact blanks.trans
          (skipSeparators_eq_self unread visible opens noComment)

/-! ### Arguments that are passed over -/

/-- A round along the arguments of a command that is not understood. -/
def skipRound (c : Cursor) : Cursor ⊕ Cursor :=
  let here := skipArgument c
  match here.rest with
  | [] => .inr here
  | next :: _ => if next = ')' then .inr here.next else .inl here.next

theorem arguments_suffix (text : List Char) : Skip.arguments text <:+ text := by
  have argument : Skip.argument text <:+ text := value_suffix 0 false text
  rw [arguments_eq]
  split
  · exact List.nil_suffix
  · rename_i next rest left
    rw [left] at argument
    have shorter := argument.length_le
    rw [List.length_cons] at shorter
    have behind := (List.suffix_cons next rest).trans argument
    split
    · exact behind
    · exact (arguments_suffix rest).trans behind
termination_by text.length

theorem usesUp_skipRound :
    UsesUp skipRound Cursor.rest fun c => c.moveTo (Skip.arguments c.rest) := by
  apply UsesUp.of_follows
  intro c
  have rest := rest_skipArgument c
  obtain ⟨passed, split⟩ : Skip.argument c.rest <:+ c.rest :=
    value_suffix 0 false c.rest
  have here : skipArgument c = c.behind passed (Skip.argument c.rest) :=
    moveTo_eq_behind split.symm
  unfold skipRound
  dsimp only
  split
  · rename_i done
    rw [rest] at done
    change c.moveTo (Skip.arguments c.rest) = c.moveTo (Skip.argument c.rest)
    rw [arguments_eq, done]
  · rename_i next tail unread
    have found : Skip.argument c.rest = next :: tail := rest.symm.trans unread
    have whole : c.rest = (passed ++ [next]) ++ tail := by
      rw [← split, found, List.append_assoc]
      rfl
    have after : (skipArgument c).next = c.behind (passed ++ [next]) tail := by
      rw [next_eq_behind unread, here, behind_behind]
    rw [after]
    split
    · rename_i close
      change c.moveTo (Skip.arguments c.rest) = _
      rw [arguments_eq, found, ← moveTo_eq_behind whole]
      simp [close]
    · rename_i opens
      have further : Skip.arguments c.rest = Skip.arguments tail := by
        rw [arguments_eq, found]
        simp [opens]
      constructor
      · rw [rest_behind, whole, List.length_append, List.length_append,
          List.length_singleton]
        omega
      · change c.moveTo (Skip.arguments c.rest) = _
        rw [further]
        exact (moveTo_behind whole (arguments_suffix tail)).symm

/-! ### Arguments -/

/-- A round along an argument list: over a comma, or over an argument and what
ends it. -/
def argumentRound (dialect : Dialect) (objects : ObjectTable) (start : Nat)
    (state : ArgumentList) : ArgumentList ⊕ (Invocation × Cursor) :=
  match argumentStep dialect objects start state with
  | .finished after => .inr (state.invocation, after)
  | .continued next => .inl next

theorem usesUp_argumentRound (dialect : Dialect) (objects : ObjectTable)
    (start : Nat) :
    UsesUp (argumentRound dialect objects start) (·.cursor.rest)
      (readArguments dialect objects start) := by
  apply UsesUp.of_follows
  intro state
  unfold argumentRound
  split
  · rename_i step
    exact readArguments_of_finished step
  · rename_i step
    exact ⟨argumentStep_length_lt step, readArguments_of_continued step⟩

/-! ### Statements -/

/-- A round along a script: over separators and a statement, with the
invocations read so far. -/
def scriptRound (registry : Registry) (dialect : Dialect)
    (objects : ObjectTable) (state : List Invocation × Cursor) :
    (List Invocation × Cursor) ⊕ (List Invocation × Cursor) :=
  let here := skipSeparators dialect state.2
  if here.rest = [] then .inr (state.1, here)
  else
    let statement := readStatement registry dialect objects here
    .inl (state.1 ++ statement.1.toList, statement.2)

/-- The invocations read so far and those that follow. -/
def readScriptOnto (registry : Registry) (dialect : Dialect)
    (objects : ObjectTable) (state : List Invocation × Cursor) :
    List Invocation × Cursor :=
  let others := readScript registry dialect objects state.2
  (state.1 ++ others.1, others.2)

theorem usesUp_scriptRound (registry : Registry) (dialect : Dialect)
    (objects : ObjectTable) :
    UsesUp (scriptRound registry dialect objects) (·.2.rest)
      (readScriptOnto registry dialect objects) := by
  apply UsesUp.of_follows
  intro state
  unfold scriptRound
  dsimp only
  split
  · rename_i done
    simp only [Loop.Follows, readScriptOnto,
      readScript_done registry dialect objects done, List.append_nil]
  · rename_i unread
    refine ⟨script_length_lt registry dialect objects unread, ?_⟩
    simp only [readScriptOnto,
      readScript_step registry dialect objects unread, List.append_assoc]

/-- Every round of every loop in the reading of a script leaves the loop or uses
up text: along the script, the separators, an argument list, the arguments that
are passed over, and the items of arrays of any type.  So the rounds are
well-founded, each loop ends with what its reading function gives, and a script
is read to its end, in no more rounds than it has characters. -/
theorem reading_uses_up_text (registry : Registry) (dialect : Dialect)
    (objects : ObjectTable) :
    UsesUp (scriptRound registry dialect objects) (·.2.rest)
        (readScriptOnto registry dialect objects) ∧
      UsesUp (separatorRound dialect) Cursor.rest (skipSeparators dialect) ∧
      (∀ start, UsesUp (argumentRound dialect objects start) (·.cursor.rest)
        (readArguments dialect objects start)) ∧
      UsesUp skipRound Cursor.rest
        (fun c => c.moveTo (Skip.arguments c.rest)) ∧
      (∀ element, UsesUp (listRound (readValue objects element)) (·.2.rest)
        (readItemsOnto (readValue objects element))) ∧
      (∀ className,
        UsesUp (listRound (readReferenceItem objects className)) (·.2.rest)
          (readItemsOnto (readReferenceItem objects className))) ∧
      ∀ text : String, ∃ count ≤ text.toList.length, ∃ final,
        Ends (scriptRound registry dialect objects) ([], .ofText text) count
          final ∧
        final.2.rest = [] ∧
        parseScript registry dialect objects text =
          ⟨final.1, final.2.diagnostics⟩ := by
  refine ⟨usesUp_scriptRound registry dialect objects,
    usesUp_separatorRound dialect, usesUp_argumentRound dialect objects,
    usesUp_skipRound, fun _ => usesUp_listRound _,
    fun _ => usesUp_listRound _, ?_⟩
  intro text
  obtain ⟨count, few, ends⟩ :=
    (usesUp_scriptRound registry dialect objects).ends ([], .ofText text)
  exact ⟨count, few, _, ends, rest_readScript registry dialect objects _, rfl⟩

end Parser

end GridScript
