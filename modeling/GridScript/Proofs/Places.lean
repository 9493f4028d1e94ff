import GridScript.Proofs.SourceOrder
import Mathlib.Data.List.Forall2

/-!
# Where the keywords stand

Each invocation of a script is read from a place of its own in the text, where
its keyword stands.  The places are in the order of the invocations, and the
line of an invocation is the line of its place.
-/

namespace GridScript

namespace Parser

open Cursor

section

variable (registry : Registry) (dialect : Dialect) (objects : ObjectTable)

/-- The cursors where the invocations of a script are read, one for each. -/
def invocationStarts (c : Cursor) : List Cursor :=
  let here := skipSeparators dialect c
  if _unread : here.rest = [] then []
  else
    let statement := readStatement registry dialect objects here
    (statement.1.map fun _ => here).toList ++ invocationStarts statement.2
termination_by c.rest.length
decreasing_by exact script_length_lt registry dialect objects _unread

theorem invocationStarts_done {c : Cursor}
    (done : (skipSeparators dialect c).rest = []) :
    invocationStarts registry dialect objects c = [] := by
  rw [invocationStarts]
  simp only [done, dite_true]

theorem invocationStarts_step {c : Cursor}
    (unread : (skipSeparators dialect c).rest ≠ []) :
    invocationStarts registry dialect objects c =
      let here := skipSeparators dialect c
      let statement := readStatement registry dialect objects here
      (statement.1.map fun _ => here).toList ++
        invocationStarts registry dialect objects statement.2 := by
  rw [invocationStarts]
  simp only [unread, dite_false]

/-- At each of the cursors one statement gives the invocation. -/
theorem forall₂_invocationStarts (c : Cursor) :
    List.Forall₂ (fun start invocation => c.Reaches start ∧
        (readStatement registry dialect objects start).1 = some invocation)
      (invocationStarts registry dialect objects c)
      (readScript registry dialect objects c).1 := by
  by_cases unread : (skipSeparators dialect c).rest = []
  · rw [invocationStarts_done registry dialect objects unread,
      readScript_done registry dialect objects unread]
    exact .nil
  · have less := script_length_lt registry dialect objects unread
    have here := reaches_skipSeparators dialect c
    have there := here.trans (reaches_readStatement registry dialect objects _)
    have later := (forall₂_invocationStarts (readStatement registry dialect
      objects (skipSeparators dialect c)).2).imp
        fun _ _ found => And.intro (there.trans found.1) found.2
    rw [invocationStarts_step registry dialect objects unread,
      readScript_step registry dialect objects unread]
    dsimp only
    cases read : (readStatement registry dialect objects
      (skipSeparators dialect c)).1 with
    | none => exact later
    | some invocation => exact .cons ⟨here, read⟩ later
termination_by c.rest.length

theorem reaches_of_mem_invocationStarts {c start : Cursor}
    (member : start ∈ invocationStarts registry dialect objects c) :
    c.Reaches start := by
  by_cases unread : (skipSeparators dialect c).rest = []
  · rw [invocationStarts_done registry dialect objects unread] at member
    cases member
  · have less := script_length_lt registry dialect objects unread
    have here := reaches_skipSeparators dialect c
    rw [invocationStarts_step registry dialect objects unread] at member
    rcases List.mem_append.mp member with first | later
    · obtain ⟨_, _, rfl⟩ :=
        Option.map_eq_some_iff.mp (Option.mem_toList.mp first)
      exact here
    · have behind := reaches_readStatement registry dialect objects
        (skipSeparators dialect c)
      exact (here.trans behind).trans (reaches_of_mem_invocationStarts later)
termination_by c.rest.length

/-- An invocation begins behind all that was read for the earlier ones. -/
theorem pairwise_invocationStarts (c : Cursor) :
    (invocationStarts registry dialect objects c).Pairwise
      fun first second => first.Reaches second ∧
        second.rest.length < first.rest.length := by
  by_cases unread : (skipSeparators dialect c).rest = []
  · rw [invocationStarts_done registry dialect objects unread]
    exact .nil
  · have less := script_length_lt registry dialect objects unread
    have later := pairwise_invocationStarts (readStatement registry dialect
      objects (skipSeparators dialect c)).2
    rw [invocationStarts_step registry dialect objects unread]
    refine List.pairwise_append.mpr ⟨?_, later, ?_⟩
    · cases (readStatement registry dialect objects
        (skipSeparators dialect c)).1 with
      | none => exact .nil
      | some invocation => exact List.pairwise_singleton _ _
    · intro first isFirst second inLater
      obtain ⟨_, _, rfl⟩ :=
        Option.map_eq_some_iff.mp (Option.mem_toList.mp isFirst)
      obtain ⟨head, tail, shape⟩ := List.exists_cons_of_ne_nil unread
      have begins := separators_eq_cons
        ((rest_skipSeparators dialect c).symm.trans shape)
      have shorter := readStatement_length_lt registry dialect objects shape
        begins.2 begins.1
      have further := reaches_of_mem_invocationStarts registry dialect objects
        inLater
      exact ⟨(reaches_readStatement registry dialect objects _).trans further,
        Nat.lt_of_le_of_lt further.length_le shorter⟩
termination_by c.rest.length

end

/-- Arguments do not change where and by which keyword a command is used. -/
theorem readArguments_heading (dialect : Dialect) (objects : ObjectTable)
    (start : Nat) (state : ArgumentList) :
    (readArguments dialect objects start state).1.keyword =
        state.invocation.keyword ∧
      (readArguments dialect objects start state).1.line =
        state.invocation.line := by
  refine @readArguments_keeps dialect objects start
    (fun read => read.keyword = state.invocation.keyword ∧
      read.line = state.invocation.line) state ?_ ⟨rfl, rfl⟩
  rintro _ _ _ _ holds ⟨_, _, _, _, _, _, _, rfl⟩
  exact holds

/-- An invocation has the word that stands at the cursor for its keyword, and
the line of the cursor. -/
theorem readStatement_eq_some {registry : Registry} {dialect : Dialect}
    {objects : ObjectTable} {c : Cursor} {invocation : Invocation}
    (read : (readStatement registry dialect objects c).1 = some invocation) :
    (∃ after, identifier? c.rest = some (invocation.keyword.toList, after)) ∧
      invocation.line = c.line := by
  unfold readStatement at read
  split at read
  · cases read
  · rename_i word after found
    dsimp only at read
    split at read
    · cases read
    · rename_i created known
      obtain ⟨command, _, rfl⟩ := Option.map_eq_some_iff.mp known
      unfold readInvocation at read
      dsimp only at read
      split at read
      · cases read
        obtain ⟨keyword, line⟩ := readArguments_heading dialect objects _ _
        rw [keyword, line]
        exact ⟨⟨after, found.trans (by simp [Invocation.ofCommand])⟩, rfl⟩
      · cases read

end Parser

/-- Where the keywords of the invocations begin, as numbers of characters from
the start of the text. -/
def keywordPlaces (registry : Registry) (dialect : Dialect)
    (objects : ObjectTable) (text : String) : List Nat :=
  (Parser.invocationStarts registry dialect objects (.ofText text)).map
    fun start => text.toList.length - start.rest.length

/-- The keyword of the invocation stands at this place, on the line of the
invocation. -/
structure KeywordAt (text : String) (place : Nat) (invocation : Invocation) :
    Prop where
  word : ∃ after, identifier? (text.toList.drop place) =
    some (invocation.keyword.toList, after)
  line : invocation.line = 1 + (text.toList.take place).count '\n'

/-- Where a statement gives an invocation, there is its keyword. -/
theorem keywordAt_start {registry : Registry} {dialect : Dialect}
    {objects : ObjectTable} {text : String} {start : Cursor}
    {invocation : Invocation} (reached : (Cursor.ofText text).Reaches start)
    (read : (Parser.readStatement registry dialect objects start).1 =
      some invocation) :
    KeywordAt text (text.toList.length - start.rest.length) invocation := by
  have unread : start.rest =
      text.toList.drop (text.toList.length - start.rest.length) :=
    List.suffix_iff_eq_drop.mp reached.suffix
  have passed := (List.take_append_drop
    (text.toList.length - start.rest.length) text.toList).symm
  rw [← unread] at passed
  obtain ⟨⟨after, word⟩, line⟩ := Parser.readStatement_eq_some read
  refine ⟨⟨after, ?_⟩, line.trans (reached.line_eq passed)⟩
  rw [← unread]
  exact word

theorem forall₂_keywordAt (registry : Registry) (dialect : Dialect)
    (objects : ObjectTable) (text : String) :
    List.Forall₂ (KeywordAt text) (keywordPlaces registry dialect objects text)
      (parseScript registry dialect objects text).invocations := by
  refine List.forall₂_map_left_iff.mpr ?_
  refine (Parser.forall₂_invocationStarts registry dialect objects
    (.ofText text)).imp ?_
  rintro start invocation ⟨reached, read⟩
  exact keywordAt_start reached read

/-- At the keyword that is first, second or so the invocation that is first,
second or so is read. -/
theorem exists_start_at_place {registry : Registry} {dialect : Dialect}
    {objects : ObjectTable} {text : String} {i place : Nat}
    (isPlace : (keywordPlaces registry dialect objects text)[i]? = some place) :
    ∃ start invocation,
      (Parser.invocationStarts registry dialect objects
        (.ofText text))[i]? = some start ∧
      (parseScript registry dialect objects text).invocations[i]? =
        some invocation ∧
      (Cursor.ofText text).Reaches start ∧
      (Parser.readStatement registry dialect objects start).1 =
        some invocation ∧
      text.toList.length - start.rest.length = place := by
  have each := Parser.forall₂_invocationStarts registry dialect objects
    (.ofText text)
  rw [keywordPlaces, List.getElem?_map] at isPlace
  obtain ⟨start, isStart, standing⟩ := Option.map_eq_some_iff.mp isPlace
  obtain ⟨inside, same⟩ := List.getElem?_eq_some_iff.mp isStart
  have within := each.length_eq ▸ inside
  obtain ⟨reached, read⟩ := each.get inside within
  refine ⟨start, _, isStart, List.getElem?_eq_getElem within, ?_, ?_, standing⟩
  · rw [← same]
    exact reached
  · rw [← same]
    exact read

/-- Later invocations have their keywords further on in the text. -/
theorem pairwise_keywordPlaces (registry : Registry) (dialect : Dialect)
    (objects : ObjectTable) (text : String) :
    (keywordPlaces registry dialect objects text).Pairwise (· < ·) := by
  refine List.pairwise_map.mpr ?_
  refine (Parser.pairwise_invocationStarts registry dialect objects
    (.ofText text)).imp_of_mem ?_
  rintro first second isFirst _ ⟨_, less⟩
  have within := (Parser.reaches_of_mem_invocationStarts registry dialect
    objects isFirst).length_le
  have whole : (Cursor.ofText text).rest.length = text.toList.length := rfl
  omega

/-- Later invocations stand on the same line or further down. -/
theorem pairwise_line_invocations (registry : Registry) (dialect : Dialect)
    (objects : ObjectTable) (text : String) :
    (parseScript registry dialect objects text).invocations.Pairwise
      (·.line ≤ ·.line) := by
  have lines := (Parser.forall₂_invocationStarts registry dialect objects
    (.ofText text)).imp fun _ _ found =>
      (Parser.readStatement_eq_some found.2).2.symm
  rw [← List.forall₂_map_right_iff (f := Invocation.line),
    ← List.forall₂_map_left_iff (f := Cursor.line), List.forall₂_eq_eq_eq]
    at lines
  have order := (Parser.pairwise_invocationStarts registry dialect objects
    (.ofText text)).imp fun reached => reached.1.line_le
  rw [← List.pairwise_map (f := Cursor.line) (R := (· ≤ ·)), lines,
    List.pairwise_map] at order
  exact order

end GridScript
