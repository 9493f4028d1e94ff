import GridScript.Engine.Basic
import GridScript.Proofs.Joining

/-!
# Diagnostics in the order of the text

What is reported while a text is read concerns a line of that text.  Most of it
concerns the line where the reading has got to, or one that it has not reported
anything behind of yet, so that the lines of the diagnostics never go back.
The one exception is an argument list that is never closed: this is found at
the end of the text and reported for the line where the list was opened.
-/

namespace GridScript

/-- The lines of the diagnostics never go back. -/
def InSourceOrder (diagnostics : List Diagnostic) : Prop :=
  diagnostics.Pairwise (·.line ≤ ·.line)

instance (diagnostics : List Diagnostic) :
    Decidable (InSourceOrder diagnostics) :=
  inferInstanceAs (Decidable (List.Pairwise _ _))

namespace Cursor

theorem Reaches.line_le {before after : Cursor}
    (reached : before.Reaches after) : before.line ≤ after.line := by
  obtain ⟨⟨count, _, line⟩, _⟩ := reached
  rw [line]
  exact Nat.le_add_right _ _

/-- The second cursor is reached from the first one, and what is reported on
the way is in the order of the lines between them. -/
structure Tells (before after : Cursor) : Prop where
  reached : before.Reaches after
  told : ∃ added, after.diagnostics = before.diagnostics ++ added ∧
    InSourceOrder added ∧
      ∀ d ∈ added, before.line ≤ d.line ∧ d.line ≤ after.line

/-- A reader of values does not change which command and argument is read. -/
structure Reads (before after : Cursor) : Prop extends Tells before after where
  place : before.SamePlace after

theorem Reaches.tells {before after : Cursor}
    (reached : before.Reaches after)
    (silent : after.diagnostics = before.diagnostics) : before.Tells after :=
  ⟨reached, [], by rw [silent, List.append_nil], .nil, by simp⟩

theorem Tells.trans {first second third : Cursor} (left : first.Tells second)
    (right : second.Tells third) : first.Tells third := by
  obtain ⟨leftReached, leftAdded, leftEnds, leftOrder, leftLines⟩ := left
  obtain ⟨rightReached, rightAdded, rightEnds, rightOrder, rightLines⟩ := right
  refine ⟨leftReached.trans rightReached, leftAdded ++ rightAdded, ?_, ?_, ?_⟩
  · rw [rightEnds, leftEnds, List.append_assoc]
  · refine List.pairwise_append.mpr ⟨leftOrder, rightOrder, ?_⟩
    intro earlier inLeft later inRight
    exact Nat.le_trans (leftLines earlier inLeft).2 (rightLines later inRight).1
  · intro d member
    rcases List.mem_append.mp member with inLeft | inRight
    · obtain ⟨low, high⟩ := leftLines d inLeft
      exact ⟨low, Nat.le_trans high rightReached.line_le⟩
    · obtain ⟨low, high⟩ := rightLines d inRight
      exact ⟨Nat.le_trans leftReached.line_le low, high⟩

theorem Reads.trans {first second third : Cursor} (left : first.Reads second)
    (right : second.Reads third) : first.Reads third :=
  ⟨left.toTells.trans right.toTells,
    right.place.1.trans left.place.1, right.place.2.trans left.place.2⟩

theorem Reads.refl (c : Cursor) : c.Reads c :=
  ⟨(Reaches.refl c).tells rfl, rfl, rfl⟩

theorem reads_advance (c : Cursor) (count : Nat) :
    c.Reads (c.advance count) :=
  ⟨(c.reaches_advance count).tells rfl, rfl, rfl⟩

theorem reads_next (c : Cursor) : c.Reads c.next :=
  c.reads_advance 1

theorem reads_moveTo (c : Cursor) (remainder : List Char) :
    c.Reads (c.moveTo remainder) :=
  c.reads_advance _

theorem reads_skipBlanks (c : Cursor) : c.Reads c.skipBlanks :=
  c.reads_advance _

/-- An error may concern the line where a silent passage began. -/
theorem reads_errorAt (c : Cursor) (count : Nat) (problem : Problem) :
    c.Reads ((c.advance count).errorAt c.line problem) := by
  have moved := c.reaches_advance count
  let error : Diagnostic := ⟨.error, c.line, problem, c.command, c.argument⟩
  refine ⟨⟨moved.trans (reaches_errorAt _ _ _), [error], rfl,
    List.pairwise_singleton _ _, ?_⟩, rfl, rfl⟩
  intro d member
  rw [List.mem_singleton.mp member]
  exact ⟨Nat.le_refl _, moved.line_le⟩

theorem reads_report (c : Cursor) (severity : Severity) (problem : Problem) :
    c.Reads (c.report severity c.line problem) := by
  let reported : Diagnostic :=
    ⟨severity, c.line, problem, c.command, c.argument⟩
  refine ⟨⟨c.reaches_report _ _ _, [reported], rfl,
    List.pairwise_singleton _ _, ?_⟩, rfl, rfl⟩
  intro d member
  rw [List.mem_singleton.mp member]
  exact ⟨Nat.le_refl _, Nat.le_refl _⟩

theorem reads_warn (c : Cursor) (problem : Problem) :
    c.Reads (c.warn problem) :=
  c.reads_report _ _

theorem reads_error (c : Cursor) (problem : Problem) :
    c.Reads (c.error problem) :=
  c.reads_report _ _

/-! ### Values -/

theorem reads_readBare (stop : Char → Bool) (c : Cursor) :
    c.Reads (c.readBare stop).2 :=
  c.reads_advance _

theorem reads_readWord (c : Cursor) : c.Reads c.readWord.2 :=
  c.reads_advance _

theorem reads_readString (c : Cursor) : c.Reads c.readString.2 := by
  refine c.reads_skipBlanks.trans ?_
  unfold readString
  dsimp only
  split
  · split
    · exact reads_moveTo _ _
    · exact reads_errorAt _ _ _
  · split
    · exact reads_moveTo _ _
    · exact (reads_error _ _).trans (reads_readBare _ _)

theorem reads_readToken {bare : Cursor → String × Cursor}
    (reads : ∀ c : Cursor, c.Reads (bare c).2) (c : Cursor) :
    c.Reads (c.readToken bare).2 := by
  refine c.reads_skipBlanks.trans ?_
  unfold readToken
  dsimp only
  split
  · exact reads_readString _
  · exact reads _

theorem reads_readBool (c : Cursor) : c.Reads c.readBool.2 := by
  have token := c.reads_readToken (reads_readBare isTokenEndOrBlank)
  unfold readBool
  dsimp only
  split
  · exact token
  · split
    · exact token
    · exact token.trans (reads_error _ _)

theorem reads_rejectNumber (c : Cursor) (read : List Char) :
    c.Reads (c.rejectNumber read) :=
  (reads_readBare _ _).trans (reads_error _ _)

theorem reads_readNumeral (c : Cursor) : c.Reads c.readNumeral.2 := by
  refine c.reads_skipBlanks.trans ?_
  unfold readNumeral
  dsimp only
  split
  · exact reads_rejectNumber _ _
  · split
    · exact (reads_moveTo _ _).trans (reads_rejectNumber _ _)
    · exact reads_moveTo _ _

theorem reads_readInt (c : Cursor) : c.Reads c.readInt.2 := by
  have numeral := c.reads_readNumeral
  unfold readInt
  split <;> rename_i read <;> rw [read] at numeral
  · exact numeral
  · split
    · exact numeral
    · exact numeral.trans (reads_error _ _)

theorem reads_readDouble (c : Cursor) : c.Reads c.readDouble.2 := by
  have numeral := c.reads_readNumeral
  unfold readDouble
  split <;> rename_i read <;> rw [read] at numeral <;> exact numeral

theorem reads_readVariant (names : Enumeration) (c : Cursor) :
    c.Reads (c.readVariant names).2 := by
  have token := c.reads_readToken reads_readWord
  unfold readVariant
  dsimp only
  split
  · exact token
  · exact token.trans (reads_error _ _)

/-- An item that consumes nothing reports on the line where it begins. -/
theorem reads_progress {before after : Cursor} (reads : before.Reads after) :
    before.Reads (before.progress after) := by
  unfold progress
  split
  · exact reads
  · rename_i stays
    obtain ⟨⟨reached, added, ends, order, lines⟩, _⟩ := reads
    have unmoved : before.rest = [] ++ after.rest :=
      (reached.rest_eq (Nat.le_of_not_lt stays)).symm
    have line : after.line = before.line := by
      rw [reached.line_eq unmoved]
      rfl
    have moved := before.reaches_next
    refine ⟨⟨⟨moved.moved, reached.reported⟩, added, ends, order, ?_⟩, rfl, rfl⟩
    intro d member
    obtain ⟨low, high⟩ := lines d member
    exact ⟨low, Nat.le_trans (line ▸ high) moved.line_le⟩

theorem reads_listStep {α : Type} {item : Cursor → Option α × Cursor}
    (reads : ∀ c : Cursor, c.Reads (item c).2) (c : Cursor) :
    c.Reads (listStep item c).cursor := by
  have blanks := c.reads_skipBlanks
  unfold listStep
  dsimp only
  split
  · exact reads_errorAt _ _ _
  · split
    · exact blanks.trans (reads_next _)
    · split
      · exact blanks.trans (reads_next _)
      · split
        · exact reads_errorAt _ _ _
        · exact blanks.trans (reads_progress (reads _))

theorem reads_readItems {α : Type} {item : Cursor → Option α × Cursor}
    (reads : ∀ c : Cursor, c.Reads (item c).2) (c : Cursor) :
    c.Reads (readItems item c).2 := by
  have step := reads_listStep reads c
  cases found : listStep item c with
  | finished after =>
      rw [found] at step
      rw [readItems_of_finished found]
      exact step
  | continued value after =>
      have less := listStep_length_lt found
      rw [found] at step
      rw [readItems_of_continued found]
      exact step.trans (reads_readItems reads after)
termination_by c.rest.length

theorem reads_readList {α : Type} {item : Cursor → Option α × Cursor}
    (reads : ∀ c : Cursor, c.Reads (item c).2) (c : Cursor) :
    c.Reads (readList item c).2 := by
  refine c.reads_skipBlanks.trans ?_
  unfold readList
  dsimp only
  split
  · exact (reads_next _).trans (reads_readItems reads _)
  · exact reads_error _ _

theorem reads_readReferenceToken (c : Cursor) :
    c.Reads c.readReferenceToken.2 :=
  c.reads_skipBlanks.trans (reads_readBare _ _)

theorem reads_resolveReference (objects : ObjectTable)
    (className token : String) (c : Cursor) :
    c.Reads (c.resolveReference objects className token).2 := by
  unfold resolveReference
  split
  · exact reads_error _ _
  · split
    · exact reads_error _ _
    · split
      · exact reads_error _ _
      · split
        · exact .refl c
        · exact reads_warn _ _

theorem reads_readReference (objects : ObjectTable) (className : String)
    (c : Cursor) : c.Reads (c.readReference objects className).2 := by
  refine c.reads_readReferenceToken.trans ?_
  unfold readReference
  dsimp only
  split
  · exact .refl _
  · exact reads_resolveReference _ _ _ _

theorem reads_readReferenceItem (objects : ObjectTable) (className : String)
    (c : Cursor) : c.Reads (c.readReferenceItem objects className).2 := by
  refine c.reads_readReferenceToken.trans ?_
  unfold readReferenceItem
  dsimp only
  split
  · exact .refl _
  · exact reads_resolveReference _ _ _ _

theorem reads_readReferences (objects : ObjectTable) (className : String)
    (c : Cursor) : c.Reads (c.readReferences objects className).2 :=
  reads_readList (reads_readReferenceItem objects className) c

theorem reads_unlessEnd {α : Type} {read : Cursor → α × Cursor}
    (reads : ∀ c : Cursor, c.Reads (read c).2) (value : α → Option Value)
    (c : Cursor) :
    c.Reads (c.unlessEnd fun c => (read c).map value id).2 := by
  refine c.reads_skipBlanks.trans ?_
  unfold unlessEnd
  dsimp only
  split
  · exact reads_error _ _
  · exact reads _

/-- Whatever stands in the text, reading a value reports in source order. -/
theorem reads_readValue (objects : ObjectTable) (type : ValueType)
    (c : Cursor) : c.Reads (c.readValue objects type).2 := by
  induction type generalizing c with
  | string => exact reads_unlessEnd reads_readString _ c
  | bool => exact reads_unlessEnd reads_readBool _ c
  | int => exact reads_unlessEnd reads_readInt _ c
  | double => exact reads_unlessEnd reads_readDouble _ c
  | enumeration names => exact reads_unlessEnd (reads_readVariant names) _ c
  | array element induction =>
      exact reads_unlessEnd (reads_readList induction) _ c
  | reference className =>
      exact reads_unlessEnd (reads_readReference objects className) _ c
  | references className =>
      exact reads_unlessEnd (reads_readReferences objects className) _ c

/-- The text is told in source order.  At its end an argument list may be found
open, which is reported for a line on the way. -/
def Concludes (before after : Cursor) : Prop :=
  before.Tells after ∨
    ∃ here, before.Tells here ∧ after.rest = [] ∧ after.line = here.line ∧
      ∃ line, before.line ≤ line ∧ line ≤ here.line ∧
        after.diagnostics =
          (here.errorAt line .unclosedArgumentList).diagnostics

theorem Tells.concludes {first second third : Cursor}
    (told : first.Tells second) (concluded : second.Concludes third) :
    first.Concludes third := by
  rcases concluded with further | ⟨here, further, rest, same, line, low, rests⟩
  · exact .inl (told.trans further)
  · exact .inr ⟨here, told.trans further, rest, same, line,
      Nat.le_trans told.reached.line_le low, rests⟩

end Cursor

namespace Parser

open Cursor

theorem reads_checkSeparator (dialect : Dialect) (equals : Bool)
    (c : Cursor) : c.Reads (checkSeparator dialect equals c) := by
  unfold checkSeparator
  split
  · exact c.reads_error _
  · exact c.reads_error _
  · exact .refl c

theorem tells_inArgument (c : Cursor) (name : String) :
    c.Tells (c.inArgument name) :=
  (c.reaches_inArgument name).tells rfl

theorem tells_leaveArgument (c : Cursor) : c.Tells c.leaveArgument :=
  c.reaches_leaveArgument.tells rfl

theorem reads_skipArgument (c : Cursor) : c.Reads (skipArgument c) :=
  c.reads_moveTo _

theorem reads_skipComma (c : Cursor) : c.Reads (skipComma c) := by
  unfold skipComma
  split
  · exact c.reads_next
  · exact .refl c

theorem reads_readField (objects : ObjectTable) (field : Field) (c : Cursor)
    (state : ArgumentList) :
    c.Reads (readField objects field c state).cursor := by
  rw [cursor_readField]
  exact c.reads_readValue objects field.type

theorem tells_readNamed (dialect : Dialect) (objects : ObjectTable)
    (found : ArgumentName) (c : Cursor) (state : ArgumentList) :
    c.Tells (readNamed dialect objects found c state).cursor := by
  refine (tells_inArgument c found.name).trans ?_
  refine ((reads_checkSeparator dialect found.equals _).trans ?_).toTells
  unfold readNamed
  dsimp only
  split
  · exact (reads_warn _ _).trans (reads_skipArgument _)
  · split
    · split
      · exact (reads_warn _ _).trans (reads_readField _ _ _ _)
      · exact reads_readField _ _ _ _
    · exact (reads_error _ _).trans (reads_skipArgument _)

theorem tells_readPositional (dialect : Dialect) (objects : ObjectTable)
    (c : Cursor) (state : ArgumentList) :
    c.Tells (readPositional dialect objects c state).cursor := by
  unfold readPositional
  split
  · split
    · exact (tells_inArgument c _).trans (reads_readField _ _ _ _).toTells
    · exact ((c.reads_error _).trans (reads_skipArgument _)).toTells
  · exact ((c.reads_error _).trans (reads_skipArgument _)).toTells

theorem tells_readArgument (dialect : Dialect) (objects : ObjectTable)
    (c : Cursor) (state : ArgumentList) :
    c.Tells (readArgument dialect objects c state).cursor := by
  unfold readArgument
  split
  · exact (c.reads_moveTo _).toTells.trans (tells_readNamed _ _ _ _ _)
  · exact tells_readPositional _ _ _ _

theorem tells_finishArgument (c : Cursor) : c.Tells (finishArgument c) := by
  refine (c.reads_skipBlanks).toTells.trans ?_
  unfold finishArgument
  dsimp only
  split
  · exact tells_leaveArgument _
  · split
    · exact (reads_next _).toTells.trans (tells_leaveArgument _)
    · split
      · exact tells_leaveArgument _
      · exact ((reads_error _ _).trans <| (reads_skipArgument _).trans <|
          reads_skipComma _).toTells.trans (tells_leaveArgument _)

/-- Only the end of the text makes a step look back to the parenthesis. -/
theorem concludes_argumentStep (dialect : Dialect) (objects : ObjectTable)
    (state : ArgumentList) {opening : Cursor}
    (opened : opening.Tells state.cursor) :
    (∃ next, argumentStep dialect objects opening.line state =
        .continued next ∧ opening.Tells next.cursor) ∨
      ∃ after, argumentStep dialect objects opening.line state =
        .finished after ∧ opening.Concludes after := by
  have here := opened.trans state.cursor.reads_skipBlanks.toTells
  unfold argumentStep
  dsimp only
  split
  · rename_i done
    exact .inr ⟨_, rfl, .inr ⟨_, here, done, rfl, _, Nat.le_refl _,
      here.reached.line_le, rfl⟩⟩
  · split
    · exact .inr ⟨_, rfl, .inl (here.trans (reads_next _).toTells)⟩
    · split
      · exact .inl ⟨_, rfl, here.trans (reads_next _).toTells⟩
      · exact .inl ⟨_, rfl, here.trans <| (tells_readArgument _ _ _ _).trans
          (tells_finishArgument _)⟩

theorem concludes_readArguments (dialect : Dialect) (objects : ObjectTable)
    (state : ArgumentList) {opening : Cursor}
    (opened : opening.Tells state.cursor) :
    opening.Concludes
      (readArguments dialect objects opening.line state).2 := by
  rcases concludes_argumentStep dialect objects state opened with
    ⟨next, step, further⟩ | ⟨after, step, concluded⟩
  · have less := argumentStep_length_lt step
    rw [readArguments_of_continued step]
    exact concludes_readArguments dialect objects next further
  · rw [readArguments_of_finished step]
    exact concluded
termination_by state.cursor.rest.length

theorem concludes_readInvocation (dialect : Dialect) (objects : ObjectTable)
    (invocation : Invocation) (c : Cursor) :
    c.Concludes (readInvocation dialect objects invocation c).2 := by
  refine c.reads_skipBlanks.toTells.concludes ?_
  unfold readInvocation
  dsimp only
  split
  · exact concludes_readArguments dialect objects
      { cursor := c.skipBlanks.next, invocation } (reads_next _).toTells
  · exact .inl ((reads_error _ _).trans (reads_moveTo _ _)).toTells

theorem concludes_readStatement (registry : Registry) (dialect : Dialect)
    (objects : ObjectTable) (c : Cursor) :
    c.Concludes (readStatement registry dialect objects c).2 := by
  have leave : ∀ {after : Cursor}, c.Concludes after →
      c.Concludes after.leaveCommand := by
    rintro after (told | unclosed)
    · exact .inl (told.trans (after.reaches_leaveCommand.tells rfl))
    · exact .inr unclosed
  unfold readStatement
  split
  · exact .inl ((c.reads_error _).trans (reads_moveTo _ _)).toTells
  · have begun := fun after keyword => ((c.reads_moveTo after).toTells).trans
      ((reaches_inCommand (c.moveTo after) keyword).tells rfl)
    dsimp only
    split
    · exact leave (.inl ((begun _ _).trans
        ((reads_error _ _).trans (reads_moveTo _ _)).toTells))
    · exact leave ((begun _ _).concludes (concludes_readInvocation _ _ _ _))

theorem reads_skipSeparators (dialect : Dialect) (c : Cursor) :
    c.Reads (skipSeparators dialect c) :=
  c.reads_moveTo _

/-- A script is told in source order, but for a list that its end leaves
open. -/
theorem concludes_readScript (registry : Registry) (dialect : Dialect)
    (objects : ObjectTable) (c : Cursor) :
    c.Concludes (readScript registry dialect objects c).2 := by
  refine (reads_skipSeparators dialect c).toTells.concludes ?_
  rw [readScript]
  dsimp only
  split
  · exact .inl (Reads.refl _).toTells
  · rename_i unread
    have less := script_length_lt registry dialect objects unread
    rcases concludes_readStatement registry dialect objects
      (skipSeparators dialect c) with told | ⟨here, told, done, unclosed⟩
    · exact told.concludes (concludes_readScript registry dialect objects _)
    · rw [readScript_end registry dialect objects done]
      exact .inr ⟨here, told, done, unclosed⟩
termination_by c.rest.length

end Parser

/-- The lines of a text: every diagnostic of a script concerns one of them, and
only an argument list that is left open is reported out of order. -/
theorem parseScript_told (registry : Registry) (dialect : Dialect)
    (objects : ObjectTable) (text : String) :
    ∃ told unclosed,
      (parseScript registry dialect objects text).diagnostics =
        told ++ unclosed ∧ InSourceOrder told ∧
      (unclosed = [] ∨ ∃ d : Diagnostic, unclosed = [d] ∧
        d.problem = .unclosedArgumentList) ∧
      ∀ d ∈ told ++ unclosed, 1 ≤ d.line ∧
        d.line ≤ 1 + text.toList.count '\n' := by
  let ends := (Parser.readScript registry dialect objects (.ofText text)).2
  have all : (Cursor.ofText text).rest = text.toList ++ ends.rest := by
    rw [Parser.rest_readScript, List.append_nil]
    rfl
  have last : ends.line = 1 + text.toList.count '\n' :=
    (Parser.reaches_readScript registry dialect objects
      (.ofText text)).line_eq all
  rcases Parser.concludes_readScript registry dialect objects (.ofText text)
    with ⟨_, told, same, order, lines⟩ |
      ⟨here, ⟨_, told, same, order, lines⟩, _, sameLine, line, low, high, more⟩
  · refine ⟨told, [], ?_, order, .inl rfl, ?_⟩
    · rw [List.append_nil]
      exact same
    · rw [List.append_nil, ← last]
      exact lines
  · have within : here.line = 1 + text.toList.count '\n' :=
      sameLine.symm.trans last
    rw [within] at high lines
    refine ⟨told, [⟨.error, line, .unclosedArgumentList, here.command,
      here.argument⟩], ?_, order, .inr ⟨_, rfl, rfl⟩, ?_⟩
    · refine more.trans ?_
      rw [Cursor.errorAt, Cursor.report, same]
      rfl
    · intro d member
      rcases List.mem_append.mp member with inTold | isLast
      · exact lines d inTold
      · rw [List.mem_singleton.mp isLast]
        exact ⟨low, high⟩

/-- Whatever the script, its diagnostics are in source order up to the last
one.  All of them are, exactly if nothing is reported behind the line of a
parenthesis that the end of the text leaves open; running the script hands on
the diagnostics as they are. -/
theorem parseScript_inSourceOrder_iff (registry : Registry) (dialect : Dialect)
    (objects : ObjectTable) (text : String) :
    let diagnostics := (parseScript registry dialect objects text).diagnostics
    InSourceOrder diagnostics.dropLast ∧
      (InSourceOrder diagnostics ↔
        ∀ last ∈ diagnostics.getLast?, last.problem = .unclosedArgumentList →
          ∀ d ∈ diagnostics, d.line ≤ last.line) ∧
      ∀ engine : Engine, (engine.runScript text).1.diagnostics =
        (engine.read text).diagnostics := by
  intro diagnostics
  obtain ⟨told, unclosed, parts, order, isLast, _⟩ :=
    parseScript_told registry dialect objects text
  have split : diagnostics = told ++ unclosed := parts
  refine ⟨?_, ⟨?_, ?_⟩, ?_⟩
  · rw [split]
    rcases isLast with rfl | ⟨last, rfl, _⟩
    · rw [List.append_nil]
      exact order.sublist (List.dropLast_sublist told)
    · rw [List.dropLast_concat]
      exact order
  · intro ordered last isLast _ d member
    obtain ⟨front, ends⟩ := List.getLast?_eq_some_iff.mp isLast
    rw [ends] at ordered member
    rcases List.mem_append.mp member with earlier | same
    · exact (List.pairwise_append.mp ordered).2.2 d earlier last
        List.mem_cons_self
    · exact Nat.le_of_eq (congrArg _ (List.mem_singleton.mp same))
  · intro after
    rw [split] at after ⊢
    rcases isLast with rfl | ⟨last, rfl, isUnclosed⟩
    · rw [List.append_nil]
      exact order
    · refine List.pairwise_append.mpr ⟨order, List.pairwise_singleton _ _, ?_⟩
      intro d member other same
      rw [List.mem_singleton.mp same]
      exact after last List.getLast?_concat isUnclosed d
        (List.mem_append_left _ member)
  · intro engine
    unfold Engine.runScript
    dsimp only
    split <;> rfl

/-- The unknown argument is reported for the second line, and after it the
parenthesis for the first one. -/
theorem not_forall_inSourceOrder :
    ¬∀ (registry : Registry) (dialect : Dialect) (objects : ObjectTable)
      (text : String), InSourceOrder
        (parseScript registry dialect objects text).diagnostics := by
  intro ordered
  have here := ordered .builtin {} .empty "loadCase(\ncolour=1"
  revert here
  decide +kernel

end GridScript
