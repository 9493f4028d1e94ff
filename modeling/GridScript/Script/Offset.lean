import GridScript.Script.Skip
import GridScript.Text.Bytes

/-!
# Byte offsets

A text can also be read by keeping all of it, with the number of bytes in front
of the place that has been reached.  `Offset.Marks` says that this is the place
of a cursor.  Each way of moving on keeps it so, whether bytes or characters are
counted, and so both pass the same text and count the same lines.
-/

namespace GridScript

namespace Cursor

/-! ### One character after another -/

theorem advance_zero (c : Cursor) : c.advance 0 = c := by
  simp [advance]

theorem advance_succ (c : Cursor) (count : Nat) :
    c.advance (count + 1) = c.next.advance count := by
  rw [Nat.add_comm, next, advance, advance, advance, List.take_add,
    List.count_append, Nat.add_assoc, List.drop_drop]

theorem skipWhile_of_pos {c : Cursor} {head : Char} {tail : List Char}
    {test : Char → Bool} (unread : c.rest = head :: tail)
    (passes : test head = true) :
    c.skipWhile test = c.next.skipWhile test := by
  rw [skipWhile, skipWhile, rest_next, unread,
    List.takeWhile_cons_of_pos passes, List.length_cons, advance_succ]
  rfl

theorem skipWhile_of_neg {c : Cursor} {head : Char} {tail : List Char}
    {test : Char → Bool} (unread : c.rest = head :: tail)
    (stops : test head = false) : c.skipWhile test = c := by
  rw [skipWhile, unread, List.takeWhile_cons_of_neg (by simp [stops]),
    List.length_nil, advance_zero]

theorem skipLine_newline {c : Cursor} {tail : List Char}
    (unread : c.rest = '\n' :: tail) : c.skipLine = c.next := by
  rw [skipLine, unread, afterNewline, if_pos rfl, moveTo, unread,
    List.length_cons, Nat.add_sub_cancel_left]
  rfl

theorem skipLine_of_ne {c : Cursor} {head : Char} {tail : List Char}
    (unread : c.rest = head :: tail) (inside : head ≠ '\n') :
    c.skipLine = c.next.skipLine := by
  have shorter := (Skip.afterNewline_suffix tail).length_le
  have count : tail.length + 1 - (afterNewline tail).length =
      tail.length - (afterNewline tail).length + 1 := by omega
  rw [skipLine, skipLine, rest_next, unread, afterNewline, if_neg inside,
    List.tail_cons, moveTo, moveTo, rest_next, unread, List.tail_cons,
    List.length_cons, count, advance_succ]

end Cursor

/-- A place in a text. -/
structure Offset where
  text : List Char
  /-- The number of bytes in front of the place. -/
  bytes : Nat := 0
  line : Nat := 1

namespace Offset

/-- The start of a text. -/
def ofText (text : String) : Offset :=
  { text := text.toList }

/-- The text behind the place. -/
def rest (o : Offset) : List Char :=
  (dropBytes? o.bytes o.text).getD []

/-- Moves over some bytes, but not over the end, and counts the newlines among
them. -/
def advance (o : Offset) (count : Nat) : Offset :=
  let stop := min (o.bytes + count) (byteSize o.text)
  { o with
    bytes := stop
    line := o.line + (takeBytes (stop - o.bytes) o.rest).count '\n' }

/-- Moves to where only `remainder`, the end of the unread text, is left. -/
def moveTo (o : Offset) (remainder : List Char) : Offset :=
  o.advance (byteSize o.rest - byteSize remainder)

/-- Moves over one character. -/
def next (o : Offset) : Offset :=
  match o.rest with
  | [] => o
  | c :: _ =>
    { o with
      bytes := o.bytes + c.utf8Size
      line := if c = '\n' then o.line + 1 else o.line }

/-- Moves over the characters of a text one by one, as long as they satisfy
`test`. -/
def nextWhile (test : Char → Bool) : List Char → Offset → Offset
  | [], o => o
  | c :: ahead, o => if test c then nextWhile test ahead o.next else o

/-- Moves over characters as long as they satisfy `test`. -/
def skipWhile (o : Offset) (test : Char → Bool) : Offset :=
  nextWhile test o.rest o

/-- Moves over the characters of a text one by one, up to its first newline. -/
def nextLine : List Char → Offset → Offset
  | [], o => o
  | c :: ahead, o => if c = '\n' then o.next else nextLine ahead o.next

/-- Moves behind the next newline. -/
def skipLine (o : Offset) : Offset :=
  nextLine o.rest o

/-- The offset is at the place of the cursor, on the same line. -/
structure Marks (o : Offset) (c : Cursor) : Prop where
  passed : ∃ passed, o.text = passed ++ c.rest ∧ o.bytes = byteSize passed
  line : o.line = c.line

theorem marks_ofText (text : String) :
    (ofText text).Marks (Cursor.ofText text) :=
  ⟨⟨[], rfl, rfl⟩, rfl⟩

namespace Marks

variable {o : Offset} {c : Cursor}

theorem rest_eq (marks : o.Marks c) : o.rest = c.rest := by
  obtain ⟨passed, whole, bytes⟩ := marks.passed
  rw [rest, whole, bytes, dropBytes?_append, Option.getD_some]

/-- As many bytes lead as far as as many characters. -/
theorem advance (marks : o.Marks c) {lexeme rest : List Char}
    (unread : c.rest = lexeme ++ rest) :
    (o.advance (byteSize lexeme)).Marks (c.advance lexeme.length) := by
  obtain ⟨passed, whole, bytes⟩ := marks.passed
  have inside : o.bytes + byteSize lexeme ≤ byteSize o.text := by
    rw [whole, unread, bytes, byteSize_append, byteSize_append]
    omega
  refine ⟨⟨passed ++ lexeme, ?_, ?_⟩, ?_⟩
  · simp [Offset.advance, Cursor.advance, whole, unread]
  · simp only [Offset.advance]
    rw [Nat.min_eq_left inside, bytes, byteSize_append]
  · simp only [Offset.advance, Cursor.advance]
    rw [Nat.min_eq_left inside, Nat.add_sub_cancel_left, marks.rest_eq, unread,
      takeBytes_append, List.take_left, marks.line]

theorem moveTo (marks : o.Marks c) {remainder : List Char}
    (ends : remainder <:+ c.rest) :
    (o.moveTo remainder).Marks (c.moveTo remainder) := by
  obtain ⟨lexeme, unread⟩ := ends
  have moved := marks.advance unread.symm
  rw [Offset.moveTo, Cursor.moveTo, marks.rest_eq, ← unread, byteSize_append,
    Nat.add_sub_cancel, List.length_append, Nat.add_sub_cancel]
  exact moved

theorem next (marks : o.Marks c) : o.next.Marks c.next := by
  have here := marks.rest_eq
  cases unread : c.rest with
  | nil =>
    rw [unread] at here
    have still : c.next = c := by
      rw [Cursor.next, Cursor.advance, unread]
      cases c
      cases unread
      rfl
    rw [still, Offset.next, here]
    exact marks
  | cons head tail =>
    obtain ⟨passed, whole, bytes⟩ := marks.passed
    rw [unread] at here whole
    rw [Offset.next, here]
    refine ⟨⟨passed ++ [head], ?_, ?_⟩, ?_⟩
    · rw [Cursor.rest_next, unread, whole]
      simp
    · rw [byteSize_append, byteSize_singleton, ← bytes]
    · by_cases newline : head = '\n'
      · simp [Cursor.next, Cursor.advance, unread, marks.line, newline]
      · simp [Cursor.next, Cursor.advance, unread, marks.line, newline]

/-- Looking at one character after another leads as far as looking ahead. -/
theorem nextWhile {test : Char → Bool} {ahead : List Char}
    (marks : o.Marks c) (unread : c.rest = ahead) :
    (Offset.nextWhile test ahead o).Marks (c.skipWhile test) := by
  induction ahead generalizing o c with
  | nil =>
    rw [Cursor.skipWhile, unread, List.takeWhile_nil, List.length_nil,
      Cursor.advance_zero]
    exact marks
  | cons head tail induction =>
    rw [Offset.nextWhile]
    cases passes : test head with
    | true =>
      rw [if_pos rfl, Cursor.skipWhile_of_pos unread passes]
      exact induction marks.next (by rw [Cursor.rest_next, unread]; rfl)
    | false =>
      rw [if_neg (by decide), Cursor.skipWhile_of_neg unread passes]
      exact marks

theorem skipWhile (marks : o.Marks c) (test : Char → Bool) :
    (o.skipWhile test).Marks (c.skipWhile test) :=
  marks.nextWhile marks.rest_eq.symm

theorem nextLine {ahead : List Char} (marks : o.Marks c)
    (unread : c.rest = ahead) : (Offset.nextLine ahead o).Marks c.skipLine := by
  induction ahead generalizing o c with
  | nil =>
    have still : c.skipLine = c := by
      rw [Cursor.skipLine, unread, Cursor.afterNewline, Cursor.moveTo, unread,
        List.length_nil, Nat.sub_zero, Cursor.advance_zero]
    rw [still]
    exact marks
  | cons head tail induction =>
    rw [Offset.nextLine]
    by_cases newline : head = '\n'
    · subst newline
      rw [if_pos rfl, Cursor.skipLine_newline unread]
      exact marks.next
    · rw [if_neg newline, Cursor.skipLine_of_ne unread newline]
      exact induction marks.next (by rw [Cursor.rest_next, unread]; rfl)

theorem skipLine (marks : o.Marks c) : o.skipLine.Marks c.skipLine :=
  marks.nextLine marks.rest_eq.symm

/-- However a reader has moved on, one step over as many bytes leads to the same
place and line. -/
theorem of_reaches (marks : o.Marks c) {after : Cursor}
    (reached : c.Reaches after) : (o.moveTo after.rest).Marks after := by
  obtain ⟨count, rest, line⟩ := reached.moved
  have unread : c.rest = c.rest.take count ++ after.rest := by
    rw [rest, List.take_append_drop]
  have moved := marks.moveTo ⟨_, unread.symm⟩
  rw [Cursor.moveTo_of_append unread] at moved
  exact ⟨moved.passed, moved.line.trans line.symm⟩

end Marks

end Offset

/-- Less is left in bytes exactly if less is left in characters. -/
theorem Cursor.Reaches.byteSize_lt_iff {before after : Cursor}
    (reached : before.Reaches after) :
    byteSize after.rest < byteSize before.rest ↔
      after.rest.length < before.rest.length := by
  obtain ⟨count, rest, _⟩ := reached.moved
  obtain ⟨lexeme, passed⟩ : after.rest <:+ before.rest :=
    rest ▸ List.drop_suffix count before.rest
  rw [← passed, byteSize_append, List.length_append]
  cases lexeme with
  | nil => simp [byteSize]
  | cons c lexeme =>
    have some := c.utf8Size_pos
    rw [byteSize, List.length_cons]
    omega

end GridScript
