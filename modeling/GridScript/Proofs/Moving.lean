import GridScript.Proofs.Places
import GridScript.Script.Offset

/-!
# Moving along a text

Whatever is done at a cursor, in whatever order, the text behind it is the rest
of the whole text, and its line is the number of newlines in front of it, and
one.  So diagnostics and invocations have lines of the text.  It makes no
difference whether the place is kept by counting characters or bytes.
-/

namespace GridScript

namespace Cursor

/-- The readers of values. -/
inductive Decoder where
  | value (objects : ObjectTable) (type : ValueType)
  | string
  | bool
  | int
  | double
  | variant (names : Enumeration)
  | array (objects : ObjectTable) (element : ValueType)
  | reference (objects : ObjectTable) (className : String)
  | references (objects : ObjectTable) (className : String)

/-- The cursor behind what a reader reads. -/
def Decoder.read : Decoder → Cursor → Cursor
  | .value objects type, c => (c.readValue objects type).2
  | .string, c => c.readString.2
  | .bool, c => c.readBool.2
  | .int, c => c.readInt.2
  | .double, c => c.readDouble.2
  | .variant names, c => (c.readVariant names).2
  | .array objects element, c => (c.readList (readValue objects element)).2
  | .reference objects className, c => (c.readReference objects className).2
  | .references objects className, c => (c.readReferences objects className).2

/-- What can be done at a cursor. -/
inductive Operation where
  | next
  | skipBlanks
  | skipLine
  /-- Moves to what the scanner leaves of the unread text, if it finds
  anything there. -/
  | scan (scanner : List Char → Option (List Char))
  | inCommand (keyword : String)
  | inArgument (name : String)
  | leaveArgument
  | leaveCommand
  | warn (problem : Problem)
  | error (problem : Problem)
  | errorAt (line : Nat) (problem : Problem)
  | decode (decoder : Decoder)

def perform (c : Cursor) : Operation → Cursor
  | .next => c.next
  | .skipBlanks => c.skipBlanks
  | .skipLine => c.skipLine
  | .scan scanner => ((scanner c.rest).map c.moveTo).getD c
  | .inCommand keyword => c.inCommand keyword
  | .inArgument name => c.inArgument name
  | .leaveArgument => c.leaveArgument
  | .leaveCommand => c.leaveCommand
  | .warn problem => c.warn problem
  | .error problem => c.error problem
  | .errorAt line problem => c.errorAt line problem
  | .decode decoder => decoder.read c

def performAll (c : Cursor) (operations : List Operation) : Cursor :=
  operations.foldl perform c

theorem reads_decoder (decoder : Decoder) (c : Cursor) :
    c.Reads (decoder.read c) := by
  cases decoder with
  | value objects type => exact c.reads_readValue objects type
  | string => exact c.reads_readString
  | bool => exact c.reads_readBool
  | int => exact c.reads_readInt
  | double => exact c.reads_readDouble
  | variant names => exact c.reads_readVariant names
  | array objects element =>
      exact reads_readList (reads_readValue objects element) c
  | reference objects className => exact c.reads_readReference objects className
  | references objects className =>
      exact c.reads_readReferences objects className

theorem reaches_perform (c : Cursor) (operation : Operation) :
    c.Reaches (c.perform operation) := by
  cases operation with
  | next => exact c.reaches_next
  | skipBlanks => exact c.reaches_skipBlanks
  | skipLine => exact c.reaches_moveTo _
  | scan scanner =>
      cases found : scanner c.rest with
      | none => simpa [perform, found] using Reaches.refl c
      | some remainder =>
          simpa [perform, found] using c.reaches_moveTo remainder
  | inCommand keyword => exact c.reaches_inCommand keyword
  | inArgument name => exact c.reaches_inArgument name
  | leaveArgument => exact c.reaches_leaveArgument
  | leaveCommand => exact c.reaches_leaveCommand
  | warn problem => exact c.reaches_warn problem
  | error problem => exact c.reaches_error problem
  | errorAt line problem => exact c.reaches_errorAt line problem
  | decode decoder => exact (reads_decoder decoder c).reached

theorem reaches_performAll (c : Cursor) (operations : List Operation) :
    c.Reaches (c.performAll operations) := by
  induction operations generalizing c with
  | nil => exact .refl c
  | cons operation operations induction =>
      exact (c.reaches_perform operation).trans (induction _)

end Cursor

/-! ### The same moves over bytes -/

/-- If the operation runs a scanner, that leaves an end of the text it is
given. -/
def Cursor.Operation.LeavesEnd : Operation → Prop
  | .scan scanner =>
      ∀ text remainder, scanner text = some remainder → remainder <:+ text
  | _ => True

namespace Offset

/-- What an operation does to an offset.  A reader of values is made of the
other moves; where it ends is taken from the cursor. -/
def perform (o : Offset) (c : Cursor) : Cursor.Operation → Offset
  | .next => o.next
  | .skipBlanks => o.skipWhile isBlank
  | .skipLine => o.skipLine
  | .scan scanner => ((scanner o.rest).map o.moveTo).getD o
  | .decode decoder => o.moveTo (decoder.read c).rest
  | .inCommand _ | .inArgument _ | .leaveArgument | .leaveCommand => o
  | .warn _ | .error _ | .errorAt _ _ => o

def performAll (o : Offset) (c : Cursor) : List Cursor.Operation → Offset
  | [] => o
  | operation :: more =>
      (o.perform c operation).performAll (c.perform operation) more

theorem Marks.perform {o : Offset} {c : Cursor} (marks : o.Marks c)
    {operation : Cursor.Operation} (ends : operation.LeavesEnd) :
    (o.perform c operation).Marks (c.perform operation) := by
  cases operation with
  | next => exact marks.next
  | skipBlanks => exact marks.skipWhile isBlank
  | skipLine => exact marks.skipLine
  | scan scanner =>
      rw [Offset.perform, Cursor.perform, marks.rest_eq]
      cases found : scanner c.rest with
      | none => exact marks
      | some remainder => exact marks.moveTo (ends _ _ found)
  | decode decoder =>
      exact marks.of_reaches (Cursor.reads_decoder decoder c).reached
  | inCommand _ => exact ⟨marks.passed, marks.line⟩
  | inArgument _ => exact ⟨marks.passed, marks.line⟩
  | leaveArgument => exact ⟨marks.passed, marks.line⟩
  | leaveCommand => exact ⟨marks.passed, marks.line⟩
  | warn _ => exact ⟨marks.passed, marks.line⟩
  | error _ => exact ⟨marks.passed, marks.line⟩
  | errorAt _ _ => exact ⟨marks.passed, marks.line⟩

theorem Marks.performAll {o : Offset} {c : Cursor} (marks : o.Marks c)
    {operations : List Cursor.Operation}
    (ends : ∀ operation ∈ operations, operation.LeavesEnd) :
    (o.performAll c operations).Marks (c.performAll operations) := by
  induction operations generalizing o c with
  | nil => exact marks
  | cons operation operations induction =>
      have first := marks.perform (ends operation List.mem_cons_self)
      exact induction first fun other member =>
        ends other (List.mem_cons_of_mem operation member)

/-- Whatever is done along a text, counting bytes leads to the same places as
counting characters, with the same text ahead and on the same lines. -/
theorem performAll_ofText (text : String) {operations : List Cursor.Operation}
    (ends : ∀ operation ∈ operations, operation.LeavesEnd) :
    let here := (Cursor.ofText text).performAll operations
    let marked := (ofText text).performAll (Cursor.ofText text) operations
    marked.Marks here ∧ marked.rest = here.rest := by
  intro here marked
  have marks : marked.Marks here := (marks_ofText text).performAll ends
  exact ⟨marks, marks.rest_eq⟩

end Offset

/-- Whatever is done along a text, the cursor stands in it and counts its
lines, does not go back, and drops no diagnostic, and readers of values stay in
their command and argument.  So every diagnostic of a script has a line of the
text, and each invocation the line where its keyword stands, further on than
the keywords before it. -/
theorem reading_counts_lines (text : String) :
    (∀ operations : List Cursor.Operation,
      let here := (Cursor.ofText text).performAll operations
      (∃ consumed, text.toList = consumed ++ here.rest ∧
        here.line = 1 + consumed.count '\n') ∧
      (∀ operation, (here.perform operation).rest <:+ here.rest ∧
        here.diagnostics <+: (here.perform operation).diagnostics) ∧
      ∀ decoder : Cursor.Decoder, here.SamePlace (decoder.read here)) ∧
    ∀ (registry : Registry) (dialect : Dialect) (objects : ObjectTable),
      let parsed := parseScript registry dialect objects text
      let places := keywordPlaces registry dialect objects text
      (∀ d ∈ parsed.diagnostics,
        1 ≤ d.line ∧ d.line ≤ 1 + text.toList.count '\n') ∧
      List.Forall₂ (KeywordAt text) places parsed.invocations ∧
      places.Pairwise (· < ·) ∧
      parsed.invocations.Pairwise (·.line ≤ ·.line) := by
  constructor
  · intro operations here
    have reached := (Cursor.ofText text).reaches_performAll operations
    obtain ⟨consumed, passed⟩ := reached.suffix
    refine ⟨⟨consumed, passed.symm, reached.line_eq passed.symm⟩, ?_, ?_⟩
    · intro operation
      have further := here.reaches_perform operation
      exact ⟨further.suffix, further.reported⟩
    · intro decoder
      exact (Cursor.reads_decoder decoder here).place
  · intro registry dialect objects parsed places
    refine ⟨?_, forall₂_keywordAt registry dialect objects text,
      pairwise_keywordPlaces registry dialect objects text,
      pairwise_line_invocations registry dialect objects text⟩
    obtain ⟨told, unclosed, parts, _, _, lines⟩ :=
      parseScript_told registry dialect objects text
    intro d member
    rw [parts] at member
    exact lines d member

end GridScript
