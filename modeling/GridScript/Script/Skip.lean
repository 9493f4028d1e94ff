import GridScript.Script.Cursor

/-!
# Passing over script text

Where reading goes on after text that is not understood, or that means nothing.
Each function takes the unread text and gives what is left of it.
-/

namespace GridScript

namespace Skip

/-- Passes over one argument value: up to a comma or a closing parenthesis that
stands neither between quotes nor in brackets that were opened on the way. -/
def value : Nat → Bool → List Char → List Char
  | _, _, [] => []
  | depth, true, '\\' :: _ :: rest => value depth true rest
  | depth, true, c :: rest => value depth (c != '"') rest
  | depth, false, c :: rest =>
    if depth = 0 ∧ (c = ',' ∨ c = ')') then c :: rest
    else if c = '"' then value depth true rest
    else if c = '(' ∨ c = '[' then value (depth + 1) false rest
    else if c = ')' ∨ c = ']' then value (depth - 1) false rest
    else value depth false rest

/-- Passes over one argument value from its start. -/
def argument (text : List Char) : List Char :=
  value 0 false text

/-- Passes over a statement: up to a semicolon, or behind a newline, outside
quotes. -/
def statementFrom : Bool → List Char → List Char
  | _, [] => []
  | true, '\\' :: _ :: rest => statementFrom true rest
  | true, c :: rest => statementFrom (c != '"') rest
  | false, c :: rest =>
    if c = ';' then c :: rest
    else if c = '\n' then rest
    else statementFrom (c == '"') rest

/-- Passes over a statement from its start. -/
def statement (text : List Char) : List Char :=
  statementFrom false text

theorem value_length_le (depth : Nat) (quoted : Bool) (text : List Char) :
    (value depth quoted text).length ≤ text.length := by
  fun_induction value depth quoted text with
  | case1 => simp
  | case4 => simp
  | _ => simp only [List.length_cons]; omega

/-- A value has at least one character, unless its delimiter comes at once. -/
theorem argument_length_lt {c : Char} {rest : List Char}
    (opens : c ≠ ',' ∧ c ≠ ')') :
    (argument (c :: rest)).length < (c :: rest).length := by
  have shorter := fun depth quoted => value_length_le depth quoted rest
  unfold argument value
  simp only [opens, or_self, and_false, if_false, List.length_cons]
  split
  · exact Nat.lt_succ_of_le (shorter _ _)
  · split
    · exact Nat.lt_succ_of_le (shorter _ _)
    · split
      · exact Nat.lt_succ_of_le (shorter _ _)
      · exact Nat.lt_succ_of_le (shorter _ _)

theorem argument_length_le (text : List Char) :
    (argument text).length ≤ text.length :=
  value_length_le _ _ _

theorem statementFrom_length_le (quoted : Bool) (text : List Char) :
    (statementFrom quoted text).length ≤ text.length := by
  fun_induction statementFrom quoted text with
  | case1 => simp
  | case4 => simp
  | case5 => simp
  | _ => simp only [List.length_cons]; omega

/-- A statement has at least one character, unless its semicolon comes at
once. -/
theorem statement_length_lt {c : Char} {rest : List Char} (opens : c ≠ ';') :
    (statement (c :: rest)).length < (c :: rest).length := by
  have shorter := fun quoted => statementFrom_length_le quoted rest
  unfold statement statementFrom
  simp only [opens, if_false, List.length_cons]
  split
  · exact Nat.lt_succ_of_le (Nat.le_refl _)
  · exact Nat.lt_succ_of_le (shorter _)

/-- Passes over an open argument list, behind its closing parenthesis. -/
def arguments (text : List Char) : List Char :=
  match _left : argument text with
  | [] => []
  | c :: rest => if c = ')' then rest else arguments rest
termination_by text.length
decreasing_by
  have shorter := argument_length_le text
  rw [_left, List.length_cons] at shorter
  omega

theorem arguments_length_le (text : List Char) :
    (arguments text).length ≤ text.length := by
  have shorter := argument_length_le text
  rw [arguments]
  split
  · simp
  · rename_i c rest left
    have less : rest.length < text.length := by
      rw [left, List.length_cons] at shorter
      omega
    split
    · omega
    · have further := arguments_length_le rest
      omega
termination_by text.length

/-- A space or a tab. -/
def isInlineBlank (c : Char) : Bool :=
  c == ' ' || c == '\t'

/-- Passes over what follows a keyword that is not understood: its argument
list, or the rest of the statement. -/
def command (text : List Char) : List Char :=
  match text.dropWhile isInlineBlank with
  | '(' :: rest => arguments rest
  | rest => statement rest

theorem afterNewline_suffix (text : List Char) :
    Cursor.afterNewline text <:+ text := by
  induction text with
  | nil => exact List.suffix_rfl
  | cons head tail hypothesis =>
    unfold Cursor.afterNewline
    split
    · exact List.suffix_cons head tail
    · exact hypothesis.trans (List.suffix_cons head tail)

/-- Passes over blanks, semicolons and comment lines. -/
def separators (comment : Char) (text : List Char) : List Char :=
  match text with
  | [] => []
  | c :: rest =>
    if isBlank c || c == ';' then separators comment rest
    else if c = comment then separators comment (Cursor.afterNewline rest)
    else c :: rest
termination_by text.length
decreasing_by
  · simp
  · have shorter := (afterNewline_suffix rest).length_le
    simp only [List.length_cons]
    omega

end Skip

end GridScript
