import GridScript.Proofs.Places
import GridScript.Proofs.RoundTrip

/-!
# Layout

A script may put blanks around its tokens, an equals sign or blanks between a
name and its value, and blanks, semicolons and comments between its statements.
None of this changes what the script says.  It only moves the lines where its
keywords stand.
-/

namespace GridScript

/-- A command together with the arguments that a script gives it. -/
structure Use where
  command : Command
  arguments : List (Field × Value)

namespace Use

/-- Script text can spell the use: the command is registered, and its arguments
are values of different fields. -/
structure Proper (registry : Registry) (objects : ObjectTable) (use : Use) :
    Prop where
  registered : registry.named? use.command.name = some use.command
  named : use.command.WellNamed
  areArguments : ∀ pair ∈ use.arguments,
    IsArgument objects use.command.fields pair
  distinct : (use.arguments.map (·.1.name)).Nodup

/-- The use as an invocation that stands on this line.  Its arguments have no
null references in arrays, and all other fields have their defaults. -/
def invocation (use : Use) (line : Nat) : Invocation :=
  { keyword := use.command.name
    line
    command := use.command
    arguments := (Arguments.ofDefaults use.command.fields).setAll
      (use.arguments.map fun pair => (pair.1, pair.2.pruned)) }

/-- The text spells the use: the keyword, and the arguments in parentheses. -/
inductive Laid (use : Use) : List Char → Prop where
  | call {blanks text : List Char} (areBlanks : IsBlanks blanks)
      (spaced : Spaced (Dialect.Spells {}) use.arguments text) :
      Laid use
        (use.command.name.toList ++ (blanks ++ '(' :: (text ++ [')'])))

end Use

/-- What may stand between statements: blanks, semicolons and comment lines. -/
inductive IsGap : List Char → Prop where
  | nil : IsGap []
  | blank {c : Char} {rest : List Char} (isBlank : isPlainBlank c = true)
      (others : IsGap rest) : IsGap (c :: rest)
  | semicolon {rest : List Char} (others : IsGap rest) : IsGap (';' :: rest)
  | comment {line rest : List Char} (single : '\n' ∉ line)
      (others : IsGap rest) : IsGap ('#' :: line ++ '\n' :: rest)

/-- The text spells the uses one after another, with the keyword of each at its
place.  A comment on the last line need not end in a newline. -/
inductive Renders : List Use → List Nat → List Char → Prop where
  | done {gap : List Char} (isGap : IsGap gap) : Renders [] [] gap
  | comment {gap line : List Char} (isGap : IsGap gap) (single : '\n' ∉ line) :
      Renders [] [] (gap ++ '#' :: line)
  | use {use : Use} {uses : List Use} {places : List Nat}
      {gap lexeme text : List Char} (isGap : IsGap gap)
      (laid : use.Laid lexeme) (others : Renders uses places text) :
      Renders (use :: uses)
        (gap.length :: places.map ((gap ++ lexeme).length + ·))
        (gap ++ (lexeme ++ text))

namespace Parser

theorem readScript_gap (registry : Registry) (objects : ObjectTable)
    {gap : List Char} (isGap : IsGap gap) {c : Cursor} {rest : List Char}
    (unread : c.rest = gap ++ rest) :
    readScript registry {} objects c =
      readScript registry {} objects (c.behind gap rest) := by
  refine readScript_separators registry {} objects unread ?_
  clear unread
  induction isGap with
  | nil => rfl
  | @blank head gap blank _ induction =>
      rw [List.cons_append, Skip.separators.eq_def]
      simp only [isBlank_of_isPlainBlank blank, Bool.true_or, if_true]
      exact induction
  | @semicolon gap _ induction =>
      rw [List.cons_append, Skip.separators.eq_def]
      simp only [beq_self_eq_true, Bool.or_true, if_true]
      exact induction
  | @comment line gap single _ induction =>
      have visible : (isBlank '#' || '#' == ';') = false := by decide
      rw [List.append_assoc, List.cons_append, Skip.separators.eq_def]
      simp only [visible, Bool.false_eq_true, if_false, if_true,
        List.cons_append, afterNewline_append single]
      exact induction

theorem afterNewline_eq_nil {line : List Char} (single : '\n' ∉ line) :
    Cursor.afterNewline line = [] := by
  induction line with
  | nil => rfl
  | cons head line induction =>
      rw [List.mem_cons, not_or] at single
      rw [Cursor.afterNewline, if_neg (Ne.symm single.1), induction single.2]

theorem readScript_lastComment (registry : Registry) (objects : ObjectTable)
    {c : Cursor} {line : List Char} (single : '\n' ∉ line)
    (unread : c.rest = '#' :: line) :
    readScript registry {} objects c = ([], c.behind ('#' :: line) []) := by
  have visible : (isBlank '#' || '#' == ';') = false := by decide
  have separate : Skip.separators '#' (('#' :: line) ++ []) =
      Skip.separators '#' [] := by
    rw [List.append_nil, Skip.separators.eq_def]
    simp only [visible, Bool.false_eq_true, if_false, if_true,
      afterNewline_eq_nil single]
  have whole : c.rest = ('#' :: line) ++ [] := by simp [unread]
  rw [readScript_separators registry {} objects whole separate,
    readScript_end registry {} objects (Cursor.rest_behind _ _ _)]

/-- A text that spells a use is read as that use, silently. -/
theorem readStatement_laid {registry : Registry} {objects : ObjectTable}
    {use : Use} (proper : use.Proper registry objects) {lexeme : List Char}
    (laid : use.Laid lexeme) {c : Cursor}
    (idle : c.command = none ∧ c.argument = none) {rest : List Char}
    (unread : c.rest = lexeme ++ rest) :
    readStatement registry {} objects c =
      (some (use.invocation c.line), c.behind lexeme rest) := by
  obtain @⟨blanks, text, areBlanks, spaced⟩ := laid
  have registered : registry.get? use.command.name = some use.command := by
    simp [Registry.get?, proper.registered]
  have exact : ∀ pair ∈ use.arguments, pair.2.Exact :=
    fun pair member => (proper.areArguments pair member).exact
  have known : ∀ pair ∈ use.arguments, pair.2.KnownIn objects :=
    fun pair member => (proper.areArguments pair member).typed.knownIn
  have values : reread objects use.arguments =
      use.arguments.map fun pair => (pair.1, pair.2.pruned) := by
    refine List.map_congr_left ?_
    intro pair member
    rw [Value.resolved_eq_self _ (known pair member).pruned]
  have split : c.rest = use.command.name.toList ++
      (blanks ++ '(' :: (text ++ ')' :: rest)) := by
    rw [unread]
    simp
  obtain ⟨read, passes⟩ := readStatement_text registered proper.named {}
    objects (fun pair member => (proper.areArguments pair member).spelled)
    proper.distinct areBlanks spaced idle split
  rw [flatMap_argumentErrors_of_exact exact] at passes
  rw [readBack_of_exact exact, values] at read
  have left : (readStatement registry {} objects c).2.rest = rest :=
    List.append_cancel_left (passes.rest.symm.trans unread)
  have behind := Cursor.Passes.eq_behind passes known
  rw [left] at behind
  exact Prod.ext read behind

/-- A rendering is read as its uses, each on the line of its keyword. -/
theorem readScript_renders {registry : Registry} {objects : ObjectTable}
    {uses : List Use} {places : List Nat} {text : List Char}
    (renders : Renders uses places text)
    (proper : ∀ use ∈ uses, use.Proper registry objects) {c : Cursor}
    (idle : c.command = none ∧ c.argument = none) (unread : c.rest = text) :
    readScript registry {} objects c =
      (uses.zipWith (fun use place =>
          use.invocation (c.line + (text.take place).count '\n')) places,
        c.behind text []) := by
  induction renders generalizing c with
  | @done gap isGap =>
      have split : c.rest = gap ++ [] := by simp [unread]
      rw [readScript_gap registry objects isGap split]
      exact readScript_end registry {} objects (Cursor.rest_behind _ _ _)
  | @comment gap line isGap single =>
      rw [readScript_gap registry objects isGap unread,
        readScript_lastComment registry objects single
          (Cursor.rest_behind _ _ _), Cursor.behind_behind]
      rfl
  | @use use uses places gap lexeme text isGap laid others induction =>
      obtain ⟨head, tail, chars, starts, _⟩ := exists_cons_of_isIdentifier
        (proper use List.mem_cons_self).named.name
      have first : ∃ more, lexeme = head :: more := by
        cases laid with
        | call => exact ⟨_, by rw [chars]; rfl⟩
      obtain ⟨more, begins⟩ := first
      have opened : (c.behind gap (lexeme ++ text)).rest =
          head :: (more ++ text) := by
        rw [Cursor.rest_behind, begins]
        rfl
      have statement := readStatement_laid (proper use List.mem_cons_self) laid
        (c := c.behind gap (lexeme ++ text)) idle rfl
      have later := induction
        (fun other member => proper other (List.mem_cons_of_mem _ member))
        (c := c.behind (gap ++ lexeme) text) idle rfl
      rw [readScript_gap registry objects isGap unread,
        readScript_statement registry objects opened starts, statement,
        Cursor.behind_behind]
      dsimp only
      rw [later]
      -- The places behind the use count from the start of the whole text.
      have lines : ∀ place, (gap ++ lexeme).count '\n' +
          (text.take place).count '\n' =
            ((gap ++ (lexeme ++ text)).take
              ((gap ++ lexeme).length + place)).count '\n' := by
        intro place
        rw [← List.append_assoc, List.take_length_add_append]
        exact List.count_append.symm
      simp only [Option.toList_some, List.singleton_append,
        List.zipWith_cons_cons, List.zipWith_map_right, List.take_left,
        Cursor.line_behind, Cursor.behind_behind, Nat.add_assoc, lines,
        List.append_assoc]

end Parser

/-- A rendering says its uses and nothing else. -/
theorem parseScript_renders {registry : Registry} {objects : ObjectTable}
    {uses : List Use} {places : List Nat} {text : String}
    (renders : Renders uses places text.toList)
    (proper : ∀ use ∈ uses, use.Proper registry objects) :
    parseScript registry {} objects text =
      ⟨uses.zipWith (fun use place =>
        use.invocation (1 + (text.toList.take place).count '\n')) places,
        []⟩ := by
  rw [parseScript, Parser.readScript_renders renders proper ⟨rfl, rfl⟩ rfl]
  rfl

/-- At each place of a rendering stands the keyword of its use. -/
theorem Renders.keywords {uses : List Use} {places : List Nat}
    {text : List Char} (renders : Renders uses places text) :
    List.Forall₂ (fun place use => ∃ blanks body, IsBlanks blanks ∧
        text.drop place = use.command.name.toList ++ (blanks ++ '(' :: body))
      places uses := by
  induction renders with
  | done => exact .nil
  | comment => exact .nil
  | @use use uses places gap lexeme text isGap laid others induction =>
      refine .cons ?_ ?_
      · cases laid with
        | @call blanks arguments areBlanks spaced =>
            exact ⟨blanks, arguments ++ ')' :: text, areBlanks, by simp⟩
      · refine List.forall₂_map_left_iff.mpr (induction.imp ?_)
        intro place use keyword
        rwa [← List.append_assoc, List.drop_length_add_append]

/-- The keywords of a rendering stand on the lines of the invocations. -/
theorem Renders.forall₂_keywordAt {uses : List Use} {places : List Nat}
    {text : String} (renders : Renders uses places text.toList)
    (words : ∀ use ∈ uses, IsIdentifier use.command.name) :
    List.Forall₂ (KeywordAt text) places
      (uses.zipWith (fun use place =>
        use.invocation (1 + (text.toList.take place).count '\n')) places) := by
  have keywords := renders.keywords
  clear renders
  induction keywords with
  | nil => exact .nil
  | @cons place use places uses keyword _ induction =>
      obtain ⟨blanks, body, areBlanks, here⟩ := keyword
      have stops : ∀ c, (blanks ++ '(' :: body).head? = some c →
          isWord c = false :=
        fun c found => Parser.isWord_head?_blanks areBlanks (by decide) found
      have word := Parser.identifier?_append (words use List.mem_cons_self)
        stops
      rw [← here] at word
      exact .cons ⟨⟨_, word⟩, rfl⟩ (induction fun other member =>
        words other (List.mem_cons_of_mem _ member))

/-- The invocation without the line that it stands on. -/
def Invocation.unplaced (invocation : Invocation) : Invocation :=
  { invocation with line := 0 }

theorem unplaced_zipWith_invocation {uses : List Use} {places : List Nat}
    (aligned : places.length = uses.length) (line : Nat → Nat) :
    (uses.zipWith (fun use place => use.invocation (line place)) places).map
        Invocation.unplaced =
      uses.map (·.invocation 0) := by
  have zipped : (uses.zip places).map Prod.fst = uses :=
    List.map_fst_zip (Nat.le_of_eq aligned.symm)
  rw [List.map_zipWith, ← List.map_uncurry_zip_eq_zipWith]
  conv_rhs => rw [← zipped, List.map_map]
  rfl

/-- Renderings of the same uses say the same, up to lines, and nothing is
reported for any of them.  Each invocation is on the line of its keyword. -/
theorem parseScript_layouts {registry : Registry} {objects : ObjectTable}
    {uses : List Use} (proper : ∀ use ∈ uses, use.Proper registry objects)
    {left right : String} {leftPlaces rightPlaces : List Nat}
    (leftRenders : Renders uses leftPlaces left.toList)
    (rightRenders : Renders uses rightPlaces right.toList) :
    let first := parseScript registry {} objects left
    let second := parseScript registry {} objects right
    first.diagnostics = [] ∧ second.diagnostics = [] ∧
      first.invocations.map Invocation.unplaced =
        second.invocations.map Invocation.unplaced ∧
      first.invocations.map Invocation.unplaced =
        uses.map (·.invocation 0) ∧
      List.Forall₂ (KeywordAt left) leftPlaces first.invocations ∧
      List.Forall₂ (KeywordAt right) rightPlaces second.invocations := by
  intro first second
  have words := fun use member => (proper use member).named.name
  have firstSays : first = _ := parseScript_renders leftRenders proper
  have secondSays : second = _ := parseScript_renders rightRenders proper
  have firstUses := unplaced_zipWith_invocation
    leftRenders.keywords.length_eq
    fun place => 1 + (left.toList.take place).count '\n'
  have secondUses := unplaced_zipWith_invocation
    rightRenders.keywords.length_eq
    fun place => 1 + (right.toList.take place).count '\n'
  rw [firstSays, secondSays]
  exact ⟨rfl, rfl, firstUses.trans secondUses.symm, firstUses,
    leftRenders.forall₂_keywordAt words, rightRenders.forall₂_keywordAt words⟩

namespace Use

/-- A use of `survey` with an array of arrays. -/
def surveying : Use :=
  ⟨Invocation.survey, (Invocation.survey.fields.take 2).zip
    [.string "a b", .array [.array [.int 1, .int (-2)], .array []]]⟩

theorem proper_surveying :
    ∀ use ∈ [surveying, ⟨Invocation.survey, []⟩],
      use.Proper { commands := [Invocation.survey] } .empty := by
  have named : Invocation.survey.WellNamed :=
    ⟨by decide, by decide, Parser.pairwise_of_nodup_names (by decide)⟩
  have arguments : ∀ pair ∈ surveying.arguments,
      IsArgument .empty Invocation.survey.fields pair := by
    intro pair member
    have scriptable : ∀ pair ∈ surveying.arguments,
        pair.1.scriptable = true := by decide
    have typed : ∀ pair ∈ surveying.arguments,
        pair.2.HasType .empty pair.1.type := by decide +kernel
    have spellable : ∀ pair ∈ surveying.arguments, pair.2.Spellable := by
      decide +kernel
    have exact : ∀ pair ∈ surveying.arguments, pair.2.Exact := by
      decide +kernel
    exact ⟨List.mem_of_mem_take (List.of_mem_zip member).1,
      scriptable pair member, typed pair member, spellable pair member,
      exact pair member⟩
  intro use member
  simp only [List.mem_cons, List.not_mem_nil, or_false] at member
  rcases member with rfl | rfl
  · exact ⟨rfl, named, arguments, by decide⟩
  · exact ⟨rfl, named, by simp, by decide⟩

end Use

/-- Two uses as they would be recorded, and spread over lines behind a
comment. -/
theorem parseScript_layouts_surveying :
    let uses := [Use.surveying, ⟨Invocation.survey, []⟩]
    let tight := "survey(title=\"a b\", layers=[[1, -2], []])\nsurvey()"
    let loose := "# twice\nsurvey\t( title \"a b\" ,\r\n layers = [ [1 , " ++
      "-2],[ ] ]\n) ; survey ( )"
    let first := parseScript { commands := [Invocation.survey] } {} .empty tight
    let second := parseScript { commands := [Invocation.survey] } {} .empty
      loose
    first.diagnostics = [] ∧ second.diagnostics = [] ∧
      first.invocations.map Invocation.unplaced =
        second.invocations.map Invocation.unplaced ∧
      first.invocations.map Invocation.unplaced =
        uses.map (·.invocation 0) ∧
      List.Forall₂ (KeywordAt tight) [0, 42] first.invocations ∧
      List.Forall₂ (KeywordAt loose) [8, 63] second.invocations := by
  intro uses tight loose first second
  have space : IsBlanks [' '] := by decide
  have tab : IsBlanks ['\t'] := by decide
  have newline : IsBlanks ['\n'] := by decide
  have indented : IsBlanks ['\r', '\n', ' '] := by decide
  have recorded := Renders.use .nil
    (Use.Laid.call isBlanks_nil (spaced_commaSeparated isBlanks_nil
      Use.surveying.arguments fun pair _ =>
        Dialect.spells_argumentText {} pair))
    (Renders.use (.blank (c := '\n') rfl .nil)
      (@Use.Laid.call ⟨Invocation.survey, []⟩ _ _ isBlanks_nil
        (.nil isBlanks_nil))
      (.done .nil))
  have row : Value.Laid (.array [.int 1, .int (-2)]) _ :=
    .array (.cons isBlanks_nil (.atom rfl) space (List.cons_ne_nil _ _)
      (.last space (.atom rfl) isBlanks_nil))
  have empty : Value.Laid (.array []) _ := .array (.nil space)
  have layers : Value.Laid (.array [.array [.int 1, .int (-2)], .array []]) _ :=
    .array (.cons space row isBlanks_nil (List.cons_ne_nil _ _)
      (.last isBlanks_nil empty space))
  have arguments : Spaced (Dialect.Spells {}) Use.surveying.arguments _ :=
    .cons space (.apart rfl space (List.cons_ne_nil _ _) rfl (.atom rfl)) space
      (List.cons_ne_nil _ _)
      (.last indented (.equals space space layers) newline)
  have spread := Renders.use
    (@IsGap.comment " twice".toList [] (by decide) .nil)
    (Use.Laid.call tab arguments)
    (Renders.use
      (.blank (c := ' ') rfl (.semicolon (.blank (c := ' ') rfl .nil)))
      (@Use.Laid.call ⟨Invocation.survey, []⟩ _ _ space (.nil space))
      (.done .nil))
  have tightRenders : Renders uses [0, 42] tight.toList :=
    (congrArg₂ (Renders uses) (by decide) (by decide +kernel)).mpr recorded
  have looseRenders : Renders uses [8, 63] loose.toList :=
    (congrArg₂ (Renders uses) (by decide) (by decide +kernel)).mpr spread
  exact parseScript_layouts Use.proper_surveying tightRenders looseRenders

end GridScript
