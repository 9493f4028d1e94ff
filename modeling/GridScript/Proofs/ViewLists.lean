import GridScript.Proofs.Saving
import GridScript.Proofs.Truncating
import GridScript.Proofs.Vocabulary

/-!
# Lists of views

Snapshots can be asked for by a list of views.  Each token of the list is read
as the view that it names, or as null, and nulls are passed over.  What is left
says which views are written, as long as anything is left: no view at all means
every view.  So a list keeps to its views if one of its tokens names a view that
is there, and otherwise only if it happens to mention every view that the other
arguments ask for.
-/

namespace GridScript

/-! ### Tokens of references -/

/-- The class and the number that a token spells, whatever there is. -/
def spelledReference? (token : List Char) : Option ObjectRef :=
  match splitAtFirst? (· == ':') token with
  | none => none
  | some (className, number) =>
      (parseNat64? (trimChars number)).map fun id =>
        ⟨String.ofList (trimChars className), id⟩

/-- The object of the class that a token names, if it is there. -/
def ObjectTable.named? (objects : ObjectTable) (className : String)
    (token : List Char) : Option ObjectRef :=
  (spelledReference? token).filter fun object =>
    object.className == className && objects.contains className object.id

theorem ObjectTable.named?_eq_some {objects : ObjectTable} {className : String}
    {token : List Char} {object : ObjectRef}
    (named : objects.named? className token = some object) :
    spelledReference? token = some object :=
  (Option.filter_eq_some_iff.mp named).1

/-- A text that is read as one token of a list. -/
def IsToken (token : List Char) : Prop :=
  token ≠ [] ∧ ∀ c ∈ token, Cursor.isTokenEndOrBlank c = false

instance (token : List Char) : Decidable (IsToken token) :=
  decidable_of_iff
    ((!token.isEmpty && token.all (!Cursor.isTokenEndOrBlank ·)) = true)
    (by simp [IsToken])

namespace Cursor

theorem fst_resolveReference (objects : ObjectTable) (className : String)
    (token : List Char) (c : Cursor) :
    (c.resolveReference objects className (String.ofList token)).1 =
      objects.named? className token := by
  unfold resolveReference ObjectTable.named? spelledReference?
  rw [String.toList_ofList]
  cases splitAtFirst? (· == ':') token with
  | none => rfl
  | some parts =>
      obtain ⟨found, number⟩ := parts
      dsimp only
      cases parseNat64? (trimChars number) with
      | none => rfl
      | some id =>
          by_cases same : String.ofList (trimChars found) = className
          · cases known : objects.contains className id <;>
              simp [same, known, Option.filter]
          · simp [same, Option.filter]

/-- A token is read as the object that it names, or as null. -/
theorem readReferenceItem_token (objects : ObjectTable) (className : String)
    {c : Cursor} {token rest : List Char} (isToken : IsToken token)
    (ends : EndsToken rest) (unread : c.rest = token ++ rest) :
    (c.readReferenceItem objects className).1 =
        some (objects.named? className token) ∧
      (c.readReferenceItem objects className).2.rest = rest := by
  have read := readReferenceToken_of_token isToken.1 isToken.2 ends unread
  rw [readReferenceItem_of_token (isEmpty_ofList isToken.1) read]
  exact ⟨congrArg some (fst_resolveReference objects className token _),
    rest_resolveReference objects className _ _⟩

/-- Behind the blanks stands a token: it is the next item. -/
theorem listStep_token (objects : ObjectTable) (className : String)
    {c : Cursor} {blanks token rest : List Char} (areBlanks : IsBlanks blanks)
    (isToken : IsToken token) (ends : EndsToken rest)
    (unread : c.rest = blanks ++ (token ++ rest)) :
    ∃ after, listStep (readReferenceItem objects className) c =
        .continued (some (objects.named? className token)) after ∧
      after.rest = rest := by
  obtain ⟨head, tail, chars⟩ := List.exists_cons_of_ne_nil isToken.1
  have opens : OpensToken token :=
    ⟨head, tail, chars, isToken.2 head (by simp [chars])⟩
  obtain ⟨item, left⟩ := readReferenceItem_token objects className isToken ends
    (rest_behind c blanks (token ++ rest))
  refine ⟨_, ?_, left⟩
  rw [← item]
  exact listStep_opens areBlanks.isSpace opens unread left

/-- The tokens of a list are read one after another. -/
theorem readItems_tokens (objects : ObjectTable) (className : String)
    {tokens : List (List Char)} {text : List Char}
    (spaced : Spaced (fun token lexeme => lexeme = token) tokens text)
    (areTokens : ∀ token ∈ tokens, IsToken token) {c : Cursor}
    {rest : List Char} (unread : c.rest = text ++ ']' :: rest) :
    (readItems (readReferenceItem objects className) c).1 =
        tokens.map (objects.named? className) ∧
      (readItems (readReferenceItem objects className) c).2.rest = rest := by
  induction spaced generalizing c with
  | nil areBlanks =>
      rw [readItems_of_finished (listStep_close areBlanks.isSpace unread)]
      exact ⟨rfl, rfl⟩
  | @last token before lexeme after leading same trailing =>
      subst same
      have ends : EndsToken (after ++ ']' :: rest) :=
        endsToken_blanks trailing (endsToken_cons (by decide))
      obtain ⟨behind, step, left⟩ := listStep_token objects className leading
        (areTokens lexeme List.mem_cons_self) ends (unread.trans (by simp))
      rw [readItems_of_continued step,
        readItems_of_finished (listStep_close trailing.isSpace left)]
      exact ⟨rfl, rfl⟩
  | @cons token tokens before lexeme after text leading same trailing _ _
      induction =>
      subst same
      have ends : EndsToken (after ++ ',' :: (text ++ ']' :: rest)) :=
        endsToken_blanks trailing (endsToken_cons (by decide))
      obtain ⟨behind, step, left⟩ := listStep_token objects className leading
        (areTokens lexeme List.mem_cons_self) ends (unread.trans (by simp))
      obtain ⟨values, later⟩ := induction
        (fun other member => areTokens other (List.mem_cons_of_mem _ member))
        (rest_behind behind (after ++ [',']) (text ++ ']' :: rest))
      rw [readItems_of_continued step,
        readItems_of_continued (listStep_comma trailing.isSpace left)]
      exact ⟨congrArg (_ :: ·) values, later⟩

/-- A list of tokens is read as the objects that they name, with nulls between
them. -/
theorem readValue_references (objects : ObjectTable) (className : String)
    {tokens : List (List Char)} {text : List Char}
    (spaced : Spaced (fun token lexeme => lexeme = token) tokens text)
    (areTokens : ∀ token ∈ tokens, IsToken token) {c : Cursor}
    {rest : List Char} (unread : c.rest = '[' :: (text ++ ']' :: rest)) :
    (c.readValue objects (.references className)).1 = some (.array
        (tokens.map fun token => .reference (objects.named? className token))) ∧
      (c.readValue objects (.references className)).2.rest = rest := by
  have start : c.skipBlanks = c := skipBlanks_eq_self unread (by decide)
  have next : c.next.rest = text ++ ']' :: rest := by
    rw [next_eq_behind unread, rest_behind]
  obtain ⟨items, left⟩ :=
    readItems_tokens objects className spaced areTokens next
  have opens : c.peek? = some '[' := by rw [peek?, unread]; rfl
  have some : c.rest.isEmpty = false := by rw [unread]; rfl
  simp only [readValue, unlessEnd, start, some, Bool.false_eq_true, if_false,
    readReferences, readList, opens, if_true, Prod.map_fst, Prod.map_snd,
    Option.map_some, items, List.map_map, left, id_eq]
  exact ⟨rfl, trivial⟩

end Cursor

/-! ### Argument lists -/

namespace Parser

/-- A named argument is read as the value of its field, whether the field is set
already or not. -/
theorem readArgument_named (dialect : Dialect) (objects : ObjectTable)
    {state : ArgumentList} {c : Cursor} {name : String} {field : Field}
    {body : List Char} (word : IsIdentifier name)
    (found : state.invocation.fields.find? (·.accepts name) = some field)
    (scriptable : field.scriptable = true)
    (unread : c.rest = name.toList ++ '=' :: body) :
    ∃ there, there.rest = body ∧
      readArgument dialect objects c state =
        readField objects field there state := by
  have named : argumentName? c.rest = some (⟨name, true⟩, body) := by
    rw [unread]
    exact argumentName?_equals word isBlanks_nil body
  have split : c.rest = (name.toList ++ ['=']) ++ body := by simp [unread]
  have behind : (checkSeparator dialect true
      ((c.moveTo body).inArgument name)).rest = body := by
    rw [rest_checkSeparator, Cursor.moveTo_eq_behind split]
    rfl
  rw [readArgument, named]
  simp only [readNamed, found, scriptable, if_true]
  split
  · exact ⟨Cursor.warn _ _, behind, rfl⟩
  · exact ⟨_, behind, rfl⟩

/-- A list of references that is given by name sets its field, and the
parenthesis behind it ends the argument list. -/
theorem readArguments_references (dialect : Dialect) (objects : ObjectTable)
    (start : Nat) {state : ArgumentList} {field : Field} {className : String}
    (word : IsIdentifier field.name)
    (found : state.invocation.fields.find? (·.accepts field.name) = some field)
    (scriptable : field.scriptable = true)
    (type : field.type = .references className) {tokens : List (List Char)}
    {text rest : List Char}
    (spaced : Spaced (fun token lexeme => lexeme = token) tokens text)
    (areTokens : ∀ token ∈ tokens, IsToken token)
    (unread : state.cursor.skipBlanks.rest =
      field.name.toList ++ '=' :: '[' :: (text ++ ']' :: ')' :: rest)) :
    (readArguments dialect objects start state).1 =
      state.invocation.set field.name (.array (tokens.map fun token =>
        .reference (objects.named? className token))) := by
  obtain ⟨there, atValue, argument⟩ := readArgument_named dialect objects word
    found scriptable unread
  obtain ⟨value, behind⟩ := Cursor.readValue_references objects className spaced
    areTokens atValue
  rw [← type] at value behind
  obtain ⟨head, tail, chars, starts, _⟩ := exists_cons_of_isIdentifier word
  have isWord := isWord_of_isWordStart starts
  have opened : state.cursor.skipBlanks.rest = head :: (tail ++
      '=' :: '[' :: (text ++ ']' :: ')' :: rest)) := by
    rw [unread, chars]
    rfl
  have step : argumentStep dialect objects start state = .continued
      (passField objects field there state) := by
    simp only [argumentStep, opened]
    rw [if_neg (ne_of_isWord isWord (by decide)),
      if_neg (ne_of_isWord isWord (by decide)), argument]
    rfl
  have closes : ((readField objects field there state).cursor).skipBlanks.rest =
      ')' :: rest := by
    rw [cursor_readField, Cursor.skipBlanks_eq_self behind (by decide), behind]
  have left : (passField objects field there state).cursor.rest =
      [] ++ ')' :: rest := by
    rw [passField, finishArgument_close closes]
    exact closes
  rw [readArguments_of_continued step, readArguments_of_finished
    (argumentStep_close dialect objects start isBlanks_nil left)]
  simp only [passField, readField, value]

end Parser

namespace Builtin

/-- At the cursor stands a use of `exportSnapshots`, and its argument list ends
in a list of views with these tokens, whatever arguments stand before it. -/
structure ListsViews (dialect : Dialect) (objects : ObjectTable)
    (tokens : List (List Char)) (c : Cursor) : Prop where
  nonEmpty : tokens ≠ []
  areTokens : ∀ token ∈ tokens, IsToken token
  stands : ∃ blanks body state text rest, IsBlanks blanks ∧
    c.rest = "exportSnapshots".toList ++ (blanks ++ '(' :: body) ∧
    Parser.ComesTo dialect objects
      (Parser.openedList exportSnapshots c blanks body) state ∧
    Spaced (fun token lexeme => lexeme = token) tokens text ∧
    state.cursor.skipBlanks.rest =
      "views=[".toList ++ (text ++ ']' :: ')' :: rest)

theorem spaced_tokens (tokens : List (List Char)) :
    Spaced (fun token lexeme => lexeme = token) tokens
      (commaSeparated tokens) := by
  have spaced : Spaced (fun token lexeme => lexeme = token) tokens
      ([] ++ commaSeparated (tokens.map fun token => token)) :=
    spaced_commaSeparated isBlanks_nil tokens fun _ _ => rfl
  rwa [List.map_id_fun', List.nil_append] at spaced

/-- The views that are asked for are those that the tokens name. -/
theorem ListsViews.read {dialect : Dialect} {objects : ObjectTable}
    {tokens : List (List Char)} {c : Cursor}
    (lists : ListsViews dialect objects tokens c) :
    ∃ invocation,
      (Parser.readStatement .builtin dialect objects c).1 = some invocation ∧
      invocation.command = exportSnapshots ∧
      invocation.arguments.objects "views" =
        tokens.filterMap (objects.named? "View") := by
  obtain ⟨_, areTokens, blanks, body, state, text, rest, areBlanks, unread,
    comes, spaced, stands⟩ := lists
  have member : exportSnapshots ∈ commands := by simp [commands]
  obtain ⟨start, read⟩ := Parser.readStatement_opened
    (Registry.get?_builtin member) (wellNamed member).name dialect objects
    areBlanks unread
  obtain ⟨isCommand, aligned⟩ := comes.keeps
    (fun invocation =>
      invocation.command = exportSnapshots ∧ invocation.Aligned)
    (by
      rintro _ before after ⟨isCommand, aligned⟩ ⟨_, _, _, _, _, _, _, rfl⟩
      exact ⟨isCommand, (Arguments.names_setSlots _ _ _).trans aligned⟩)
    ⟨rfl, Arguments.names_ofDefaults _⟩
  have fields : state.invocation.fields = exportSnapshots.fields :=
    congrArg Command.fields isCommand
  obtain ⟨field, found, name, scriptable, type⟩ : ∃ field,
      exportSnapshots.fields.find? (·.accepts "views") = some field ∧
        field.name = "views" ∧ field.scriptable = true ∧
        field.type = .references "View" := ⟨_, rfl, rfl, rfl, rfl⟩
  have list := Parser.readArguments_references dialect objects start
    (by rw [name]; decide) (by rw [fields, name]; exact found) scriptable type
    spaced areTokens (by rw [name]; exact stands)
  have slot : "views" ∈ state.invocation.arguments.slots.map (·.name) := by
    rw [aligned, fields]
    decide
  refine ⟨_, congrArg Prod.fst read, ?_, ?_⟩
  · rw [comes.readArguments_eq, list]
    exact isCommand
  · rw [comes.readArguments_eq, list, name, Arguments.objects, Arguments.items,
      Invocation.set, Arguments.get?_set_self _ slot]
    simp [Value.items?, List.filterMap_map, Function.comp_def, Value.object?]

end Builtin

/-! ### What an export has written when it fails -/

namespace Action

variable {α β γ : Type} {app : Application} {paths others : List Path}

/-- With these objects in the application, the action writes the paths in order;
if it fails, it has written a first part of them. -/
def Writes (app : Application) (paths : List Path) (action : Action α) : Prop :=
  ∀ before : Workspace, before.application.SameObjects app →
    ∃ done, done <+: paths ∧
      (action.run.run before).2.application =
        before.application.remembering done ∧
      ∀ value, (action.run.run before).1 = .ok value → done = paths

theorem writes_nothing {action : Action α}
    (keeps : ∀ before : Workspace,
      (action.run.run before).2.application = before.application) :
    Writes app [] action := by
  intro before _
  refine ⟨[], List.prefix_rfl, ?_, fun _ _ => rfl⟩
  rw [Application.remembering_nil]
  exact keeps before

theorem writes_throw (paths : List Path) (cause : CommandError) :
    Writes app paths (throw cause : Action α) := by
  intro before _
  refine ⟨[], List.nil_prefix, ?_, nofun⟩
  rw [Application.remembering_nil]
  rfl

theorem writes_get {next : Workspace → Action α}
    (continues : ∀ workspace : Workspace,
      workspace.application.SameObjects app →
        Writes app paths (next workspace)) :
    Writes app paths (get >>= next) :=
  fun before same => continues before same before same

theorem writes_bind {first : Action α} {next : α → Action β}
    (begun : Writes app paths first)
    (continued : ∀ value, Writes app others (next value)) :
    Writes app (paths ++ others) (first >>= next) := by
  intro before same
  obtain ⟨done, part, application, all⟩ := begun before same
  rcases ran : first.run.run before with ⟨answer, middle⟩
  rw [ran] at application all
  cases answer with
  | error cause =>
      rw [run_bind_error ran]
      exact ⟨done, part.trans (List.prefix_append _ _), application, nofun⟩
  | ok value =>
      obtain rfl := all value rfl
      have still : middle.application.SameObjects app := by
        rw [application]
        exact same.remembering done
      obtain ⟨more, rest, further, whole⟩ := continued value middle still
      rw [run_bind_ok ran]
      refine ⟨done ++ more, (List.prefix_append_right_inj done).mpr rest, ?_,
        ?_⟩
      · rw [further, application, Application.remembering_append]
      · intro result gives
        rw [whole result gives]

theorem writes_first {first : Action α} {next : α → Action β}
    (begun : Writes app paths first)
    (continued : ∀ value, Writes app [] (next value)) :
    Writes app paths (first >>= next) := by
  have both := writes_bind begun continued
  rwa [List.append_nil] at both

theorem writes_createFolders (path : Path) :
    Writes app [] (createFolders path .disk) := by
  apply writes_nothing
  intro before
  rcases made : before.disk.createFolders path with ⟨outcome, disk⟩
  cases outcome with
  | ok => rw [run_createFolders_ok made]
  | error reason => rw [run_createFolders_error made]

theorem writes_store (path : Path) (text : String) :
    Writes app [path] (store path text) := by
  intro before same
  cases written : before.disk.write path text with
  | ok disk =>
      obtain ⟨journal, ran⟩ := (saves_store path text).works same written
      rw [ran]
      exact ⟨[path], List.prefix_rfl, rfl, fun _ _ => rfl⟩
  | error reason =>
      rw [store, run_get_bind, written]
      exact writes_throw [path] _ before same

theorem writes_writeExport (folder : Path) (name text : String) :
    Writes app [folder.child name] (writeExport folder name text) := by
  have file : Writes app [folder.child name]
      (writeFile (folder.child name) text) := by
    unfold writeFile
    cases (folder.child name).folder? with
    | none => exact writes_store _ text
    | some parent =>
        exact writes_bind (writes_createFolders parent) fun _ =>
          writes_store _ text
  exact writes_bind (writes_createFolders folder) fun _ =>
    writes_first file fun _ => writes_nothing fun _ => rfl

theorem writes_print (text : String) : Writes app [] (print text) := by
  apply writes_get
  intro workspace _
  split <;> exact writes_nothing fun _ => rfl

theorem writes_findCase (id : Option Nat) : Writes app [] (findCase id) := by
  apply writes_get
  intro workspace _
  split
  · exact writes_nothing fun _ => rfl
  · exact writes_throw [] _

theorem writes_findView (id : Nat) : Writes app [] (findView id) := by
  apply writes_get
  intro workspace _
  split
  · exact writes_nothing fun _ => rfl
  · exact writes_throw [] _

theorem writes_forM {action : γ → Action Unit}
    (each : ∀ item, Writes app [] (action item)) (items : List γ) :
    Writes app [] (items.forM action) := by
  induction items with
  | nil => exact writes_nothing fun _ => rfl
  | cons item items induction =>
      exact writes_bind (each item) fun _ => induction

theorem writes_mapM {action : γ → Action α} {path : γ → Path}
    (each : ∀ item, Writes app [path item] (action item)) (items : List γ) :
    Writes app (items.map path) (items.mapM action) := by
  induction items with
  | nil => exact writes_nothing fun _ => rfl
  | cons item items induction =>
      rw [List.mapM_cons]
      exact writes_bind (each item) fun _ =>
        writes_first induction fun _ => writes_nothing fun _ => rfl

theorem writes_exportSnapshots (request : SnapshotRequest) :
    Writes app ((app.selectedViews request).map request.file)
      (exportSnapshots request) := by
  have one : ∀ view, Writes app [request.file view]
      (exportSnapshot request view) := by
    intro view
    rw [SnapshotRequest.file, View.fileName, ← String.append_assoc]
    exact writes_bind (writes_findCase _) fun _ => writes_writeExport _ _ _
  have capture : Writes app ((app.selectedViews request).map request.file)
      (do
        request.viewIds.forM fun id => do let _ ← findView id
        ((← get).application.selectedViews request).mapM
          (exportSnapshot request)) := by
    refine writes_bind (writes_forM (fun id =>
      writes_bind (writes_findView id) fun _ => writes_nothing fun _ => rfl)
      request.viewIds) fun _ => ?_
    apply writes_get
    rintro workspace ⟨written, same⟩
    rw [same]
    exact writes_mapM one _
  unfold exportSnapshots
  cases request.caseId with
  | none => exact capture
  | some id => exact writes_bind (writes_findCase _) fun _ => capture

end Action

/-! ### Which views are written -/

namespace Application

variable {app : Application} {request : SnapshotRequest}

theorem mem_viewIds_of_mem_selectedViews {view : View}
    (some : request.viewIds ≠ [])
    (selected : view ∈ app.selectedViews request) :
    view.id ∈ request.viewIds := by
  unfold selectedViews at selected
  split at selected
  · cases selected
  · have fits := (List.mem_filter.mp selected).2
    simpa [some] using (Bool.and_eq_true_iff.mp fits).2

/-- Snapshots of different views go to different files. -/
theorem OneViewEach.eq_of_child_eq (each : app.OneViewEach) {folder : Path}
    {stem : String} {left right : View} (inLeft : left ∈ app.views)
    (inRight : right ∈ app.views)
    (same : folder.child (stem ++ left.fileName) =
      folder.child (stem ++ right.fileName)) : left = right := by
  have names : left.fileName = right.fileName :=
    Path.components_child_inj left.fileName_flat left.one_lt_length_fileName
      right.fileName_flat right.one_lt_length_fileName
      (congrArg Path.components same)
  rw [each, List.mem_map] at inLeft inRight
  obtain ⟨first, _, rfl⟩ := inLeft
  obtain ⟨second, _, rfl⟩ := inRight
  exact congrArg viewOf (fileName_viewOf_injective names)

end Application

namespace Builtin

/-- The views that the arguments ask for, given the numbers in the list of
views. -/
def askedViews (app : Application) (arguments : Arguments) (ids : List Nat) :
    List View :=
  match SnapshotKind.ofName? ((arguments.variant? "type").getD "ALL") with
  | none => []
  | some kind =>
      app.selectedViews
        { snapshotRequest arguments kind ⟨""⟩ with viewIds := ids }

theorem mem_views_of_mem_askedViews {app : Application} {arguments : Arguments}
    {ids : List Nat} {view : View}
    (asked : view ∈ askedViews app arguments ids) : view ∈ app.views := by
  unfold askedViews at asked
  split at asked
  · cases asked
  · exact Application.mem_views_of_mem_selectedViews asked

theorem mem_of_mem_askedViews {app : Application} {arguments : Arguments}
    {ids : List Nat} (some : ids ≠ []) {view : View}
    (asked : view ∈ askedViews app arguments ids) : view.id ∈ ids := by
  unfold askedViews at asked
  split at asked
  · cases asked
  · exact Application.mem_viewIds_of_mem_selectedViews some asked

/-- The file that the arguments give to the snapshot of a view. -/
def viewFile (before : Workspace) (arguments : Arguments) (view : View) :
    Path :=
  (before.exportFolder .snapshots).child
    (arguments.textOr "prefix" "" ++ view.fileName)

/-- The snapshots of the views that are asked for are written in order. -/
theorem writes_runExportSnapshots (arguments : Arguments) (before : Workspace) :
    ∃ done, done <+: (askedViews before.application arguments
        ((arguments.objects "views").map (·.id))).map
          (viewFile before arguments) ∧
      ((runExportSnapshots arguments).run.run before).2.application =
        before.application.remembering done ∧
      ∀ response,
        ((runExportSnapshots arguments).run.run before).1 = .ok response →
          done = (askedViews before.application arguments
            ((arguments.objects "views").map (·.id))).map
              (viewFile before arguments) := by
  have here := Application.SameObjects.refl before.application
  unfold runExportSnapshots askedViews
  dsimp only
  cases SnapshotKind.ofName? ((arguments.variant? "type").getD "ALL") with
  | none => exact Action.writes_throw [] _ before here
  | some kind =>
      rw [Action.run_get_bind]
      refine Action.writes_first (Action.writes_exportSnapshots
        (snapshotRequest arguments kind (before.exportFolder .snapshots))) ?_
        before here
      intro files
      split
      · exact Action.writes_nothing fun _ => rfl
      · exact Action.writes_first (Action.writes_print _) fun _ =>
          Action.writes_nothing fun _ => rfl

/-- The views that are asked for are written in order; if the command fails, a
first part of them is. -/
theorem written_exportSnapshots (arguments : Arguments) (before : Workspace) :
    let done := (exportSnapshots.run arguments).run before
    let asked := askedViews before.application arguments
      ((arguments.objects "views").map (·.id))
    ∃ views, views <+: asked ∧
      done.2.application.written = before.application.written ++
        views.map (viewFile before arguments) ∧
      (done.1.isError = false → views = asked) := by
  intro done asked
  have ran : done =
      (Command.ofAction runExportSnapshots arguments).run before := rfl
  rw [Command.run_ofAction] at ran
  dsimp only at ran
  obtain ⟨paths, part, application, all⟩ :=
    writes_runExportSnapshots arguments before
  have written : done.2.application.written =
      before.application.written ++ paths := by
    rw [ran]
    exact congrArg Application.written application
  cases answer : ((runExportSnapshots arguments).run.run before).1 with
  | ok response =>
      rw [all response answer] at written
      exact ⟨asked, List.prefix_rfl, written, fun _ => rfl⟩
  | error cause =>
      rw [List.prefix_iff_eq_take, ← List.map_take] at part
      rw [part] at written
      refine ⟨_, List.take_prefix _ _, written, ?_⟩
      intro fine
      rw [ran, answer] at fine
      cases fine

/-- The numbers that the tokens of a list spell. -/
def spelledIds (tokens : List (List Char)) : List Nat :=
  (tokens.filterMap spelledReference?).map (·.id)

/-- The files written in between are snapshots of views with these numbers. -/
def WritesViews (before after : Workspace) (file : View → Path)
    (ids : List Nat) : Prop :=
  ∃ views : List View,
    (∀ view ∈ views, view ∈ before.application.views ∧ view.id ∈ ids) ∧
      after.application.written =
        before.application.written ++ views.map file

theorem mem_spelledIds_of_named {objects : ObjectTable}
    {tokens : List (List Char)} {id : Nat}
    (named : id ∈ (tokens.filterMap (objects.named? "View")).map (·.id)) :
    id ∈ spelledIds tokens := by
  obtain ⟨object, inside, rfl⟩ := List.mem_map.mp named
  obtain ⟨token, member, names⟩ := List.mem_filterMap.mp inside
  exact List.mem_map.mpr ⟨object, List.mem_filterMap.mpr
    ⟨token, member, ObjectTable.named?_eq_some names⟩, rfl⟩

/-- A token names a view just if something is left of the list. -/
theorem exists_named_iff {objects : ObjectTable} {tokens : List (List Char)} :
    (∃ token ∈ tokens, (objects.named? "View" token).isSome = true) ↔
      tokens.filterMap (objects.named? "View") ≠ [] := by
  rw [ne_eq, List.filterMap_eq_nil_iff]
  simp [Option.isSome_iff_ne_none]

/-- Different views have different files, so that the files tell which views
were written. -/
theorem mem_of_map_viewFile_eq {before : Workspace}
    (each : before.application.OneViewEach) {arguments : Arguments}
    {views others : List View}
    (inViews : ∀ view ∈ views, view ∈ before.application.views)
    (inOthers : ∀ view ∈ others, view ∈ before.application.views)
    (same : views.map (viewFile before arguments) =
      others.map (viewFile before arguments)) {view : View}
    (member : view ∈ views) : view ∈ others := by
  have file := List.mem_map_of_mem (f := viewFile before arguments) member
  rw [same] at file
  obtain ⟨other, inside, named⟩ := List.mem_map.mp file
  have alike := each.eq_of_child_eq (inOthers other inside)
    (inViews view member) named
  rwa [← alike]

/-- The snapshots of a list are of views that the list mentions if one of its
tokens names a view that was there when it was read.  If none does, that is so
just if the list mentions every view that the other arguments ask for. -/
theorem only_listed_views_iff {before : Workspace}
    (commanded : before.application.Commanded) {dialect : Dialect}
    {objects : ObjectTable} {tokens : List (List Char)} {c : Cursor}
    (lists : ListsViews dialect objects tokens c) :
    ∃ invocation,
      (Parser.readStatement .builtin dialect objects c).1 = some invocation ∧
      let done := invocation.run.run before
      let names := ∃ token ∈ tokens, (objects.named? "View" token).isSome = true
      let only := WritesViews before done.2
        (viewFile before invocation.arguments) (spelledIds tokens)
      (names → only) ∧
      (done.1.isError = false →
        (only ↔ names ∨
          ∀ view ∈ askedViews before.application invocation.arguments [],
            view.id ∈ spelledIds tokens)) := by
  obtain ⟨invocation, read, isCommand, views⟩ := lists.read
  obtain ⟨snapped, part, written, all⟩ :=
    written_exportSnapshots invocation.arguments before
  rw [← isCommand] at written all
  rw [views] at part all
  have known : ∀ view ∈ snapped, view ∈ before.application.views :=
    fun view member => mem_views_of_mem_askedViews (part.subset member)
  refine ⟨invocation, read, ?_⟩
  intro done names only
  by_cases some : names
  · have left : (tokens.filterMap (objects.named? "View")).map (·.id) ≠ [] :=
      mt List.map_eq_nil_iff.mp (exists_named_iff.mp some)
    have narrow : only :=
      ⟨snapped, fun view inside => ⟨known view inside, mem_spelledIds_of_named
        (mem_of_mem_askedViews left (part.subset inside))⟩, written⟩
    exact ⟨fun _ => narrow, fun _ => iff_of_true narrow (.inl some)⟩
  · -- Nothing is left of the list, and an empty list asks for all views.
    have nothing : tokens.filterMap (objects.named? "View") = [] :=
      Decidable.not_not.mp (mt exists_named_iff.mpr some)
    rw [nothing, List.map_nil] at all
    refine ⟨fun is => absurd is some, ?_⟩
    intro fine
    obtain rfl := all fine
    constructor
    · rintro ⟨others, mentioned, same⟩
      refine .inr fun view asked => ?_
      have files := List.append_cancel_left (written.symm.trans same)
      have inside := mem_of_map_viewFile_eq commanded.oneViewEach.2 known
        (fun other member => (mentioned other member).1) files asked
      exact (mentioned view inside).2
    · intro either
      have mentioned := either.resolve_left some
      exact ⟨_, fun view asked => ⟨known view asked, mentioned view asked⟩,
        written⟩

/-- Of two views the second is asked for, and one that there is not. -/
theorem only_listed_views_iff_dangling :
    let load := fun (grid : String) (before : Workspace) =>
      ((loadCase.run ⟨[⟨"path", .string grid, true⟩]⟩).run before).2
    let loaded := load "b" (load "a" {})
    let objects := loaded.application.objectTable
    let tokens := ["View:1".toList, "View:9".toList]
    let c := Cursor.ofText
      "exportSnapshots(prefix=\"b_\", views=[View:1, View:9])"
    ListsViews {} objects tokens c ∧ ∃ invocation,
      (Parser.readStatement .builtin {} objects c).1 = some invocation ∧
        (invocation.run.run loaded).2.application.written =
          [⟨"snapshots/b_View_2.png.txt"⟩] ∧
        WritesViews loaded (invocation.run.run loaded).2
          (viewFile loaded invocation.arguments) (spelledIds tokens) := by
  intro load loaded objects tokens c
  have commanded : loaded.application.Commanded :=
    .command _ (.command _ (.fresh rfl) (by simp [commands]))
      (by simp [commands])
  have lists : ListsViews {} objects tokens c := by
    let body := "prefix=\"b_\", views=[View:1, View:9])".toList
    let pair := (textField "prefix" "Prepended to every file name",
      Value.string "b_")
    let behind :=
      "views=[".toList ++ (commaSeparated tokens ++ ']' :: ')' :: [])
    let opened := Parser.openedList exportSnapshots c [] body
    have unread : c.rest = "exportSnapshots".toList ++ ([] ++ '(' :: body) := by
      decide +kernel
    have member : exportSnapshots ∈ commands := by simp [commands]
    have spelled : IsSpelled .empty opened.invocation.fields pair :=
      ⟨List.mem_cons_of_mem _ List.mem_cons_self, rfl, by decide, by decide,
        .inr (by decide)⟩
    have split : opened.cursor.rest =
        [] ++ (argumentText pair ++ ([] ++ ([','] ++ ' ' :: behind))) := by
      decide +kernel
    obtain ⟨next, stepped, _, crosses⟩ := @Parser.argumentStep_text .empty {}
      objects 1 opened pair (by decide) (wellNamed member).apart spelled
      (Arguments.isSet_ofDefaults _ _) rfl [] _ [] [','] _ isBlanks_nil
      (Dialect.spells_argumentText {} pair) isBlanks_nil (.inl rfl) split
    have left : next.cursor.rest = ' ' :: behind := by
      have remaining := crosses.rest.symm.trans split
      simpa using remaining
    have stands : next.cursor.skipBlanks.rest = behind := by
      rw [Cursor.rest_skipBlanks, left]
      decide +kernel
    exact ⟨by decide, by decide, [], body, next, commaSeparated tokens, [],
      isBlanks_nil, unread, .step stepped (.here next), spaced_tokens tokens,
      stands⟩
  have written : (Parser.readStatement .builtin {} objects c).1.map
      (fun invocation => (invocation.run.run loaded).2.application.written) =
        some [⟨"snapshots/b_View_2.png.txt"⟩] := by
    decide +kernel
  obtain ⟨invocation, read, narrow, _⟩ := only_listed_views_iff commanded lists
  rw [read] at written
  exact ⟨lists, invocation, read, Option.some.inj written,
    narrow ⟨"View:1".toList, List.mem_cons_self, by decide +kernel⟩⟩

/-- A list that names no view that is there asks for every view. -/
theorem not_forall_only_listed_views :
    ¬∀ before : Workspace, before.application.Commanded →
      ∀ (dialect : Dialect) (tokens : List (List Char)) (c : Cursor),
        ListsViews dialect before.application.objectTable tokens c →
        ∀ invocation,
          (Parser.readStatement .builtin dialect before.application.objectTable
            c).1 = some invocation →
          WritesViews before (invocation.run.run before).2
            (viewFile before invocation.arguments) (spelledIds tokens) := by
  intro all
  let loaded :=
    ((loadCase.run ⟨[⟨"path", .string "a", true⟩]⟩).run {}).2
  let tokens := ["View:7".toList]
  let c := Cursor.ofText "exportSnapshots(views=[View:7])"
  have commanded : loaded.application.Commanded :=
    .command _ (.fresh rfl) (by simp [commands])
  have lists : ListsViews {} loaded.application.objectTable tokens c := by
    exact ⟨by decide, by decide, [], "views=[View:7])".toList, _,
      commaSeparated tokens, [], isBlanks_nil, by decide +kernel, .here _,
      spaced_tokens tokens, by decide +kernel⟩
  obtain ⟨invocation, read, _⟩ := lists.read
  have written : (Parser.readStatement .builtin {}
      loaded.application.objectTable c).1.map
        (fun invocation => (invocation.run.run loaded).2.application.written) =
          some [⟨"snapshots/View_1.png.txt"⟩] := by
    decide +kernel
  rw [read] at written
  obtain ⟨views, listed, same⟩ :=
    all loaded commanded {} tokens c lists invocation read
  replace same := (Option.some.inj written).symm.trans same
  -- The view that was written is the only one, and its number is zero.
  have none : ∀ view ∈ loaded.application.views,
      view.id ∉ spelledIds tokens := by
    decide +kernel
  cases views with
  | nil =>
      rw [List.map_nil, List.append_nil] at same
      exact absurd same (by decide +kernel)
  | cons view views =>
      obtain ⟨known, mentioned⟩ := listed view List.mem_cons_self
      exact none view known mentioned

end Builtin

end GridScript
