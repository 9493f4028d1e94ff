import GridScript.Proofs.Characters
import GridScript.Proofs.Numbered
import GridScript.Proofs.Numerals

/-!
# Snapshots of numbered views

The last component of a path decides which file it names in its folder.  The
views that come with cases are named by their numbers, so that their snapshots
go to different files, and the case of each of them is there.
-/

namespace GridScript

/-! ### The last component of a path -/

theorem splitSlash_of_not_mem {name : List Char} (noSlash : '/' ∉ name) :
    splitSlash name = [name] := by
  induction name with
  | nil => rfl
  | cons c name induction =>
      rw [List.mem_cons, not_or] at noSlash
      rw [splitSlash, if_neg (Ne.symm noSlash.1), induction noSlash.2]

/-- A text without slashes is put behind the last part. -/
theorem exists_splitSlash_append (front : List Char) :
    ∃ parts last, ∀ name, '/' ∉ name →
      splitSlash (front ++ name) = parts ++ [last ++ name] := by
  induction front with
  | nil => exact ⟨[], [], fun _ => splitSlash_of_not_mem⟩
  | cons c front induction =>
      obtain ⟨parts, last, split⟩ := induction
      by_cases slash : c = '/'
      · refine ⟨[] :: parts, last, ?_⟩
        intro name noSlash
        rw [List.cons_append, splitSlash, if_pos slash, split name noSlash]
        rfl
      · cases parts with
        | nil =>
            refine ⟨[], c :: last, ?_⟩
            intro name noSlash
            rw [List.cons_append, splitSlash, if_neg slash, split name noSlash]
            rfl
        | cons part parts =>
            refine ⟨(c :: part) :: parts, last, ?_⟩
            intro name noSlash
            rw [List.cons_append, splitSlash, if_neg slash, split name noSlash]
            rfl

theorem splitSlash_ne_nil (text : List Char) : splitSlash text ≠ [] := by
  obtain ⟨parts, last, split⟩ := exists_splitSlash_append text
  have whole := split [] (by simp)
  rw [List.append_nil] at whole
  simp [whole]

namespace Path

/-- The last part does not belong to the anchor, unless the path is a dot. -/
theorem getLast?_splitSlash_drop_anchor {p : Path}
    (notDot : p.text.toList ≠ ['.']) :
    (splitSlash (p.text.toList.drop p.anchor.length)).getLast? =
      (splitSlash p.text.toList).getLast? := by
  have behind : ∀ (part : List Char) (rest : List Char),
      (part :: splitSlash rest).getLast? = (splitSlash rest).getLast? := by
    intro part rest
    obtain ⟨first, more, split⟩ :=
      List.exists_cons_of_ne_nil (splitSlash_ne_nil rest)
    rw [split, List.getLast?_cons_cons]
  unfold anchor
  split
  · rename_i rest text
    simp [text, splitSlash, behind]
  · rename_i text
    exact absurd text notDot
  · rename_i rest text
    simp [text, splitSlash, behind]
  · rfl

/-- A last part that says something is the last component. -/
theorem getLast?_components {p : Path} {last : List Char}
    (ends : (splitSlash p.text.toList).getLast? = some last)
    (busy : isIdlePart last = false) :
    p.components.getLast? = some (String.ofList last) := by
  have notDot : p.text.toList ≠ ['.'] := by
    intro dot
    rw [dot] at ends
    cases ends
    cases busy
  rw [← getLast?_splitSlash_drop_anchor notDot] at ends
  obtain ⟨front, whole⟩ := List.getLast?_eq_some_iff.mp ends
  have kept : p.reversedParts.reverse = front ++ [last] := by
    rw [reversedParts, whole, List.reverse_append, List.reverse_singleton,
      List.singleton_append, List.dropWhile_cons_of_neg (by simp [busy])]
    simp
  simp [components, kept, busy]

/-- The texts of names in a folder that begin alike begin alike. -/
theorem exists_text_child (folder : Path) (stem : String) :
    ∃ front : List Char, ∀ tail : String, '/' ∉ tail.toList →
      (folder.child (stem ++ tail)).text.toList = front ++ tail.toList := by
  have absolute : ∀ tail : String, '/' ∉ tail.toList →
      Path.isAbsolute ⟨stem ++ tail⟩ = Path.isAbsolute ⟨stem⟩ := by
    intro tail noSlash
    rw [isAbsolute, isAbsolute, String.toList_append]
    cases stem.toList with
    | cons c front => rfl
    | nil =>
        cases same : tail.toList with
        | nil => rfl
        | cons c name =>
            have other : c ≠ '/' := fun slash => noSlash (by simp [same, slash])
            simp [other]
  by_cases rooted : Path.isAbsolute ⟨stem⟩ = true
  · refine ⟨stem.toList, ?_⟩
    intro tail noSlash
    simp [child, join, absolute tail noSlash, rooted]
  · by_cases bare :
        (folder.text.isEmpty || folder.text.toList.getLast? == some '/') = true
    · refine ⟨folder.text.toList ++ stem.toList, ?_⟩
      intro tail noSlash
      rw [child, join, if_neg (by rw [absolute tail noSlash]; exact rooted),
        if_pos bare]
      simp
    · refine ⟨folder.text.toList ++ '/' :: stem.toList, ?_⟩
      intro tail noSlash
      rw [child, join, if_neg (by rw [absolute tail noSlash]; exact rooted),
        if_neg bare]
      simp

/-- Names in a folder that begin alike are told apart by what they end in. -/
theorem components_child_inj {folder : Path} {stem left right : String}
    (leftFlat : '/' ∉ left.toList) (leftLong : 1 < left.toList.length)
    (rightFlat : '/' ∉ right.toList) (rightLong : 1 < right.toList.length)
    (same : (folder.child (stem ++ left)).components =
      (folder.child (stem ++ right)).components) : left = right := by
  obtain ⟨front, text⟩ := exists_text_child folder stem
  obtain ⟨parts, last, split⟩ := exists_splitSlash_append front
  -- A part of two characters or more is neither empty nor a dot, and so no
  -- part that paths leave out.
  have ending : ∀ tail : String, '/' ∉ tail.toList → 1 < tail.toList.length →
      (folder.child (stem ++ tail)).components.getLast? =
        some (String.ofList (last ++ tail.toList)) := by
    intro tail flat long
    apply getLast?_components
    · rw [text tail flat, split _ flat, List.getLast?_concat]
    · have notEmpty : last ++ tail.toList ≠ [] := by
        intro empty
        simp_all
      have notDot : last ++ tail.toList ≠ ['.'] := by
        intro dot
        have length := congrArg List.length dot
        rw [List.length_append, List.length_singleton] at length
        omega
      simp only [isIdlePart, Bool.or_eq_false_iff, List.isEmpty_eq_false_iff,
        beq_eq_false_iff_ne]
      exact ⟨notEmpty, notDot⟩
  have ends := ending left leftFlat leftLong
  rw [same, ending right rightFlat rightLong] at ends
  have equal := String.ofList_injective (Option.some.inj ends)
  exact String.toList_injective (List.append_cancel_left equal).symm

end Path

/-! ### The names of snapshots -/

/-- What the file names of the snapshots of a view end in. -/
def View.fileName (view : View) : String :=
  fileSafe view.name ++ ".png.txt"

theorem slash_not_mem_fileSafe (name : String) :
    '/' ∉ (fileSafe name).toList := by
  intro slash
  rw [fileSafe, String.toList_ofList, List.mem_map] at slash
  obtain ⟨c, _, written⟩ := slash
  split at written
  · rename_i safe
    subst written
    revert safe
    decide
  · revert written
    decide

theorem View.fileName_flat (view : View) : '/' ∉ view.fileName.toList := by
  rw [fileName, String.toList_append, List.mem_append, not_or]
  exact ⟨slash_not_mem_fileSafe view.name, by decide⟩

theorem View.one_lt_length_fileName (view : View) :
    1 < view.fileName.toList.length := by
  rw [fileName, String.toList_append, List.length_append]
  have length : ".png.txt".toList.length = 8 := rfl
  omega

theorem decimalDigits_injective : Function.Injective decimalDigits := by
  intro left right same
  rw [← digitsValue_decimalDigits left, same, digitsValue_decimalDigits]

namespace Application

theorem toList_fileSafe_viewOf (id : Nat) :
    (fileSafe (viewOf id).name).toList =
      "View_".toList ++ decimalDigits (id + 1) := by
  have digits : (decimalDigits (id + 1)).map (fun c =>
      if isAlphanumeric c || c == '-' || c == '_' then c else '_') =
        (decimalDigits (id + 1)).map fun c => c := by
    apply List.map_congr_left
    intro c member
    have word := isWord_of_isDecimalDigit
      (isDecimalDigit_of_mem_decimalDigits member)
    rw [isWord, Bool.or_eq_true] at word
    apply if_pos
    rw [Bool.or_eq_true, Bool.or_eq_true]
    exact word.imp_left .inl
  rw [fileSafe, viewOf, String.toList_ofList, String.toList_append,
    List.map_append, toList_natText, digits, List.map_id_fun']
  rfl

theorem fileName_viewOf_injective :
    Function.Injective fun id => (viewOf id).fileName := by
  intro left right same
  have texts := congrArg String.toList same
  simp only [View.fileName, String.toList_append, toList_fileSafe_viewOf]
    at texts
  have digits := List.append_cancel_left (List.append_cancel_right texts)
  have next := decimalDigits_injective digits
  omega

end Application

/-! ### Writing snapshots -/

namespace Action

variable {α β γ : Type} {app : Application} {Given Fine : α → Prop}
  {Fails : CommandError → Prop}

/-- With these objects in the application, the action only writes files, and it
gives a fine value or fails for one of the causes. -/
def Answers (app : Application) (Fine : α → Prop)
    (Fails : CommandError → Prop) (action : Action α) : Prop :=
  ∀ before : Workspace, (∃ written, before.application = { app with written }) →
    before.OnlyWrites (action.run.run before).2 ∧
      (∀ value, (action.run.run before).1 = .ok value → Fine value) ∧
      ∀ cause, (action.run.run before).1 = .error cause → Fails cause

theorem answers_pure {value : α} (fine : Fine value) :
    Answers app Fine Fails (pure value) := by
  intro before _
  refine ⟨.refl before, ?_, nofun⟩
  intro given same
  cases same
  exact fine

theorem answers_throw {cause : CommandError} (fails : Fails cause) :
    Answers app Fine Fails (throw cause) := by
  intro before _
  refine ⟨.refl before, nofun, ?_⟩
  intro thrown same
  cases same
  exact fails

theorem run_get_bind {next : Workspace → Action α} {before : Workspace} :
    (get >>= next).run.run before = (next before).run.run before :=
  rfl

theorem answers_get {next : Workspace → Action α}
    (continues : ∀ workspace : Workspace,
      (∃ written, workspace.application = { app with written }) →
        Answers app Fine Fails (next workspace)) :
    Answers app Fine Fails (get >>= next) :=
  fun before same => continues before same before same

theorem answers_bind {Fine : β → Prop} {first : Action α} {next : α → Action β}
    (start : Answers app Given Fails first)
    (continues : ∀ value, Given value → Answers app Fine Fails (next value)) :
    Answers app Fine Fails (first >>= next) := by
  intro before same
  obtain ⟨writes, fine, fails⟩ := start before same
  rcases ran : first.run.run before with ⟨answer, middle⟩
  rw [ran] at writes fine fails
  cases answer with
  | ok value =>
      rw [run_bind_ok ran]
      have still : ∃ written, middle.application = { app with written } := by
        obtain ⟨written, same⟩ := same
        refine ⟨middle.application.written, ?_⟩
        rw [writes.application_eq, same]
      obtain ⟨more, rest⟩ := continues value (fine value rfl) middle still
      exact ⟨writes.trans more, rest⟩
  | error cause =>
      rw [run_bind_error ran]
      refine ⟨writes, nofun, ?_⟩
      intro thrown same
      cases same
      exact fails cause rfl

theorem answers_mapM {action : γ → Action α} {result : γ → α} {items : List γ}
    (each : ∀ item ∈ items,
      Answers app (· = result item) Fails (action item)) :
    Answers app (· = items.map result) Fails (items.mapM action) := by
  induction items with
  | nil => exact answers_pure rfl
  | cons item items induction =>
      rw [List.mapM_cons]
      apply answers_bind (each item List.mem_cons_self)
      rintro _ rfl
      apply answers_bind
      · exact induction fun other member =>
          each other (List.mem_cons_of_mem item member)
      · rintro _ rfl
        exact answers_pure rfl

theorem answers_forM {action : γ → Action Unit} {items : List γ}
    (each : ∀ item ∈ items,
      Answers app (fun _ => True) Fails (action item)) :
    Answers app (fun _ => True) Fails (items.forM action) := by
  induction items with
  | nil => exact answers_pure trivial
  | cons item items induction =>
      apply answers_bind (each item List.mem_cons_self)
      intro _ _
      exact induction fun other member =>
        each other (List.mem_cons_of_mem item member)

theorem answers_modify {change : Workspace → Workspace}
    (writes : ∀ before : Workspace, before.OnlyWrites (change before)) :
    Answers app (fun _ => True) Fails (modify change : Action Unit) :=
  fun before _ => ⟨writes before, fun _ _ => trivial, nofun⟩

theorem answers_print (text : String) :
    Answers app (fun _ => True) Fails (print text) := by
  apply answers_get
  intro workspace _
  split
  · exact answers_modify fun _ => .of_eq rfl rfl
  · exact answers_pure trivial

section

variable (disk : ∀ reason, Fails (.disk reason))
include disk

theorem answers_createFolders (path : Path) :
    Answers app (fun _ => True) Fails (createFolders path .disk) := by
  apply answers_get
  intro workspace _
  apply answers_bind
  · exact answers_modify fun _ => .of_eq rfl rfl
  · intro _ _
    split
    · exact answers_pure trivial
    · exact answers_throw (disk _)

theorem answers_store (path : Path) (text : String) :
    Answers app (fun _ => True) Fails (store path text) := by
  have finish : ∀ _ : Unit, True → Answers app (fun _ => True) Fails
      (do
        note .debug ("wrote " ++ path.text)
        changeApplication fun app =>
          { app with written := app.written ++ [path] }) := by
    intro _ _
    apply answers_bind
    · exact answers_modify fun _ => .of_eq rfl rfl
    · intro _ _
      exact answers_modify fun _ => ⟨rfl, rfl, List.prefix_append _ _⟩
  apply answers_get
  intro workspace _
  split
  · exact answers_bind (answers_modify fun _ => .of_eq rfl rfl) finish
  · exact answers_bind (answers_throw (disk _)) finish

theorem answers_writeFile (path : Path) (text : String) :
    Answers app (fun _ => True) Fails (writeFile path text) := by
  unfold writeFile
  cases path.folder? with
  | none => exact answers_store disk path text
  | some folder =>
      exact answers_bind (answers_createFolders disk folder) fun _ _ =>
        answers_store disk path text

theorem answers_writeExport (folder : Path) (name text : String) :
    Answers app (· = folder.child name) Fails
      (writeExport folder name text) := by
  apply answers_bind (answers_createFolders disk folder)
  intro _ _
  apply answers_bind (answers_writeFile disk _ text)
  intro _ _
  exact answers_pure rfl

end

theorem answers_findCase {id : Nat}
    (missing : app.contains "Case" id = false →
      Fails (.objectNotFound (describeCase (some id)))) :
    Answers app (fun _ => True) Fails (findCase (some id)) := by
  apply answers_get
  rintro workspace ⟨written, same⟩
  rw [same]
  split
  · exact answers_pure trivial
  · rename_i none
    apply answers_throw
    apply missing
    rw [Application.contains, List.any_eq_false]
    exact List.find?_eq_none.mp none

theorem answers_findView {id : Nat}
    (missing : app.contains "View" id = false →
      Fails (.objectNotFound ("view " ++ natText id))) :
    Answers app (fun _ => True) Fails (findView id) := by
  apply answers_get
  rintro workspace ⟨written, same⟩
  rw [same]
  split
  · exact answers_pure trivial
  · rename_i none
    apply answers_throw
    apply missing
    rw [Application.contains, List.any_eq_false]
    exact List.find?_eq_none.mp none

end Action

/-- The file that the snapshot of a view goes to. -/
def SnapshotRequest.file (request : SnapshotRequest) (view : View) : Path :=
  request.folder.child (request.stem ++ view.fileName)

namespace Application

variable {app : Application}

/-- The case of a view that came with it is there. -/
theorem contains_caseId (numbered : app.Numbered) (each : app.OneViewEach)
    {view : View} (member : view ∈ app.views) :
    app.contains "Case" view.caseId = true := by
  rw [each, List.mem_map] at member
  obtain ⟨id, inside, rfl⟩ := member
  exact (numbered.cases.any_iff id).mpr (List.mem_range.mp inside)

theorem mem_views_of_mem_selectedViews {request : SnapshotRequest} {view : View}
    (selected : view ∈ app.selectedViews request) : view ∈ app.views := by
  unfold selectedViews at selected
  split at selected
  · cases selected
  · exact (List.mem_filter.mp selected).1

/-- Snapshots of different views go to different files. -/
theorem nodup_components_files (each : app.OneViewEach)
    (request : SnapshotRequest) :
    (((app.selectedViews request).map request.file).map
      Path.components).Nodup := by
  have all : ((app.views.map request.file).map Path.components).Nodup := by
    rw [each, List.map_map, List.map_map]
    refine List.Pairwise.map _ ?_ List.nodup_range
    intro left right different same
    apply different
    apply fileName_viewOf_injective
    exact Path.components_child_inj (viewOf left).fileName_flat
      (viewOf left).one_lt_length_fileName (viewOf right).fileName_flat
      (viewOf right).one_lt_length_fileName same
  have selected : (app.selectedViews request).Sublist app.views := by
    unfold selectedViews
    split
    · exact List.nil_sublist _
    · exact List.filter_sublist
  exact ((selected.map request.file).map Path.components).nodup all

end Application

namespace Action

variable {app : Application} {Fails : CommandError → Prop}

/-- Where each case has its view, an export of snapshots fails only for what the
request itself names, or for the disk. -/
theorem answers_exportSnapshots (numbered : app.Numbered)
    (each : app.OneViewEach) {request : SnapshotRequest}
    (disk : ∀ reason, Fails (.disk reason))
    (noCase : ∀ id, request.caseId = some id → app.contains "Case" id = false →
      Fails (.objectNotFound (describeCase (some id))))
    (noView : ∀ id ∈ request.viewIds, app.contains "View" id = false →
      Fails (.objectNotFound ("view " ++ natText id))) :
    Answers app (· = (app.selectedViews request).map request.file) Fails
      (exportSnapshots request) := by
  have one : ∀ view ∈ app.selectedViews request,
      Answers app (· = request.file view) Fails
        (exportSnapshot request view) := by
    intro view selected
    have known := Application.contains_caseId numbered each
      (Application.mem_views_of_mem_selectedViews selected)
    apply answers_bind
    · exact answers_findCase fun missing => by simp [known] at missing
    · intro shown _
      rw [SnapshotRequest.file, View.fileName, ← String.append_assoc]
      exact answers_writeExport disk _ _ _
  have capture : Answers app (· = (app.selectedViews request).map request.file)
      Fails
      (do
        request.viewIds.forM fun id => do let _ ← findView id
        ((← get).application.selectedViews request).mapM
          (exportSnapshot request)) := by
    apply answers_bind
    · apply answers_forM
      intro id asked
      exact answers_bind (answers_findView (noView id asked)) fun _ _ =>
        answers_pure trivial
    · intro _ _
      -- The views are looked up only now, but among the same objects.
      apply answers_get
      rintro workspace ⟨written, same⟩
      rw [same]
      exact answers_mapM one
  unfold exportSnapshots
  cases asked : request.caseId with
  | none => exact capture
  | some id =>
      exact answers_bind (answers_findCase (noCase id asked)) fun _ _ => capture

end Action

namespace Builtin

/-- The snapshots that the arguments ask for. -/
def snapshotRequest (arguments : Arguments) (kind : SnapshotKind)
    (folder : Path) : SnapshotRequest where
  kind := kind
  stem := arguments.textOr "prefix" ""
  caseId := idArgument arguments "caseId"
  viewIds := (arguments.objects "views").map (·.id)
  folder := folder

/-- Why an export of snapshots may fail: its arguments name something that there
is not, or the disk fails. -/
inductive SnapshotFailure (app : Application) (arguments : Arguments) :
    CommandError → Prop where
  | unknownType {name : String} :
      (arguments.variant? "type").getD "ALL" = name →
      SnapshotKind.ofName? name = none →
      SnapshotFailure app arguments
        (.invalidArgument "type" ("unknown snapshot type " ++ name))
  | missingCase {id : Nat} :
      idArgument arguments "caseId" = some id →
      app.contains "Case" id = false →
      SnapshotFailure app arguments
        (.objectNotFound (Action.describeCase (some id)))
  | missingView {id : Nat} :
      id ∈ (arguments.objects "views").map (·.id) →
      app.contains "View" id = false →
      SnapshotFailure app arguments (.objectNotFound ("view " ++ natText id))
  | disk (reason : DiskError) : SnapshotFailure app arguments (.disk reason)

/-- An answer to an export of snapshots that worked. -/
def Exported (before : Workspace) (arguments : Arguments)
    (response : Response) : Prop :=
  response.isError = false ∧ ∃ kind paths,
    SnapshotKind.ofName? ((arguments.variant? "type").getD "ALL") = some kind ∧
      paths = (before.application.selectedViews (snapshotRequest arguments kind
        (before.exportFolder .snapshots))).map
          (snapshotRequest arguments kind
            (before.exportFolder .snapshots)).file ∧
      response.result = some (.files paths) ∧
      (paths.map Path.components).Nodup

open GridScript.Action in
theorem answers_runExportSnapshots {before : Workspace}
    (numbered : before.application.Numbered)
    (each : before.application.OneViewEach) (arguments : Arguments) :
    (∀ response,
      ((runExportSnapshots arguments).run.run before).1 = .ok response →
        Exported before arguments response) ∧
    ∀ cause, ((runExportSnapshots arguments).run.run before).1 = .error cause →
      SnapshotFailure before.application arguments cause := by
  unfold runExportSnapshots
  dsimp only
  split
  · rename_i kind known
    let request :=
      snapshotRequest arguments kind (before.exportFolder .snapshots)
    have exported : ∀ {response : Response}, response.isError = false →
        response.result = some (.files
          ((before.application.selectedViews request).map request.file)) →
        Exported before arguments response :=
      fun fine result => ⟨fine, kind, _, known, rfl, result,
        Application.nodup_components_files each request⟩
    have written : Answers before.application
        (· = (before.application.selectedViews request).map request.file)
        (SnapshotFailure before.application arguments)
        (Action.exportSnapshots request) :=
      answers_exportSnapshots numbered each .disk (fun _ => .missingCase)
        (fun _ => .missingView)
    rw [run_get_bind]
    refine (answers_bind written ?_ before ⟨_, rfl⟩).2
    rintro _ rfl
    split
    · exact answers_pure (exported rfl rfl)
    · apply answers_bind (answers_print _)
      intro _ _
      exact answers_pure (exported rfl rfl)
  · rename_i unknown
    refine ⟨nofun, ?_⟩
    rintro _ ⟨⟩
    exact .unknownType rfl (Option.eq_none_iff_forall_not_mem.mpr unknown)

end Builtin

/-! ### Objects and their views -/

/-- Whatever is asked of an application, its objects have their places as their
numbers, an object is known by its class and a number below how many there are,
and the next number is how many there are.  Where only commands were run, each
case has one view, named by its number, so that snapshots fail only for what is
asked for or for the disk, and go to different files. -/
theorem objects_numbered_by_place :
    (∀ start : Workspace, start.application.Fresh →
      ∀ operations : List Operation,
        let app := (Operation.afterAll start operations).application
        (InOrder GridCase.id app.cases ∧ InOrder View.id app.views ∧
          InOrder CaseGroup.id app.caseGroups ∧
          InOrder WellPath.id app.wellPaths) ∧
        (∀ className id, app.contains className id = true ↔
          ∃ size, (className, size) ∈ app.sizes ∧ id < size) ∧
        (∀ gridFile, (app.addCase gridFile).1 = app.cases.length) ∧
        (∀ caseId name, (app.addView caseId name).1 = app.views.length) ∧
        (∀ sources, (app.addCaseGroup sources).1 = app.caseGroups.length) ∧
        ∀ name, (app.addWellPath name).1 = app.wellPaths.length) ∧
    ∀ before : Workspace, before.application.Commanded →
      before.application.views =
        (List.range before.application.cases.length).map
          Application.viewOf ∧
      ∀ arguments : Arguments,
        let response := ((Builtin.exportSnapshots.run arguments).run before).1
        Builtin.Exported before arguments response ∨
          ∃ cause, response = .ofError cause ∧
            Builtin.SnapshotFailure before.application arguments cause := by
  constructor
  · intro start fresh operations app
    have numbered : app.Numbered := by
      apply Operation.numbered_afterAll
      rw [← fresh.clear_eq]
      exact Application.numbered_clear _
    exact ⟨⟨numbered.cases, numbered.views, numbered.caseGroups,
      numbered.wellPaths⟩, numbered.contains_iff, numbered.nextIds⟩
  · intro before commanded
    obtain ⟨numbered, each⟩ := commanded.oneViewEach
    refine ⟨each, ?_⟩
    intro arguments response
    obtain ⟨fine, fails⟩ :=
      Builtin.answers_runExportSnapshots numbered each arguments
    have answer : response =
        (Command.ofAction Builtin.runExportSnapshots arguments
          |>.run before).1 :=
      rfl
    rw [answer, Command.run_ofAction]
    dsimp only
    cases given :
        ((Builtin.runExportSnapshots arguments).run.run before).1 with
    | ok response => exact .inl (fine response given)
    | error cause => exact .inr ⟨cause, rfl, fails cause given⟩

/-- Views that were added by themselves have numbers of their own; after a
command that opens a project with two grids there are two snapshots. -/
theorem objects_numbered_by_place_opened :
    let operations : List Operation :=
      [.addCase ⟨"a.grid"⟩, .addView 7 "spare", .addCase ⟨"b.grid"⟩]
    let app := (Operation.afterAll {} operations).application
    let unused := ({} : Application).withPreset ⟨"p.rsp"⟩
      { cases := [⟨"a.grid"⟩, ⟨"b.grid"⟩] }
    let start : Workspace := { application := unused }
    let project : Arguments := ⟨[⟨"path", .string "p.rsp", true⟩]⟩
    let opened := ((Builtin.openProject.run project).run start).2
    let response := ((Builtin.exportSnapshots.run ⟨[]⟩).run opened).1
    app.contains "View" 2 = true ∧ (app.addCase ⟨"c.grid"⟩).1 = 2 ∧
      opened.application.views =
        [Application.viewOf 0, Application.viewOf 1] ∧
      Builtin.Exported opened ⟨[]⟩ response ∧
      response.result = some
        (.files [⟨"snapshots/View_1.png.txt"⟩,
          ⟨"snapshots/View_2.png.txt"⟩]) := by
  intro operations app unused start project opened response
  obtain ⟨inOrder, known, next, _⟩ :=
    objects_numbered_by_place.1 {} rfl operations
  have commanded : opened.application.Commanded :=
    .command _ (.fresh rfl) (by simp [Builtin.commands])
  obtain ⟨views, answer⟩ := objects_numbered_by_place.2 opened commanded
  have two : opened.application.cases.length = 2 := by decide +kernel
  rw [two] at views
  refine ⟨(known "View" 2).mpr ⟨3, by decide, by decide⟩, next _, views, ?_,
    by decide +kernel⟩
  rcases answer ⟨[]⟩ with exported | ⟨cause, failed, _⟩
  · exact exported
  · have fine : response.isError = false := by decide +kernel
    have error : response.isError = true := by
      rw [show response = .ofError cause from failed]
      rfl
    rw [fine] at error
    cases error

end GridScript
