import GridScript.Proofs.GridFiles
import GridScript.Proofs.Sessions
import GridScript.Proofs.WellFiles

/-!
# Exports stay in their folder

The names of exported files are made from the names of wells, views and grids,
which may hold anything.  Whatever they hold, a file name is a single component
of a path, so that each file stands right in the folder of its kind.  This is so
for every path that is remembered as written, and also on the disk: nothing
changes there but these files and folders that are made.
-/

namespace GridScript

/-! ### Ordinary names -/

/-- A single component of a path that is no dots. -/
structure IsFileName (name : String) : Prop where
  some : name ≠ ""
  flat : '/' ∉ name.toList
  notDot : name ≠ "."
  notDots : name ≠ ".."

theorem IsPlain.isFileName {name : String} (plain : IsPlain name) :
    IsFileName name := by
  have long := plain.long
  refine ⟨?_, plain.flat, ?_, ?_⟩ <;>
    · rintro rfl
      revert long
      decide

theorem splitSlash_append_slash (front back : List Char) :
    splitSlash (front ++ '/' :: back) =
      splitSlash front ++ splitSlash back := by
  induction front with
  | nil => rfl
  | cons c front induction =>
      rw [List.cons_append, splitSlash, splitSlash, induction]
      split
      · rfl
      · cases parts : splitSlash front with
        | nil => exact absurd parts (splitSlash_ne_nil front)
        | cons part parts => rfl

namespace Path

variable {folder : Path} {name : String}

theorem isAbsolute_of_flat (flat : '/' ∉ name.toList) :
    Path.isAbsolute ⟨name⟩ = false := by
  rw [isAbsolute]
  cases same : name.toList with
  | nil => rfl
  | cons c rest =>
      rw [same, List.mem_cons, not_or] at flat
      simpa using Ne.symm flat.1

/-- A name in a folder is one step more than the folder. -/
theorem stepsOf_child (isFileName : IsFileName name) :
    Disk.stepsOf (folder.child name) = Disk.stepsOf folder ++ [name] := by
  have someName : name.toList ≠ [] := by
    simpa using isFileName.some
  have single := splitSlash_of_not_mem isFileName.flat
  have last : ∀ parts : List (List Char),
      ((parts ++ [name.toList]).filter (!·.isEmpty)).map String.ofList =
        (parts.filter (!·.isEmpty)).map String.ofList ++ [name] := by
    intro parts
    simp [List.filter_append, someName]
  unfold child join Disk.stepsOf
  rw [if_neg (by simp [isAbsolute_of_flat isFileName.flat])]
  split
  · rename_i bare
    rw [Bool.or_eq_true] at bare
    rcases bare with empty | slash
    · have none : folder.text.toList = [] := by simpa using empty
      rw [String.toList_append, none, List.nil_append, single]
      exact last []
    · obtain ⟨front, text⟩ := List.getLast?_eq_some_iff.mp (beq_iff_eq.mp slash)
      rw [String.toList_append, text, List.append_assoc, List.singleton_append,
        splitSlash_append_slash, splitSlash_append_slash, single, last]
      simp [splitSlash]
  · rw [String.toList_append, String.toList_append, List.append_assoc]
    change
      ((splitSlash (folder.text.toList ++ '/' :: name.toList)).filter _).map _ =
        _
    rw [splitSlash_append_slash, single, last]

theorem isAbsolute_child (flat : '/' ∉ name.toList) :
    (folder.child name).isAbsolute = folder.isAbsolute := by
  unfold child join
  rw [if_neg (by simp [isAbsolute_of_flat flat])]
  have alone := isAbsolute_of_flat flat
  unfold isAbsolute at alone ⊢
  split
  · rw [String.toList_append]
    cases folder.text.toList with
    | nil => simpa using alone
    | cons c rest => rfl
  · rename_i bare
    rw [String.toList_append, String.toList_append]
    cases same : folder.text.toList with
    | nil => simp_all
    | cons c rest => rfl

end Path

namespace Disk

/-- A file with an ordinary name in a folder stands right in the folder. -/
theorem exists_of_locate_child {disk : Disk} {folder : Path} {name : String}
    (isFileName : IsFileName name) {location : Location}
    (there : disk.locate (folder.child name) = .ok location) :
    ∃ base, disk.walk (disk.startOf folder) (stepsOf folder) = .ok base ∧
      location = base ++ [name] := by
  obtain ⟨_, walked, _⟩ := locate_eq_ok_iff.mp there
  rw [startOf, Path.isAbsolute_child isFileName.flat, ← startOf,
    Path.stepsOf_child isFileName,
    walk_concat_eq_ok_iff isFileName.notDot isFileName.notDots] at walked
  obtain ⟨base, reached, _, _, _, same⟩ := walked
  exact ⟨base, reached, same⟩

/-! ### What changes on the disk -/

/-- The second disk has grown from the first one.  It differs only where these
paths lead, and where folders were made. -/
structure GrowsBy (paths : List Path) (before after : Disk) : Prop where
  grows : before.Grows after
  elsewhere : ∀ location, after.find? location = before.find? location ∨
    (before.find? location = none ∧ after.find? location = some .folder) ∨
    ∃ path ∈ paths, after.locate path = .ok location

namespace GrowsBy

theorem refl (disk : Disk) : disk.GrowsBy [] disk :=
  ⟨.refl disk, fun _ => .inl rfl⟩

theorem trans {paths more : List Path} {first second third : Disk}
    (left : first.GrowsBy paths second) (right : second.GrowsBy more third) :
    first.GrowsBy (paths ++ more) third := by
  refine ⟨left.grows.trans right.grows, ?_⟩
  intro location
  rcases right.elsewhere location with
    same | ⟨free, folder⟩ | ⟨path, member, there⟩
  · rw [same]
    rcases left.elsewhere location with kept | made | ⟨path, member, there⟩
    · exact .inl kept
    · exact .inr (.inl made)
    · exact .inr (.inr ⟨path, List.mem_append_left _ member,
        right.grows.locate there⟩)
  · have freeBefore : first.find? location = none := by
      cases stood : first.find? location with
      | none => rfl
      | some entry =>
          have still := left.grows.stands location (by simp [stood])
          simp [free] at still
    exact .inr (.inl ⟨freeBefore, folder⟩)
  · exact .inr (.inr ⟨path, List.mem_append_right _ member, there⟩)

end GrowsBy

theorem growsBy_createFolder {disk made : Disk} {path : Path}
    (created : disk.createFolder path = .ok made) : disk.GrowsBy [] made := by
  have grows := grows_createFolder created
  rw [createFolder_eq] at created
  cases target : disk.folderTarget path with
  | error reason =>
      rw [target] at created
      cases created
  | ok location =>
      rw [target] at created
      cases created
      obtain ⟨base, name, _, _, free, rfl⟩ := folderTarget_eq_ok_iff.mp target
      refine ⟨grows, ?_⟩
      intro other
      by_cases here : other = base ++ [name]
      · rw [here, find?_put_self disk (by simp) .folder]
        exact .inr (.inl ⟨free, rfl⟩)
      · exact .inl (find?_put_of_ne disk here .folder)

theorem growsBy_createFolders (disk : Disk) (path : Path) :
    disk.GrowsBy [] (disk.createFolders path).2 :=
  createChain_keeps .refl .trans growsBy_createFolder disk _

theorem growsBy_write {disk after : Disk} {path : Path} {text : String}
    (written : disk.write path text = .ok after) :
    disk.GrowsBy [path] after := by
  obtain ⟨location, target, saved⟩ := exists_saved_of_write written
  refine ⟨saved.grows, ?_⟩
  intro other
  by_cases here : other = location
  · rw [here]
    exact .inr (.inr ⟨path, List.mem_cons_self, saved.locate target⟩)
  · exact .inl (saved.elsewhere other here)

end Disk

/-! ### What an action writes -/

namespace Workspace

/-- Files with ordinary names were written into the folder, and nothing else. -/
def WritesInto (folder : Path) (before after : Workspace) : Prop :=
  ∃ names : List String, (∀ name ∈ names, IsFileName name) ∧
    after.application.written =
      before.application.written ++ names.map folder.child ∧
    before.disk.GrowsBy (names.map folder.child) after.disk

namespace WritesInto

variable {folder : Path} {first second third : Workspace}

theorem of_growsBy_nil (written : second.application.written =
      first.application.written)
    (grows : first.disk.GrowsBy [] second.disk) :
    first.WritesInto folder second :=
  ⟨[], nofun, by simpa using written, grows⟩

theorem trans (left : first.WritesInto folder second)
    (right : second.WritesInto folder third) :
    first.WritesInto folder third := by
  obtain ⟨names, ordinary, written, grows⟩ := left
  obtain ⟨more, moreOrdinary, moreWritten, moreGrows⟩ := right
  refine ⟨names ++ more, ?_, ?_, ?_⟩
  · intro name member
    exact (List.mem_append.mp member).elim (ordinary name) (moreOrdinary name)
  · rw [moreWritten, written, List.map_append, List.append_assoc]
  · rw [List.map_append]
    exact grows.trans moreGrows

end WritesInto

end Workspace

namespace Action

variable {α β γ : Type}

/-- The action changes nothing but the journal. -/
def Quiet (action : Action α) : Prop :=
  ∀ before : Workspace, ∃ journal,
    (action.run.run before).2 = { before with journal }

theorem quiet_pure (value : α) : Quiet (pure value : Action α) :=
  fun before => ⟨before.journal, rfl⟩

theorem quiet_throw (cause : CommandError) : Quiet (throw cause : Action α) :=
  fun before => ⟨before.journal, rfl⟩

theorem quiet_get {next : Workspace → Action α}
    (continues : ∀ workspace, Quiet (next workspace)) :
    Quiet (get >>= next) :=
  fun before => continues before before

theorem quiet_bind {first : Action α} {next : α → Action β}
    (start : Quiet first) (continues : ∀ value, Quiet (next value)) :
    Quiet (first >>= next) := by
  intro before
  obtain ⟨journal, begun⟩ := start before
  rcases ran : first.run.run before with ⟨answer, middle⟩
  rw [ran] at begun
  dsimp only at begun
  subst begun
  cases answer with
  | ok value =>
      rw [run_bind_ok ran]
      exact continues value _
  | error cause =>
      rw [run_bind_error ran]
      exact ⟨journal, rfl⟩

theorem quiet_note (level : Level) (text : String) : Quiet (note level text) :=
  fun _ => ⟨_, rfl⟩

theorem quiet_print (text : String) : Quiet (print text) := by
  apply quiet_get
  intro workspace
  split
  · exact quiet_note _ _
  · exact quiet_pure _

theorem quiet_read (path : Path) (cause : DiskError → CommandError) :
    Quiet (read path cause) := by
  apply quiet_get
  intro workspace
  split
  · exact quiet_pure _
  · exact quiet_throw _

theorem quiet_findCase (id : Option Nat) : Quiet (findCase id) := by
  apply quiet_get
  intro workspace
  split
  · exact quiet_pure _
  · exact quiet_throw _

theorem quiet_findView (id : Nat) : Quiet (findView id) := by
  apply quiet_get
  intro workspace
  split
  · exact quiet_pure _
  · exact quiet_throw _

theorem quiet_checkGridFile (path : Path) : Quiet (checkGridFile path) := by
  apply quiet_get
  intro workspace
  split
  · exact quiet_throw _
  · exact quiet_pure _

/-! ### Staying in a folder -/

/-- With this session, and with this project open or none, the action keeps both
and writes into the folder, whether it fails or not. -/
def StaysIn (session : Session) (project : Option Path) (folder : Path)
    (action : Action α) : Prop :=
  ∀ before : Workspace, before.session = session →
    before.application.project = project →
      (action.run.run before).2.session = session ∧
      (action.run.run before).2.application.project = project ∧
      before.WritesInto folder (action.run.run before).2

section

variable {session : Session} {project : Option Path} {folder : Path}

theorem Quiet.staysIn {action : Action α} (quiet : Quiet action) :
    StaysIn session project folder action := by
  intro before same isOpen
  obtain ⟨journal, ran⟩ := quiet before
  rw [ran]
  exact ⟨same, isOpen, .of_growsBy_nil rfl (.refl _)⟩

theorem staysIn_get {next : Workspace → Action α}
    (continues : ∀ workspace : Workspace, workspace.session = session →
      workspace.application.project = project →
        StaysIn session project folder (next workspace)) :
    StaysIn session project folder (get >>= next) :=
  fun before same isOpen => continues before same isOpen before same isOpen

theorem staysIn_bind {first : Action α} {next : α → Action β}
    (start : StaysIn session project folder first)
    (continues : ∀ value, StaysIn session project folder (next value)) :
    StaysIn session project folder (first >>= next) := by
  intro before same isOpen
  obtain ⟨sameMiddle, stillOpen, writes⟩ := start before same isOpen
  rcases ran : first.run.run before with ⟨answer, middle⟩
  rw [ran] at sameMiddle stillOpen writes
  cases answer with
  | ok value =>
      rw [run_bind_ok ran]
      obtain ⟨sameAfter, openAfter, rest⟩ :=
        continues value middle sameMiddle stillOpen
      exact ⟨sameAfter, openAfter, writes.trans rest⟩
  | error cause =>
      rw [run_bind_error ran]
      exact ⟨sameMiddle, stillOpen, writes⟩

theorem staysIn_mapM {action : γ → Action α} {items : List γ}
    (each : ∀ item ∈ items, StaysIn session project folder (action item)) :
    StaysIn session project folder (items.mapM action) := by
  induction items with
  | nil => exact (quiet_pure []).staysIn
  | cons item items induction =>
      rw [List.mapM_cons]
      apply staysIn_bind (each item List.mem_cons_self)
      intro _
      apply staysIn_bind (induction fun other member =>
        each other (List.mem_cons_of_mem _ member))
      intro _
      exact (quiet_pure _).staysIn

theorem staysIn_forM {action : γ → Action Unit}
    (each : ∀ item, StaysIn session project folder (action item))
    (items : List γ) : StaysIn session project folder (items.forM action) := by
  induction items with
  | nil => exact (quiet_pure _).staysIn
  | cons item items induction =>
      exact staysIn_bind (each item) fun _ => induction

theorem staysIn_createFolders (path : Path) :
    StaysIn session project folder (createFolders path .disk) := by
  intro before same isOpen
  have grows := Disk.growsBy_createFolders before.disk path
  rcases made : before.disk.createFolders path with ⟨outcome, disk⟩
  rw [made] at grows
  cases outcome with
  | ok =>
      rw [run_createFolders_ok made]
      exact ⟨same, isOpen, .of_growsBy_nil rfl grows⟩
  | error reason =>
      rw [run_createFolders_error made]
      exact ⟨same, isOpen, .of_growsBy_nil rfl grows⟩

theorem staysIn_store {name : String} (isFileName : IsFileName name)
    (text : String) :
    StaysIn session project folder (store (folder.child name) text) := by
  intro before same isOpen
  cases written : before.disk.write (folder.child name) text with
  | error reason =>
      rw [store, run_get_bind, written]
      exact (quiet_throw _).staysIn before same isOpen
  | ok disk =>
      rw [store, run_get_bind, written]
      refine ⟨same, isOpen, [name], ?_, rfl, Disk.growsBy_write written⟩
      rintro _ (_ | ⟨_, ⟨⟩⟩)
      exact isFileName

theorem staysIn_writeExport {name : String} (isFileName : IsFileName name)
    (text : String) :
    StaysIn session project folder (writeExport folder name text) := by
  apply staysIn_bind (staysIn_createFolders folder)
  intro _
  apply staysIn_bind
  · unfold writeFile
    cases (folder.child name).folder? with
    | none => exact staysIn_store isFileName text
    | some parent =>
        exact staysIn_bind (staysIn_createFolders parent) fun _ =>
          staysIn_store isFileName text
  · intro _
    exact (quiet_pure _).staysIn

/-! ### Exports of the application -/

/-- A text without slashes may go before the safe name of anything. -/
theorem staysIn_exportSnapshot {request : SnapshotRequest}
    (flat : '/' ∉ request.stem.toList) (view : View) :
    StaysIn session project request.folder (exportSnapshot request view) := by
  apply staysIn_bind (quiet_findCase _).staysIn
  intro shown
  have naming : WellNaming request.stem ".png.txt" :=
    ⟨flat, by decide, by decide⟩
  exact staysIn_writeExport (naming.plain view.name).isFileName _

theorem staysIn_exportSnapshots {request : SnapshotRequest}
    (flat : '/' ∉ request.stem.toList) :
    StaysIn session project request.folder (exportSnapshots request) := by
  have capture : StaysIn session project request.folder
      (do
        request.viewIds.forM fun id => do let _ ← findView id
        ((← get).application.selectedViews request).mapM
          (exportSnapshot request)) := by
    apply staysIn_bind
    · apply staysIn_forM
      intro id
      exact staysIn_bind (quiet_findView id).staysIn fun _ =>
        (quiet_pure _).staysIn
    · intro _
      apply staysIn_get
      intro workspace _ _
      exact staysIn_mapM fun view _ => staysIn_exportSnapshot flat view
  unfold exportSnapshots
  cases request.caseId with
  | none => exact capture
  | some id =>
      exact staysIn_bind (quiet_findCase (some id)).staysIn fun _ => capture

theorem staysIn_exportWellPaths (request : WellPathRequest) :
    StaysIn session project request.folder (exportWellPaths request) := by
  apply staysIn_get
  intro workspace _ _
  apply staysIn_bind
  · apply staysIn_mapM
    intro well _
    have ending : IsPlain ".dev" := ⟨by decide, by decide⟩
    exact staysIn_writeExport
      (ending.append (slash_not_mem_fileSafe well)).isFileName _
  · intro files
    exact (quiet_pure _).staysIn

theorem staysIn_exportLgrs (request : LgrRequest) :
    StaysIn session project request.folder (exportLgrs request) := by
  apply staysIn_bind (quiet_findCase request.caseId).staysIn
  intro refined
  apply staysIn_get
  intro workspace _ _
  apply staysIn_mapM
  intro well _
  have naming : WellNaming "lgr_" ".dat" := ⟨by decide, by decide, by decide⟩
  exact staysIn_writeExport (naming.plain well).isFileName _

theorem staysIn_exportVisibleCells {request : CellRequest}
    (flat : '/' ∉ request.keyword.toList) :
    StaysIn session project request.folder (exportVisibleCells request) := by
  apply staysIn_bind (quiet_findView _).staysIn
  intro view
  have ending : IsPlain ".grdecl" := ⟨by decide, by decide⟩
  apply staysIn_writeExport (ending.append ?_).isFileName
  simp only [String.toList_append, List.mem_append, not_or]
  exact ⟨⟨slash_not_mem_fileSafe view.name, by decide⟩, flat⟩

/-! ### Grids of the open project -/

/-- A change of the application that keeps its project and the list of what was
written. -/
theorem staysIn_changeApplication {change : Application → Application}
    (keeps : ∀ app : Application, app.project = project →
      (change app).project = project ∧ (change app).written = app.written) :
    StaysIn session project folder (changeApplication change) := by
  intro before same isOpen
  obtain ⟨stillOpen, written⟩ := keeps before.application isOpen
  exact ⟨same, stillOpen, .of_growsBy_nil written (.refl _)⟩

end

theorem quiet_loadManifest (path : Path) : Quiet (loadManifest path) :=
  exists_loadManifest path

end Action

theorem Application.written_withProject (app : Application) (path : Path)
    (manifest : Manifest) :
    (app.withProject path manifest).written = app.written := by
  let Same : Application → Prop := fun other => other.written = app.written
  change Same _
  unfold withProject
  dsimp only
  apply List.foldlRecOn (motive := Same)
  · apply List.foldlRecOn (motive := Same)
    · apply List.foldlRecOn (motive := Same)
      · exact rfl
      · exact fun _ same grid _ => same
    · exact fun _ same sources _ => same
  · exact fun _ same name _ => same

namespace Action

section

variable {session : Session} {path folder : Path}

/-- The project that is open is opened again. -/
theorem staysIn_openProject :
    StaysIn session (some path) folder (openProject path) := by
  apply staysIn_bind (quiet_loadManifest path).staysIn
  intro manifest
  apply staysIn_bind
  · apply staysIn_changeApplication
    intro app _
    exact ⟨rfl, app.written_withProject path manifest⟩
  · intro _
    exact staysIn_get fun _ _ _ => (quiet_note _ _).staysIn

theorem staysIn_replaceCase {project : Option Path} (id : Option Nat)
    (grid : Path) :
    StaysIn session project folder (replaceCase id grid) := by
  apply staysIn_bind (quiet_checkGridFile grid).staysIn
  intro _
  apply staysIn_bind (quiet_findCase id).staysIn
  intro found
  apply staysIn_bind (quiet_note _ _).staysIn
  intro _
  exact staysIn_changeApplication fun _ isOpen => ⟨isOpen, rfl⟩

end

end Action

end GridScript
