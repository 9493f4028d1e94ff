import GridScript.Proofs.GridSnapshots
import GridScript.Proofs.ValueText

/-!
# Which snapshots of a list of grids stay

The snapshots of a grid are named by the stem of its file, whatever folder it is
in.  So the grids of a list are kept apart just if their stems are different; of
grids with one stem only the last one is left.
-/

namespace GridScript

/-! ### Stems -/

theorem slash_not_mem_of_mem_splitSlash {text part : List Char}
    (member : part ∈ splitSlash text) : '/' ∉ part := by
  induction text generalizing part with
  | nil =>
      rw [splitSlash, List.mem_singleton] at member
      simp [member]
  | cons c text induction =>
      rw [splitSlash] at member
      split at member
      · rcases List.mem_cons.mp member with rfl | later
        · simp
        · exact induction later
      · rename_i other
        split at member
        · rw [List.mem_singleton] at member
          simp [member, Ne.symm other]
        · rename_i first more split
          rcases List.mem_cons.mp member with rfl | later
          · rw [List.mem_cons, not_or]
            exact ⟨Ne.symm other, induction (by simp [split])⟩
          · exact induction (by simp [split, later])

theorem Path.mem_of_mem_splitExtension {name : List Char} {c : Char}
    (member : c ∈ (splitExtension name).1) : c ∈ name := by
  unfold splitExtension at member
  split at member
  · rename_i extension stem split
    split at member
    · exact member
    · unfold splitAtFirst? at split
      split at split
      · cases split
      · rename_i mark after shape
        cases split
        rw [List.mem_reverse] at member
        have behind : c ∈ name.reverse.dropWhile (!· == '.') := by
          rw [shape]
          exact List.mem_cons_of_mem mark member
        exact List.mem_reverse.mp ((List.dropWhile_sublist _).mem behind)
  · exact member

theorem Path.slash_not_mem_of_fileName? {p : Path} {name : List Char}
    (named : p.fileName? = some name) : '/' ∉ name := by
  obtain ⟨last, _⟩ := Option.filter_eq_some_iff.mp named
  have member := (List.dropWhile_sublist _).mem (List.mem_of_head? last)
  exact slash_not_mem_of_mem_splitSlash (List.mem_reverse.mp member)

/-- What follows the last mark, and what goes before it, can be told from the
whole. -/
theorem append_mark_inj {mark : Char} {left right front back : List Char}
    (frontApart : ∀ c ∈ front, c ≠ mark) (backApart : ∀ c ∈ back, c ≠ mark)
    (same : left ++ mark :: front = right ++ mark :: back) :
    left = right ∧ front = back := by
  have turned := congrArg (fun text => splitAtFirst? (· == mark) text.reverse)
    same
  simp only [List.reverse_append, List.reverse_cons, List.append_assoc,
    List.singleton_append] at turned
  rw [Cursor.splitAtFirst?_append fun c member =>
      frontApart c (List.mem_reverse.mp member),
    Cursor.splitAtFirst?_append fun c member =>
      backApart c (List.mem_reverse.mp member)] at turned
  simp only [Option.some.injEq, Prod.mk.injEq, List.reverse_inj] at turned
  exact turned.symm

/-- The stem and the number can be told from the name of a snapshot. -/
theorem View.fileName_viewOf_append_inj {left right : String} {id other : Nat}
    (same : left ++ (Application.viewOf id).fileName =
      right ++ (Application.viewOf other).fileName) :
    left = right ∧ id = other := by
  have ending : ∀ (stem : String) (id : Nat),
      (stem ++ (Application.viewOf id).fileName).toList =
        ((stem.toList ++ ['V', 'i', 'e', 'w']) ++
          '_' :: decimalDigits (id + 1)) ++ ".png.txt".toList := by
    intro stem id
    rw [View.fileName, String.toList_append, String.toList_append,
      Application.toList_fileSafe_viewOf]
    simp
  have texts := congrArg String.toList same
  rw [ending, ending] at texts
  have apart : ∀ id, ∀ c ∈ decimalDigits (id + 1), c ≠ '_' := by
    intro id c member
    have digit := isDecimalDigit_of_mem_decimalDigits member
    rintro rfl
    revert digit
    decide
  obtain ⟨fronts, digits⟩ := append_mark_inj (apart id) (apart other)
    (List.append_cancel_right texts)
  have next := decimalDigits_injective digits
  exact ⟨String.toList_injective (List.append_cancel_right fronts), by omega⟩

namespace Builtin

theorem slash_not_mem_gridStem (grid : Path) :
    '/' ∉ (gridStem grid).toList := by
  rw [gridStem, String.toList_append, List.mem_append, not_or]
  refine ⟨?_, by decide⟩
  rw [Path.fileStem?]
  cases named : grid.fileName? with
  | none => simp
  | some name =>
      intro slash
      simp only [Option.map_some, Option.getD_some,
        String.toList_ofList] at slash
      exact Path.slash_not_mem_of_fileName? named
        (Path.mem_of_mem_splitExtension slash)

theorem snapshotFile_components_inj {folder : Path} {left right : String}
    {id other : Nat} (leftFlat : '/' ∉ left.toList)
    (rightFlat : '/' ∉ right.toList)
    (same : (snapshotFile folder left id).components =
      (snapshotFile folder right other).components) :
    left = right ∧ id = other := by
  have leftPlain :=
    Application.plain_fileName leftFlat (Application.viewOf id)
  have rightPlain :=
    Application.plain_fileName rightFlat (Application.viewOf other)
  have leftLong := leftPlain.long
  have rightLong := rightPlain.long
  apply View.fileName_viewOf_append_inj
  refine @Path.components_child_inj folder "" _ _ leftPlain.flat (by omega)
    rightPlain.flat (by omega) ?_
  rw [String.empty_append, String.empty_append]
  exact same

/-! ### What a step saves -/

/-- The snapshots of a step, with what they hold after it. -/
def GridStep.saved (step : GridStep) : List (Path × String) :=
  step.files.filterMap fun path =>
    (step.after.disk.read path).toOption.map (path, ·)

section

variable {project grid : Path} {session : Session} {opened : Application}

/-- The snapshots of a grid are numbered by the cases. -/
theorem map_fst_gridSnapshots (numbered : opened.Numbered) :
    (gridSnapshots project session opened grid).map Prod.fst =
      (List.range opened.cases.length).map
        (snapshotFile (snapshotFolder project session) (gridStem grid)) := by
  have regridded : (opened.regrid grid).Numbered :=
    Application.kept_numbered.changeCase none (fun _ => rfl) numbered
  have length : (opened.regrid grid).cases.length = opened.cases.length :=
    Application.length_changeFirst _ _ _
  rw [gridSnapshots, Application.map_fst_snapshots, ← length,
    ← regridded.cases, List.map_map, Function.comp_def]

theorem nodup_map_fst_gridSnapshots (numbered : opened.Numbered) :
    ((gridSnapshots project session opened grid).map Prod.fst).Nodup := by
  rw [map_fst_gridSnapshots numbered]
  refine List.Pairwise.map _ ?_ List.nodup_range
  intro left right different same
  have flat := slash_not_mem_gridStem grid
  exact different (snapshotFile_components_inj flat flat
    (congrArg Path.components same)).2

theorem plainFiles_gridSnapshots :
    Disk.PlainFiles (snapshotFolder project session)
      (gridSnapshots project session opened grid) :=
  Application.plainFiles_snapshots _ _ (slash_not_mem_gridStem grid)

/-- The first snapshot shows the grid. -/
theorem mem_gridSnapshots (numbered : opened.Numbered)
    (some : opened.cases ≠ []) :
    (snapshotFile (snapshotFolder project session) (gridStem grid) 0,
      snapshotText (Application.viewOf 0) ⟨0, grid, 0⟩) ∈
        gridSnapshots project session opened grid := by
  obtain ⟨first, others, cases⟩ := List.exists_cons_of_ne_nil some
  have zero : first.id = 0 := by
    have inOrder := numbered.cases
    rw [InOrder, cases, List.map_cons, List.length_cons,
      List.range_succ_eq_map] at inOrder
    exact (List.cons.inj inOrder).1
  have regridded : (opened.regrid grid).cases = ⟨0, grid, 0⟩ :: others := by
    simp [Application.regrid, Application.changeCase, cases,
      Application.changeFirst, zero]
  rw [gridSnapshots, Application.snapshots, regridded]
  exact List.mem_cons_self

end

/-- A step that no disk made fail: it keeps the session, saves its files under
the stem of its grid, at least one if it works, and the first one shows the
grid. -/
structure GridStep.Fine (project : Path) (before : Workspace)
    (step : GridStep) : Prop where
  session : step.after.session = before.session
  saves :
    before.disk.saveAll (snapshotFolder project before.session) step.saved =
      .ok step.after.disk
  plain : Disk.PlainFiles (snapshotFolder project before.session) step.saved
  paths : step.saved.map Prod.fst = step.files
  held : ∀ file ∈ step.saved, step.after.disk.read file.1 = .ok file.2
  named : ∃ count, (step.answer.isOk = true ↔ 0 < count) ∧
    step.files = (List.range count).map
      (snapshotFile (snapshotFolder project before.session)
        (gridStem step.grid))
  shown : step.answer.isOk = true →
    (snapshotFile (snapshotFolder project before.session)
        (gridStem step.grid) 0,
      snapshotText (Application.viewOf 0) ⟨0, step.grid, 0⟩) ∈ step.saved

theorem GridStep.saved_eq {step : GridStep} {files : List (Path × String)}
    (paths : step.files = files.map Prod.fst)
    (held : ∀ file ∈ files, step.after.disk.read file.1 = .ok file.2) :
    step.saved = files := by
  rw [saved, paths]
  clear paths
  induction files with
  | nil => rfl
  | cons file files induction =>
      rw [List.map_cons, List.filterMap_cons, held file List.mem_cons_self,
        induction fun other member =>
          held other (List.mem_cons_of_mem file member)]
      rfl

/-- A step that fails before it saves anything. -/
theorem GridStep.fine_of_error {project : Path} {before : Workspace}
    {step : GridStep} {cause : CommandError}
    (failed : step.answer = .error cause)
    (session : step.after.session = before.session)
    (disk : step.after.disk = before.disk) : step.Fine project before := by
  have none : step.files = [] := by rw [files, failed]; rfl
  have nothing : step.saved = [] := by rw [saved, none]; rfl
  refine ⟨session, ?_, ?_, ?_, ?_, ⟨0, ?_, none⟩, ?_⟩
  · rw [nothing, disk]
    rfl
  · rw [nothing]
    intro file member
    cases member
  · rw [nothing, none]
    rfl
  · rw [nothing]
    intro file member
    cases member
  · simp [failed, Except.isOk, Except.toBool]
  · intro worked
    rw [failed] at worked
    cases worked

/-- One step of the list. -/
theorem fine_gridStep {project grid : Path} {before : Workspace}
    (unbroken : ∀ reason,
      (gridStep project grid before).answer ≠ .error (.disk reason)) :
    (gridStep project grid before).Fine project before := by
  have outcome := gridOutcome_snapshotGrid project grid before
  generalize same : (snapshotGrid project grid).run.run before = done at outcome
  have shape : gridStep project grid before = ⟨grid, done.1, done.2⟩ := by
    rw [gridStep, same]
  rw [shape] at unbroken ⊢
  obtain ⟨answer, after⟩ := done
  cases outcome with
  | unopened failed => exact GridStep.fine_of_error rfl rfl rfl
  | refused loaded failed => exact GridStep.fine_of_error rfl rfl rfl
  | unsaved loaded opened fine failed => exact absurd rfl (unbroken _)
  | @saved manifest disk journal app files loaded opened fine paths saves =>
      have numbered : app.Numbered :=
        opened ▸ (before.application.oneViewEach_withProject project manifest).1
      have held : ∀ file ∈ gridSnapshots project before.session app grid,
          disk.read file.1 = .ok file.2 :=
        fun _ => Disk.read_saveAll_of_nodup plainFiles_gridSnapshots saves
          (nodup_map_fst_gridSnapshots numbered)
      have some : app.cases ≠ [] := by
        intro empty
        unfold Application.gridFailure? at fine
        rw [empty] at fine
        split at fine <;> cases fine
      let step : GridStep := ⟨grid, .ok files, { before with
        disk, journal, application := (app.regrid grid).remembering files }⟩
      have same : step.saved = gridSnapshots project before.session app grid :=
        GridStep.saved_eq paths held
      change step.Fine project before
      refine ⟨rfl, ?_, ?_, ?_, ?_, ⟨app.cases.length, ?_, ?_⟩, ?_⟩
      · rw [same]
        exact saves
      · rw [same]
        exact plainFiles_gridSnapshots
      · rw [same]
        exact paths.symm
      · rw [same]
        exact held
      · simp [step, Except.isOk, Except.toBool, List.length_pos_iff, some]
      · rw [← map_fst_gridSnapshots numbered]
        exact paths
      · intro _
        rw [same]
        exact mem_gridSnapshots numbered some

/-! ### What a list of grids saves -/

section

variable {project : Path} {grids : List Path} {before : Workspace}

/-- No grid of the list fails for the disk. -/
def Unbroken (project : Path) (grids : List Path) (before : Workspace) : Prop :=
  ∀ step ∈ gridSteps project grids before, ∀ reason,
    step.answer ≠ .error (.disk reason)

/-- The step does not fail for the disk. -/
def GridStep.isUnbroken (step : GridStep) : Bool :=
  match step.answer with
  | .error (.disk _) => false
  | _ => true

theorem unbroken_of_all
    (all : (gridSteps project grids before).all GridStep.isUnbroken = true) :
    Unbroken project grids before := by
  intro step member reason failed
  have works := List.all_eq_true.mp all step member
  rw [GridStep.isUnbroken, failed] at works
  cases works

theorem map_grid_gridSteps (project : Path) (grids : List Path)
    (before : Workspace) :
    (gridSteps project grids before).map GridStep.grid = grids := by
  induction grids generalizing before with
  | nil => rfl
  | cons grid grids induction =>
      rw [gridSteps, List.map_cons, induction]
      rfl

theorem Unbroken.fine (unbroken : Unbroken project grids before)
    {step : GridStep} (member : step ∈ gridSteps project grids before) :
    ∃ start : Workspace, start.session = before.session ∧
      step.Fine project start := by
  induction grids generalizing before with
  | nil => cases member
  | cons grid grids induction =>
      have first : (gridStep project grid before).Fine project before :=
        fine_gridStep (unbroken _ List.mem_cons_self)
      rcases List.mem_cons.mp member with rfl | later
      · exact ⟨before, rfl, first⟩
      · obtain ⟨start, session, fine⟩ := induction
          (fun other inside => unbroken other (List.mem_cons_of_mem _ inside))
          later
        exact ⟨start, session.trans first.session, fine⟩

/-- The steps save their files one after the other. -/
theorem Unbroken.saveAll (unbroken : Unbroken project grids before) :
    let steps := gridSteps project grids before
    (afterSteps before steps).session = before.session ∧
      before.disk.saveAll (snapshotFolder project before.session)
        (steps.flatMap GridStep.saved) =
          .ok (afterSteps before steps).disk := by
  induction grids generalizing before with
  | nil => exact ⟨rfl, rfl⟩
  | cons grid grids induction =>
      have first : (gridStep project grid before).Fine project before :=
        fine_gridStep (unbroken _ List.mem_cons_self)
      have later :
          Unbroken project grids (gridStep project grid before).after :=
        fun other inside => unbroken other (List.mem_cons_of_mem _ inside)
      have rest := induction later
      dsimp only at rest
      rw [first.session] at rest
      simp only [gridSteps, afterSteps_cons, List.flatMap_cons,
        Disk.saveAll_append, first.saves]
      exact rest

theorem Unbroken.plain (unbroken : Unbroken project grids before) :
    Disk.PlainFiles (snapshotFolder project before.session)
      ((gridSteps project grids before).flatMap GridStep.saved) := by
  intro file member
  obtain ⟨step, inside, saved⟩ := List.mem_flatMap.mp member
  obtain ⟨start, session, fine⟩ := unbroken.fine inside
  rw [← session]
  exact fine.plain file saved

theorem Unbroken.map_fst (unbroken : Unbroken project grids before) :
    ((gridSteps project grids before).flatMap GridStep.saved).map Prod.fst =
      (gridSteps project grids before).flatMap GridStep.files := by
  rw [List.map_flatMap]
  apply congrArg List.flatten
  apply List.map_congr_left
  intro step inside
  obtain ⟨_, _, fine⟩ := unbroken.fine inside
  exact fine.paths

/-- The stems of the grids that worked. -/
def workingStems (steps : List GridStep) : List String :=
  (steps.filter (·.answer.isOk)).map fun step => gridStem step.grid

/-- Files of two steps are different just if their stems are. -/
theorem Unbroken.apart_iff (unbroken : Unbroken project grids before)
    {left right : GridStep} (leftInside : left ∈ gridSteps project grids before)
    (rightInside : right ∈ gridSteps project grids before) :
    (∀ path ∈ left.files.map Path.components,
        ∀ other ∈ right.files.map Path.components, path ≠ other) ↔
      (left.answer.isOk = true → right.answer.isOk = true →
        gridStem left.grid ≠ gridStem right.grid) := by
  obtain ⟨start, session, leftFine⟩ := unbroken.fine leftInside
  obtain ⟨other, otherSession, rightFine⟩ := unbroken.fine rightInside
  obtain ⟨count, works, files⟩ := leftFine.named
  obtain ⟨otherCount, otherWorks, otherFiles⟩ := rightFine.named
  rw [session] at files
  rw [otherSession] at otherFiles
  simp only [files, otherFiles, List.map_map, List.forall_mem_map,
    List.mem_range, Function.comp_apply, ne_eq]
  constructor
  · intro apart leftWorks rightWorks same
    apply apart 0 (works.mp leftWorks) 0 (otherWorks.mp rightWorks)
    rw [same]
  · intro apart id below otherId otherBelow same
    have leftWorks := works.mpr (Nat.zero_lt_of_lt below)
    have rightWorks := otherWorks.mpr (Nat.zero_lt_of_lt otherBelow)
    exact apart leftWorks rightWorks
      (snapshotFile_components_inj (slash_not_mem_gridStem _)
        (slash_not_mem_gridStem _) same).1

theorem Unbroken.nodup_iff (unbroken : Unbroken project grids before) :
    let steps := gridSteps project grids before
    ((steps.flatMap GridStep.files).map Path.components).Nodup ↔
      (workingStems steps).Nodup := by
  intro steps
  have within : ∀ step ∈ steps, (step.files.map Path.components).Nodup := by
    intro step inside
    obtain ⟨_, _, fine⟩ := unbroken.fine inside
    obtain ⟨count, _, files⟩ := fine.named
    rw [files, List.map_map, Function.comp_def]
    refine List.Pairwise.map _ ?_ List.nodup_range
    intro id other different same
    have flat := slash_not_mem_gridStem step.grid
    exact different (snapshotFile_components_inj flat flat same).2
  rw [List.map_flatMap, List.Nodup, List.pairwise_flatMap, workingStems,
    List.Nodup, List.pairwise_map, List.pairwise_filter,
    List.Pairwise.iff_of_mem fun leftInside rightInside =>
      unbroken.apart_iff leftInside rightInside]
  exact ⟨fun both => both.2, fun apart => ⟨within, apart⟩⟩

/-- The snapshots of the step hold on this disk what they held right after
it. -/
def GridStep.KeptOn (disk : Disk) (step : GridStep) : Prop :=
  ∀ path ∈ step.files, ∃ text,
    step.after.disk.read path = .ok text ∧ disk.read path = .ok text

theorem snapshotText_grid_inj {view : View} {id timeStep : Nat}
    {left right : Path}
    (same : snapshotText view ⟨id, left, timeStep⟩ =
      snapshotText view ⟨id, right, timeStep⟩) : left = right := by
  unfold snapshotText at same
  -- What stands behind the grid is the same in both texts.
  iterate 3 replace same := (String.append_left_inj _).mp same
  have text := (String.append_right_inj _).mp same
  cases left
  cases right
  exact congrArg Path.mk text

/-- Two grids with one stem cannot both be there: the first snapshots of both
have one name, and each shows its own grid. -/
theorem Unbroken.stem_ne_of_keptOn (unbroken : Unbroken project grids before)
    {disk : Disk} {left right : GridStep}
    (leftInside : left ∈ gridSteps project grids before)
    (rightInside : right ∈ gridSteps project grids before)
    (leftKept : left.KeptOn disk) (rightKept : right.KeptOn disk)
    (different : left.grid ≠ right.grid) (leftWorks : left.answer.isOk = true)
    (rightWorks : right.answer.isOk = true) :
    gridStem left.grid ≠ gridStem right.grid := by
  have first : ∀ {step : GridStep}, step ∈ gridSteps project grids before →
      step.KeptOn disk → step.answer.isOk = true →
        disk.read (snapshotFile (snapshotFolder project before.session)
          (gridStem step.grid) 0) =
            .ok (snapshotText (Application.viewOf 0) ⟨0, step.grid, 0⟩) := by
    intro step inside kept works
    obtain ⟨start, session, fine⟩ := unbroken.fine inside
    have shown := fine.shown works
    rw [session] at shown
    have held := fine.held _ shown
    have file := List.mem_map_of_mem (f := Prod.fst) shown
    rw [fine.paths] at file
    obtain ⟨text, after, still⟩ := kept _ file
    rw [held] at after
    cases after
    dsimp only at still
    exact still
  intro same
  have leftFirst := first leftInside leftKept leftWorks
  rw [same, first rightInside rightKept rightWorks] at leftFirst
  exact different (snapshotText_grid_inj (Except.ok.inj leftFirst)).symm

theorem Unbroken.keptOn_iff (unbroken : Unbroken project grids before)
    (different : (grids.map Path.components).Nodup) :
    let steps := gridSteps project grids before
    (∀ step ∈ steps, step.KeptOn (afterSteps before steps).disk) ↔
      (workingStems steps).Nodup := by
  intro steps
  constructor
  · intro kept
    have grids : steps.Pairwise fun left right => left.grid ≠ right.grid := by
      rw [← map_grid_gridSteps project grids before, List.map_map, List.Nodup,
        List.pairwise_map] at different
      exact different.imp fun apart same => apart (by simp [same])
    rw [workingStems, List.Nodup, List.pairwise_map, List.pairwise_filter]
    apply grids.imp_of_mem
    intro left right leftInside rightInside apart
    exact unbroken.stem_ne_of_keptOn leftInside rightInside
      (kept left leftInside) (kept right rightInside) apart
  · intro stems step inside path file
    obtain ⟨_, _, fine⟩ := unbroken.fine inside
    rw [← fine.paths] at file
    obtain ⟨saved, member, rfl⟩ := List.mem_map.mp file
    refine ⟨saved.2, fine.held saved member, ?_⟩
    apply Disk.read_saveAll_of_nodup unbroken.plain unbroken.saveAll.2
    · rw [unbroken.map_fst]
      have files := unbroken.nodup_iff.mpr stems
      rw [List.Nodup, List.pairwise_map] at files
      exact files.imp fun apart same => apart (congrArg Path.components same)
    · exact List.mem_flatMap.mpr ⟨step, inside, member⟩

end

/-- Where no write fails, the snapshots of a list of different grids go to
different files, and are all there in the end, just if the stems of the grids
are different. -/
theorem grids_kept_apart_iff {arguments : Arguments} {before : Workspace}
    {project : Path} {grids : List Path}
    (isOpen : before.session.lastProject = some project)
    (listed : ListsGrids arguments before grids)
    (different : (grids.map Path.components).Nodup)
    (unbroken : Unbroken project grids before) :
    let steps := gridSteps project grids before
    let files := steps.flatMap GridStep.files
    let done := (exportMultiCaseSnapshots.run arguments).run before
    done.1.result = some (.files files) ∧
      ((files.map Path.components).Nodup ↔ (workingStems steps).Nodup) ∧
      ((∀ step ∈ steps, step.KeptOn done.2.disk) ↔
        (workingStems steps).Nodup) := by
  intro steps files done
  obtain ⟨journal, ran⟩ := run_exportMultiCaseSnapshots isOpen listed
  have result : done.1.result = some (.files files) := by
    rw [show done = _ from ran]
  have disk : done.2.disk = (afterSteps before steps).disk := by
    rw [show done = _ from ran]
  rw [disk]
  exact ⟨result, unbroken.nodup_iff, unbroken.keptOn_iff different⟩

/-! ### Two grids with one stem -/

/-- A project is open, and a file lists two grids with one stem. -/
def twins : Workspace where
  application :=
    ({} : Application).withPreset ⟨"t.rsp"⟩ { cases := [⟨"base.egrid"⟩] }
  session := { lastProject := some ⟨"t.rsp"⟩ }
  disk := { entries :=
    [(["grids.txt"], .file "a/r.egrid\nb/r.egrid\n".toUTF8)] }

/-- The grids of the list. -/
def twinGrids : List Path :=
  [⟨"a/r.egrid"⟩, ⟨"b/r.egrid"⟩]

theorem isOpen_twins : twins.session.lastProject = some ⟨"t.rsp"⟩ :=
  rfl

theorem listsGrids_twins :
    ListsGrids ⟨[⟨"gridListFile", .string "grids.txt", true⟩]⟩ twins
      twinGrids := by
  apply listsGrids_of_find? (by decide)
  · exact eq_ok_of_toOption (by decide +kernel : _ = some ["grids.txt"])
  · rfl
  · decide +kernel
  · decide

theorem nodup_twinGrids : (twinGrids.map Path.components).Nodup := by
  decide +kernel

theorem unbroken_twins : Unbroken ⟨"t.rsp"⟩ twinGrids twins := by
  apply unbroken_of_all
  decide +kernel

theorem files_twins :
    (gridSteps ⟨"t.rsp"⟩ twinGrids twins).flatMap GridStep.files =
      [⟨"snapshots/r_View_1.png.txt"⟩, ⟨"snapshots/r_View_1.png.txt"⟩] := by
  decide +kernel

/-- The second grid takes the place of the first one. -/
theorem grids_kept_apart_iff_twins :
    let done := (exportMultiCaseSnapshots.run
      ⟨[⟨"gridListFile", .string "grids.txt", true⟩]⟩).run twins
    (twinGrids.map Path.components).Nodup ∧
      Unbroken ⟨"t.rsp"⟩ twinGrids twins ∧
      done.1.result = some (.files [⟨"snapshots/r_View_1.png.txt"⟩,
        ⟨"snapshots/r_View_1.png.txt"⟩]) ∧
      ¬ ∀ step ∈ gridSteps ⟨"t.rsp"⟩ twinGrids twins,
        step.KeptOn done.2.disk := by
  have all := grids_kept_apart_iff isOpen_twins listsGrids_twins nodup_twinGrids
    unbroken_twins
  dsimp only at all ⊢
  obtain ⟨result, _, kept⟩ := all
  rw [files_twins] at result
  have stems : ¬ (workingStems
      (gridSteps ⟨"t.rsp"⟩ twinGrids twins)).Nodup := by decide +kernel
  exact ⟨nodup_twinGrids, unbroken_twins, result,
    fun all => stems (kept.mp all)⟩

/-- Different grids may share their snapshots. -/
theorem not_forall_grids_kept_apart :
    ¬ ∀ (arguments : Arguments) (before : Workspace) (project : Path)
        (manifest : Manifest) (grids files : List Path),
      before.application.preset? project = some manifest →
      manifest.cases ≠ [] →
      before.session.lastProject = some project →
      ListsGrids arguments before grids →
      (grids.map Path.components).Nodup →
      Unbroken project grids before →
      ((exportMultiCaseSnapshots.run arguments).run before).1.result =
        some (.files files) →
        (files.map Path.components).Nodup := by
  intro all
  obtain ⟨_, ran⟩ := run_exportMultiCaseSnapshots isOpen_twins listsGrids_twins
  have result : ((exportMultiCaseSnapshots.run
      ⟨[⟨"gridListFile", .string "grids.txt", true⟩]⟩).run twins).1.result =
        some (.files [⟨"snapshots/r_View_1.png.txt"⟩,
          ⟨"snapshots/r_View_1.png.txt"⟩]) := by
    rw [ran, files_twins]
  have different := all _ twins ⟨"t.rsp"⟩ { cases := [⟨"base.egrid"⟩] } _ _
    (by decide +kernel) (by decide) isOpen_twins listsGrids_twins
    nodup_twinGrids unbroken_twins result
  revert different
  decide +kernel

end Builtin

end GridScript
