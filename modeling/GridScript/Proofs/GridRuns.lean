import GridScript.Proofs.GridFiles

/-!
# Each grid of a list as if it were alone

Opening the project anew forgets all that the grids before have left in the
application.  What they have left on the disk is folders and files: these let
nothing fail that would have worked without them, and unless they make a grid of
the list exist, they let nothing work that would have failed.
-/

namespace GridScript

/-! ### Opening a project forgets the application -/

namespace Application

theorem SameObjects.symm {left right : Application}
    (same : left.SameObjects right) : right.SameObjects left := by
  obtain ⟨written, rfl⟩ := same
  exact ⟨right.written, rfl⟩

theorem SameObjects.trans {first second third : Application}
    (left : first.SameObjects second) (right : second.SameObjects third) :
    first.SameObjects third := by
  obtain ⟨written, rfl⟩ := left
  obtain ⟨other, rfl⟩ := right
  exact ⟨written, rfl⟩

theorem SameObjects.foldl {α : Type} {add : Application → α → Application}
    (each : ∀ {left right : Application} (item : α), left.SameObjects right →
      (add left item).SameObjects (add right item))
    (items : List α) {left right : Application}
    (same : left.SameObjects right) :
    (items.foldl add left).SameObjects (items.foldl add right) := by
  induction items generalizing left right with
  | nil => exact same
  | cons item items induction => exact induction (each item same)

/-- The same presets and the same file checks. -/
structure SameRules (left right : Application) : Prop where
  presets : left.presets = right.presets
  checksFiles : left.checksFiles = right.checksFiles

theorem SameRules.clear {left right : Application}
    (same : left.SameRules right) : left.clear.SameObjects right.clear :=
  ⟨left.written, by rw [Application.clear, same.presets, same.checksFiles]; rfl⟩

/-- Whatever the applications hold, they hold the same once a project is
opened. -/
theorem SameRules.withProject {left right : Application}
    (same : left.SameRules right) (path : Path) (manifest : Manifest) :
    (left.withProject path manifest).SameObjects
      (right.withProject path manifest) := by
  have opened : ∀ {left right : Application}, left.SameObjects right →
      ({ left with project := some path } : Application).SameObjects
        { right with project := some path } := by
    rintro _ right ⟨written, rfl⟩
    exact ⟨written, rfl⟩
  apply opened
  apply SameObjects.foldl
  · rintro _ right name ⟨written, rfl⟩
    exact ⟨written, rfl⟩
  · apply SameObjects.foldl
    · rintro _ right sources ⟨written, rfl⟩
      exact ⟨written, rfl⟩
    · apply SameObjects.foldl
      · rintro _ right grid ⟨written, rfl⟩
        exact ⟨written, rfl⟩
      · exact same.clear

theorem SameRules.preset? {left right : Application}
    (same : left.SameRules right) (path : Path) :
    left.preset? path = right.preset? path := by
  rw [Application.preset?, Application.preset?, same.presets]

theorem SameRules.trans {first second third : Application}
    (left : first.SameRules second) (right : second.SameRules third) :
    first.SameRules third :=
  ⟨left.presets.trans right.presets, left.checksFiles.trans right.checksFiles⟩

theorem SameRules.symm {left right : Application}
    (same : left.SameRules right) : right.SameRules left :=
  ⟨same.presets.symm, same.checksFiles.symm⟩

/-- All that commands do leaves presets and file checks alone. -/
theorem kept_sameRules (origin : Application) :
    Kept fun app => app.SameRules origin where
  written _ same := ⟨same.presets, same.checksFiles⟩
  project _ same := ⟨same.presets, same.checksFiles⟩
  clear same := ⟨same.presets, same.checksFiles⟩
  addCase _ same := ⟨same.presets, same.checksFiles⟩
  addCaseGroup _ same := ⟨same.presets, same.checksFiles⟩
  addWellPath _ same := ⟨same.presets, same.checksFiles⟩
  changeCase _ _ _ same := ⟨same.presets, same.checksFiles⟩
  changeCaseGroup _ _ _ same := ⟨same.presets, same.checksFiles⟩

theorem SameObjects.regrid {left right : Application}
    (same : left.SameObjects right) (grid : Path) :
    (left.regrid grid).SameObjects (right.regrid grid) := by
  obtain ⟨written, rfl⟩ := same
  exact ⟨written, rfl⟩

theorem SameObjects.gridFailure? {left right : Application}
    (same : left.SameObjects right) (disk : Disk) (grid : Path) :
    left.gridFailure? disk grid = right.gridFailure? disk grid := by
  obtain ⟨written, rfl⟩ := same
  rfl

end Application

namespace Builtin

open GridScript.Action

variable {project grid : Path} {manifest : Manifest} {before : Workspace}

/-! ### One grid of a project that is preset -/

theorem gridSnapshots_congr {session : Session} {left right : Application}
    (same : left.SameObjects right) :
    gridSnapshots project session left grid =
      gridSnapshots project session right grid := by
  obtain ⟨written, rfl⟩ := same
  rfl

theorem GridOutcome.sameRules {answer : Except CommandError (List Path)}
    {after : Workspace} (outcome : GridOutcome project grid before answer after)
    (unbroken : ∀ reason, answer ≠ .error (.disk reason)) :
    after.application.SameRules before.application := by
  have kept := Application.kept_sameRules before.application
  have start : before.application.SameRules before.application := ⟨rfl, rfl⟩
  cases outcome with
  | unopened failed => exact start
  | refused loaded failed => exact kept.withProject project _ start
  | unsaved loaded opened fine failed => exact absurd rfl (unbroken _)
  | saved loaded opened fine paths saves =>
      subst opened
      apply kept.written
      exact kept.changeCase none (fun _ => rfl)
        (kept.withProject project _ start)

/-- What a grid of a preset project leads to. -/
inductive PresetOutcome (project grid : Path) (opened : Application)
    (before : Workspace) (step : GridStep) : Prop where
  | refused {cause : CommandError} :
      opened.gridFailure? before.disk grid = some cause →
      step.answer = .error cause → step.saved = [] →
      step.after.application = opened →
      PresetOutcome project grid opened before step
  | saved {disk : Disk} {files : List (Path × String)} :
      opened.gridFailure? before.disk grid = none →
      files = gridSnapshots project before.session opened grid →
      before.disk.saveAll (snapshotFolder project before.session) files =
        .ok disk →
      step.answer = .ok (files.map Prod.fst) → step.saved = files →
      step.after.application.SameObjects (opened.regrid grid) →
      PresetOutcome project grid opened before step
  | unsaved {reason : DiskError} :
      opened.gridFailure? before.disk grid = none →
      before.disk.saveAll (snapshotFolder project before.session)
        (gridSnapshots project before.session opened grid) = .error reason →
      step.answer = .error (.disk reason) →
      PresetOutcome project grid opened before step

theorem presetOutcome_gridStep
    (preset : before.application.preset? project = some manifest) :
    PresetOutcome project grid (before.application.withProject project manifest)
      before (gridStep project grid before) := by
  have outcome := gridOutcome_snapshotGrid project grid before
  have loaded := congrArg Prod.fst (run_loadManifest_preset preset)
  unfold gridStep
  generalize (snapshotGrid project grid).run.run before = done at outcome
  obtain ⟨answer, after⟩ := done
  dsimp only at outcome loaded ⊢
  cases outcome with
  | unopened failed =>
      rw [loaded] at failed
      cases failed
  | refused other failed =>
      rw [loaded] at other
      cases other
      exact .refused failed rfl rfl rfl
  | unsaved other opened fine failed =>
      rw [loaded] at other
      cases other
      subst opened
      exact .unsaved fine failed rfl
  | saved other opened fine paths saves =>
      rw [loaded] at other
      cases other
      subst opened
      have numbered :=
        (before.application.oneViewEach_withProject project manifest).1
      refine .saved fine rfl saves (congrArg Except.ok paths) ?_
        ((Application.SameObjects.refl _).remembering _)
      apply GridStep.saved_eq
      · exact paths
      · exact fun _ => Disk.read_saveAll_of_nodup plainFiles_gridSnapshots saves
          (nodup_map_fst_gridSnapshots numbered)

/-- Two steps gave the same answer, saved the same and left the same objects. -/
structure GridStep.Matches (left right : GridStep) : Prop where
  grid : left.grid = right.grid
  answer : left.answer = right.answer
  saved : left.saved = right.saved
  objects : left.after.application.SameObjects right.after.application

/-- A grid that is there or missing in both workspaces is refused in both or in
none. -/
theorem gridFailure?_withProject (project : Path) (manifest : Manifest)
    {start : Workspace} (rules : start.application.SameRules before.application)
    (there : before.application.checksFiles = true →
      start.disk.exists? grid = before.disk.exists? grid) :
    (start.application.withProject project manifest).gridFailure? start.disk
        grid =
      (before.application.withProject project manifest).gridFailure? before.disk
        grid := by
  have checks : (before.application.withProject project manifest).checksFiles =
      before.application.checksFiles :=
    ((Application.kept_sameRules before.application).withProject project
      manifest ⟨rfl, rfl⟩).checksFiles
  rw [(rules.withProject project manifest).gridFailure?]
  unfold Application.gridFailure?
  rw [checks]
  cases checked : before.application.checksFiles with
  | false => rfl
  | true => rw [there checked]

/-- A grid does the same from another workspace, if it is there or missing in
both and what it saves can also be saved there. -/
theorem matches_gridStep {start : Workspace}
    (preset : before.application.preset? project = some manifest)
    (rules : start.application.SameRules before.application)
    (session : start.session = before.session)
    (there : before.application.checksFiles = true →
      start.disk.exists? grid = before.disk.exists? grid)
    (unbroken : ∀ reason,
      (gridStep project grid before).answer ≠ .error (.disk reason))
    (savable : ∃ disk,
      start.disk.saveAll (snapshotFolder project before.session)
        (gridStep project grid before).saved = .ok disk) :
    (gridStep project grid start).Matches (gridStep project grid before) := by
  have objects := rules.withProject project manifest
  have failure := gridFailure?_withProject project manifest rules there
  have files : gridSnapshots project start.session
      (start.application.withProject project manifest) grid =
        gridSnapshots project before.session
          (before.application.withProject project manifest) grid := by
    rw [session, gridSnapshots_congr objects]
  have here : PresetOutcome project grid
      (before.application.withProject project manifest) before
      (gridStep project grid before) := presetOutcome_gridStep preset
  have alone : PresetOutcome project grid
      (start.application.withProject project manifest) start
      (gridStep project grid start) :=
    presetOutcome_gridStep ((rules.preset? project).trans preset)
  cases here with
  | unsaved _ _ failed => exact absurd failed (unbroken _)
  | refused refused answer saved after =>
      cases alone with
      | refused other otherAnswer otherSaved otherAfter =>
          rw [failure, refused] at other
          cases other
          refine ⟨rfl, otherAnswer.trans answer.symm,
            otherSaved.trans saved.symm, ?_⟩
          rw [after, otherAfter]
          exact objects
      | saved other _ _ _ _ _ =>
          rw [failure, refused] at other
          cases other
      | unsaved other _ _ =>
          rw [failure, refused] at other
          cases other
  | saved fine same saves answer saved after =>
      cases alone with
      | refused other _ _ _ =>
          rw [failure, fine] at other
          cases other
      | saved other otherSame otherSaves otherAnswer otherSaved otherAfter =>
          rw [files, ← same] at otherSame
          subst otherSame
          exact ⟨rfl, otherAnswer.trans answer.symm,
            otherSaved.trans saved.symm,
            otherAfter.trans ((objects.regrid grid).trans after.symm)⟩
      | unsaved other otherFailed _ =>
          obtain ⟨disk, works⟩ := savable
          rw [files, session, ← same, ← saved, works] at otherFailed
          cases otherFailed

/-! ### All grids -/

/-- The same rules, the same session and the same files: nothing but what the
application has loaded and written, and what was told, may differ. -/
structure SameGround (left right : Workspace) : Prop where
  rules : left.application.SameRules right.application
  session : left.session = right.session
  disk : left.disk = right.disk

/-- What the grids so far have left behind: the same rules and the same session
as at the start, and their files saved. -/
structure Reached (project : Path) (origin before : Workspace)
    (past : List (Path × String)) : Prop where
  rules : before.application.SameRules origin.application
  session : before.session = origin.session
  plain : Disk.PlainFiles (snapshotFolder project origin.session) past
  saves : origin.disk.saveAll (snapshotFolder project origin.session) past =
    .ok before.disk

theorem Reached.step {origin : Workspace} {past : List (Path × String)}
    (reached : Reached project origin before past)
    (unbroken : ∀ reason,
      (gridStep project grid before).answer ≠ .error (.disk reason)) :
    Reached project origin (gridStep project grid before).after
      (past ++ (gridStep project grid before).saved) := by
  have fine := fine_gridStep unbroken
  have rules :=
    (gridOutcome_snapshotGrid project grid before).sameRules unbroken
  refine ⟨rules.trans reached.rules, fine.session.trans reached.session, ?_, ?_⟩
  · intro file member
    rcases List.mem_append.mp member with earlier | now
    · exact reached.plain file earlier
    · rw [← reached.session]
      exact fine.plain file now
  · rw [Disk.saveAll_append, reached.saves, ← reached.session]
    exact fine.saves

/-- Every step of the list is what its grid leads to from the start. -/
theorem Reached.matches_alone {origin : Workspace} {past : List (Path × String)}
    {grids : List Path} {start : Path → Workspace}
    (reached : Reached project origin before past)
    (preset : origin.application.preset? project = some manifest)
    (same : ∀ grid, SameGround (start grid) origin)
    (unbroken : Unbroken project grids before)
    (unmade : origin.application.checksFiles = true → ∀ grid ∈ grids,
      (afterSteps before (gridSteps project grids before)).disk.exists? grid =
        true → origin.disk.exists? grid = true)
    {step : GridStep} (member : step ∈ gridSteps project grids before) :
    (gridStep project step.grid (start step.grid)).Matches step := by
  induction grids generalizing before past with
  | nil => cases member
  | cons grid grids induction =>
      have first := unbroken _ List.mem_cons_self
      have next := reached.step first
      have unbrokenRest :
          Unbroken project grids (gridStep project grid before).after :=
        fun other inside => unbroken other (List.mem_cons_of_mem _ inside)
      rcases List.mem_cons.mp member with rfl | later
      · have ground := same grid
        apply matches_gridStep ((reached.rules.preset? project).trans preset)
          (ground.rules.trans reached.rules.symm)
          (ground.session.trans reached.session.symm) _ first
        · -- Files that were saved before can be saved without the others.
          rw [ground.disk, reached.session]
          exact Disk.exists_saveAll_of_append next.plain next.saves
        · intro checks
          rw [reached.rules.checksFiles] at checks
          have grown := Disk.grows_saveAll reached.plain reached.saves
          have growing := Disk.grows_saveAll unbroken.plain unbroken.saveAll.2
          rw [ground.disk, Bool.eq_iff_iff]
          exact ⟨grown.exists?, fun now =>
            unmade checks grid List.mem_cons_self (growing.exists? now)⟩
      · apply induction next unbrokenRest _ later
        intro checks other inside now
        apply unmade checks other (List.mem_cons_of_mem grid inside)
        rw [gridSteps, afterSteps_cons]
        exact now

/-- The steps of a list as they are when each grid is alone. -/
def aloneSteps (project : Path) (start : Path → Workspace)
    (grids : List Path) : List GridStep :=
  grids.map fun grid => gridStep project grid (start grid)

theorem aloneSteps_eq (start : Path → Workspace) (grids : List Path) :
    aloneSteps project start grids =
      (gridSteps project grids before).map fun step =>
        gridStep project step.grid (start step.grid) := by
  calc
    aloneSteps project start grids =
        aloneSteps project start
          ((gridSteps project grids before).map GridStep.grid) := by
      rw [map_grid_gridSteps]
    _ = _ := List.map_map

theorem GridStep.Matches.files {left right : GridStep}
    (same : left.Matches right) : left.files = right.files := by
  rw [GridStep.files, GridStep.files, same.answer]

theorem GridStep.Matches.failure? {left right : GridStep}
    (same : left.Matches right) : left.failure? = right.failure? := by
  rw [GridStep.failure?, GridStep.failure?, same.answer, same.grid]

/-- The response is an error just if a step failed. -/
theorem status_eq_error_iff (steps : List GridStep) :
    (if steps.filterMap GridStep.failure? = [] then Status.ok else .error) =
        .error ↔
      ∃ step ∈ steps, ∃ cause, step.answer = .error cause := by
  have fine : ∀ {step : GridStep}, step.failure? = none ↔
      ¬ ∃ cause, step.answer = .error cause := by
    intro step
    unfold GridStep.failure?
    cases step.answer with
    | ok files => simp
    | error cause => simp
  split
  · rename_i nothing
    simp only [List.filterMap_eq_nil_iff, fine] at nothing
    simpa using nothing
  · rename_i something
    simp only [List.filterMap_eq_nil_iff, fine] at something
    simpa using something

/-- Steps that match give the same lists. -/
theorem map_aloneSteps {β : Type} {grids : List Path} {start : Path → Workspace}
    (matching : ∀ step ∈ gridSteps project grids before,
      (gridStep project step.grid (start step.grid)).Matches step)
    (view : GridStep → β)
    (seen : ∀ {left right : GridStep}, left.Matches right →
      view left = view right) :
    (aloneSteps project start grids).map view =
      (gridSteps project grids before).map view := by
  rw [aloneSteps_eq, List.map_map]
  apply List.map_congr_left
  intro step inside
  exact seen (matching step inside)

/-- The grids of a list are independent: where no write fails, and no grid that
was missing is there in the end if files are checked, the answer, the saved
files and the objects left behind are those of each grid alone, whatever the
application has loaded before. -/
theorem grids_independent {arguments : Arguments} {grids : List Path}
    {start : Path → Workspace}
    (preset : before.application.preset? project = some manifest)
    (isOpen : before.session.lastProject = some project)
    (listed : ListsGrids arguments before grids)
    (unbroken : Unbroken project grids before)
    (unmade : before.application.checksFiles = true → ∀ grid ∈ grids,
      ((exportMultiCaseSnapshots.run arguments).run before).2.disk.exists?
        grid = true → before.disk.exists? grid = true)
    (same : ∀ grid, SameGround (start grid) before) :
    let done := (exportMultiCaseSnapshots.run arguments).run before
    let alone := aloneSteps project start grids
    done.1.result = some (.files (alone.flatMap GridStep.files)) ∧
      (∀ step ∈ alone, step.saved.map Prod.fst = step.files) ∧
      before.disk.saveAll (snapshotFolder project before.session)
        (alone.flatMap GridStep.saved) = .ok done.2.disk ∧
      (done.1.status = .error ↔ ∃ step ∈ alone, ∃ cause,
        step.answer = .error cause) ∧
      done.1.message = joinWith "; " (alone.filterMap GridStep.failure?) ∧
      ∃ last, alone.getLast? = some last ∧
        done.2.application.SameObjects last.after.application := by
  obtain ⟨journal, ran⟩ := run_exportMultiCaseSnapshots isOpen listed
  rw [ran] at unmade ⊢
  have reached : Reached project before before [] :=
    ⟨⟨rfl, rfl⟩, rfl, nofun, rfl⟩
  have matching := fun step (inside : step ∈ gridSteps project grids before) =>
    reached.matches_alone preset same unbroken unmade inside
  have files : (aloneSteps project start grids).flatMap GridStep.files =
      (gridSteps project grids before).flatMap GridStep.files :=
    congrArg List.flatten (map_aloneSteps matching _ GridStep.Matches.files)
  have saved : (aloneSteps project start grids).flatMap GridStep.saved =
      (gridSteps project grids before).flatMap GridStep.saved :=
    congrArg List.flatten (map_aloneSteps matching _ GridStep.Matches.saved)
  have failures : (aloneSteps project start grids).filterMap GridStep.failure? =
      (gridSteps project grids before).filterMap GridStep.failure? := by
    have maps := congrArg (List.filterMap id)
      (map_aloneSteps matching _ GridStep.Matches.failure?)
    rw [List.filterMap_map, List.filterMap_map] at maps
    exact maps
  dsimp only
  rw [files, saved, ← failures]
  refine ⟨rfl, ?_, unbroken.saveAll.2, status_eq_error_iff _, rfl, ?_⟩
  · intro step inside
    rw [aloneSteps_eq] at inside
    obtain ⟨other, member, rfl⟩ := List.mem_map.mp inside
    obtain ⟨_, _, fine⟩ := unbroken.fine member
    rw [(matching other member).saved, (matching other member).files]
    exact fine.paths
  · have some : gridSteps project grids before ≠ [] := by
      intro empty
      obtain ⟨_, _, _, _, _, _, some⟩ := listed
      rw [← map_grid_gridSteps project grids before, empty] at some
      exact some rfl
    have last := List.getLast?_eq_some_getLast some
    refine ⟨_, by rw [aloneSteps_eq, List.getLast?_map, last]; rfl, ?_⟩
    have member := List.getLast_mem some
    rw [afterSteps, last]
    exact (matching _ member).objects.symm

/-! ### Where files are checked -/

/-- A project is open, files are checked, and a file lists grids. -/
def checking (list : String) (present : List String) : Workspace where
  application := { ({} : Application).withPreset ⟨"t.rsp"⟩
    { cases := [⟨"base.egrid"⟩] } with checksFiles := true }
  session := { lastProject := some ⟨"t.rsp"⟩ }
  disk := { entries := (["grids.txt"], .file list.toUTF8) ::
    present.map fun name => ([name], .file ByteArray.empty) }

/-- The first grid of the list is missing. -/
def oneMissing : Workspace :=
  checking "missing.egrid\nr.egrid\n" ["r.egrid"]

/-- The second grid of the list is reached through the folder that the snapshots
of the first one go to. -/
def detour : Workspace :=
  checking "r1.egrid\nsnapshots/../r2.egrid\n" ["r1.egrid", "r2.egrid"]

/-- The grids of the list `oneMissing`, and those of `detour`. -/
def missingGrids : List Path :=
  [⟨"missing.egrid"⟩, ⟨"r.egrid"⟩]

@[inherit_doc missingGrids]
def detourGrids : List Path :=
  [⟨"r1.egrid"⟩, ⟨"snapshots/../r2.egrid"⟩]

theorem listsGrids_oneMissing :
    ListsGrids ⟨[⟨"gridListFile", .string "grids.txt", true⟩]⟩ oneMissing
      missingGrids := by
  apply listsGrids_of_find? (by decide)
  · exact eq_ok_of_toOption (by decide +kernel : _ = some ["grids.txt"])
  · rfl
  · decide +kernel
  · decide

theorem listsGrids_detour :
    ListsGrids ⟨[⟨"gridListFile", .string "grids.txt", true⟩]⟩ detour
      detourGrids := by
  apply listsGrids_of_find? (by decide)
  · exact eq_ok_of_toOption (by decide +kernel : _ = some ["grids.txt"])
  · rfl
  · decide +kernel
  · decide

theorem sameGround_addCase (workspace : Workspace) (gridFile : Path) :
    SameGround { workspace with
      application := (workspace.application.addCase gridFile).2 } workspace :=
  ⟨⟨rfl, rfl⟩, rfl, rfl⟩

/-- A grid that is missing fails, whatever is loaded, and the others follow. -/
theorem grids_independent_oneMissing :
    let loaded : Workspace := { oneMissing with
      application := (oneMissing.application.addCase ⟨"other.egrid"⟩).2 }
    let done := (exportMultiCaseSnapshots.run
      ⟨[⟨"gridListFile", .string "grids.txt", true⟩]⟩).run oneMissing
    let alone := aloneSteps ⟨"t.rsp"⟩ (fun _ => loaded) missingGrids
    Unbroken ⟨"t.rsp"⟩ missingGrids oneMissing ∧
      (∀ grid ∈ missingGrids, done.2.disk.exists? grid = true →
        oneMissing.disk.exists? grid = true) ∧
      done.1.result = some (.files (alone.flatMap GridStep.files)) ∧
      alone.flatMap GridStep.files = [⟨"snapshots/r_View_1.png.txt"⟩] ∧
      done.1.message = joinWith "; " (alone.filterMap GridStep.failure?) ∧
      alone.filterMap GridStep.failure? =
        ["missing.egrid: object not found: grid file missing.egrid"] := by
  have unbroken : Unbroken ⟨"t.rsp"⟩ missingGrids oneMissing := by
    apply unbroken_of_all
    decide +kernel
  have unmade : ∀ grid ∈ missingGrids, ((exportMultiCaseSnapshots.run
      ⟨[⟨"gridListFile", .string "grids.txt", true⟩]⟩).run
        oneMissing).2.disk.exists? grid = true →
          oneMissing.disk.exists? grid = true := by
    decide +kernel
  have preset : oneMissing.application.preset? ⟨"t.rsp"⟩ =
      some { cases := [⟨"base.egrid"⟩] } := by decide +kernel
  have all := grids_independent preset rfl listsGrids_oneMissing unbroken
    (fun _ => unmade) fun _ => sameGround_addCase oneMissing ⟨"other.egrid"⟩
  dsimp only at all ⊢
  obtain ⟨result, _, _, _, message, _⟩ := all
  exact ⟨unbroken, unmade, result, by decide +kernel, message,
    by decide +kernel⟩

/-- It is not enough that no grid of the list is a file that was saved: a folder
that was made may be on the way to a grid. -/
theorem not_forall_grids_independent :
    ¬ ∀ (arguments : Arguments) (before : Workspace) (project : Path)
        (manifest : Manifest) (grids files : List Path)
        (start : Path → Workspace),
      before.application.preset? project = some manifest →
      before.session.lastProject = some project →
      ListsGrids arguments before grids →
      Unbroken project grids before →
      (∀ step ∈ aloneSteps project start grids, step.isUnbroken = true) →
      (∀ grid, SameGround (start grid) before) →
      ((exportMultiCaseSnapshots.run arguments).run before).1.result =
        some (.files files) →
      (∀ grid ∈ grids, ∀ file ∈ files, grid.components ≠ file.components) →
        (((exportMultiCaseSnapshots.run arguments).run before).1.status =
          .error ↔ ∃ step ∈ aloneSteps project start grids, ∃ cause,
            step.answer = .error cause) := by
  intro all
  have response : ((exportMultiCaseSnapshots.run
      ⟨[⟨"gridListFile", .string "grids.txt", true⟩]⟩).run detour).1 =
        ⟨.ok, "", some (.files [⟨"snapshots/r1_View_1.png.txt"⟩,
          ⟨"snapshots/r2_View_1.png.txt"⟩])⟩ := by decide +kernel
  have unbroken : Unbroken ⟨"t.rsp"⟩ detourGrids detour := by
    apply unbroken_of_all
    decide +kernel
  have failed : ∃ step ∈ aloneSteps ⟨"t.rsp"⟩ (fun _ => detour) detourGrids,
      ∃ cause, step.answer = .error cause := by
    apply (status_eq_error_iff _).mp
    decide +kernel
  have told := (all _ detour ⟨"t.rsp"⟩ { cases := [⟨"base.egrid"⟩] }
    detourGrids _ (fun _ => detour) (by decide +kernel) rfl listsGrids_detour
    unbroken (by decide +kernel) (fun _ => ⟨⟨rfl, rfl⟩, rfl, rfl⟩)
    (congrArg Response.result response) (by decide +kernel)).mpr failed
  rw [response] at told
  cases told

end Builtin

end GridScript
