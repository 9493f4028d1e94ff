import GridScript.Proofs.Saving

/-!
# Files of wells

An export of wells saves a file for each of them, named by the well with a low
line for every character that does not belong in a file name.  Wells that differ
in such characters only share their file, and it holds the last one of them.
-/

namespace GridScript

/-! ### One file for each well -/

/-- The file of a well, between what all file names begin and end with. -/
def wellFile (folder : Path) (stem ending well : String) : Path :=
  folder.child (stem ++ fileSafe well ++ ending)

/-- What the file names of wells begin and end with: no slashes, and enough to
be no dots. -/
structure WellNaming (stem ending : String) : Prop where
  flatStem : '/' ∉ stem.toList
  ending : IsPlain ending

section

variable {folder : Path} {stem ending : String}

theorem WellNaming.plain (naming : WellNaming stem ending) (well : String) :
    IsPlain (stem ++ fileSafe well ++ ending) := by
  apply naming.ending.append
  rw [String.toList_append, List.mem_append, not_or]
  exact ⟨naming.flatStem, slash_not_mem_fileSafe well⟩

theorem WellNaming.components_eq_iff (naming : WellNaming stem ending)
    (left right : String) :
    (wellFile folder stem ending left).components =
        (wellFile folder stem ending right).components ↔
      fileSafe left = fileSafe right := by
  constructor
  · intro same
    have leftPlain := naming.plain left
    have rightPlain := naming.plain right
    have leftLong := leftPlain.long
    have rightLong := rightPlain.long
    have names : stem ++ fileSafe left ++ ending =
        stem ++ fileSafe right ++ ending := by
      refine @Path.components_child_inj folder "" _ _ leftPlain.flat (by omega)
        rightPlain.flat (by omega) ?_
      rw [String.empty_append, String.empty_append]
      exact same
    have texts := congrArg String.toList names
    simp only [String.toList_append] at texts
    exact String.toList_injective
      (List.append_cancel_left (List.append_cancel_right texts))
  · intro same
    rw [wellFile, wellFile, same]

theorem WellNaming.nodup_iff (naming : WellNaming stem ending)
    (wells : List String) :
    ((wells.map (wellFile folder stem ending)).map Path.components).Nodup ↔
      (wells.map fileSafe).Nodup := by
  simp only [List.Nodup, List.pairwise_map, ne_eq, naming.components_eq_iff]

end

/-- Every well that was selected has a file; the files are different just if the
safe names are, each holds the last well with its name, and so every well is
still there just if the safe names are different. -/
structure WellsExported (before after : Workspace) (wells : List String)
    (files : List Path) (file : String → Path) (text : String → String) :
    Prop where
  files_eq : files = wells.map file
  written : after.application.written = before.application.written ++ files
  different : (files.map Path.components).Nodup ↔ (wells.map fileSafe).Nodup
  last : ∀ {front back : List String} {well : String},
    wells = front ++ well :: back →
      (∀ later ∈ back, fileSafe later ≠ fileSafe well) →
        after.disk.read (file well) = .ok (text well)
  kept : (∀ well ∈ wells, after.disk.read (file well) = .ok (text well)) ↔
    (wells.map fileSafe).Nodup

section

variable {folder : Path} {stem ending : String} {text : String → String}
  {wells : List String}

/-- The files as they are saved. -/
def wellFiles (folder : Path) (stem ending : String) (text : String → String)
    (wells : List String) : List (Path × String) :=
  wells.map fun well => (wellFile folder stem ending well, text well)

theorem WellNaming.plainFiles (naming : WellNaming stem ending) :
    Disk.PlainFiles folder (wellFiles folder stem ending text wells) := by
  intro file member
  obtain ⟨well, _, rfl⟩ := List.mem_map.mp member
  exact ⟨_, naming.plain well, rfl⟩

theorem WellNaming.read_last (naming : WellNaming stem ending)
    {before after : Disk}
    (saved : before.saveAll folder (wellFiles folder stem ending text wells) =
      .ok after) {front back : List String} {well : String}
    (split : wells = front ++ well :: back)
    (last : ∀ later ∈ back, fileSafe later ≠ fileSafe well) :
    after.read (wellFile folder stem ending well) = .ok (text well) := by
  have plain : Disk.PlainFiles folder
      (wellFiles folder stem ending text wells) := naming.plainFiles
  rw [split, wellFiles, List.map_append, List.map_cons] at saved plain
  apply Disk.read_saveAll plain saved
  intro member
  rw [List.map_map] at member
  obtain ⟨later, inside, same⟩ := List.mem_map.mp member
  exact last later inside ((naming.components_eq_iff later well).mp
    (congrArg Path.components same))

/-- Two wells in one file cannot both be there, for their texts differ. -/
theorem WellNaming.kept_iff (naming : WellNaming stem ending)
    (told : Function.Injective text) (distinct : wells.Nodup)
    {before after : Disk}
    (saved : before.saveAll folder (wellFiles folder stem ending text wells) =
      .ok after) :
    (∀ well ∈ wells,
        after.read (wellFile folder stem ending well) = .ok (text well)) ↔
      (wells.map fileSafe).Nodup := by
  constructor
  · intro kept
    rw [List.Nodup, List.pairwise_map]
    apply List.Pairwise.imp_of_mem _ distinct
    intro left right leftInside rightInside different same
    have held := kept left leftInside
    rw [wellFile, same] at held
    have other := kept right rightInside
    rw [wellFile, held] at other
    exact different (told (Except.ok.inj other))
  · intro safe well member
    obtain ⟨front, back, split⟩ := List.append_of_mem member
    apply naming.read_last saved split
    intro later inside
    rw [split, List.map_append, List.map_cons, List.nodup_append] at safe
    intro same
    apply (List.nodup_cons.mp safe.2.1).1
    rw [← same]
    exact List.mem_map_of_mem inside

theorem WellNaming.exported (naming : WellNaming stem ending)
    (told : Function.Injective text) (distinct : wells.Nodup)
    {before after : Workspace}
    (saved : before.disk.saveAll folder
      (wellFiles folder stem ending text wells) = .ok after.disk)
    (remembered : after.application = before.application.remembering
      (wells.map (wellFile folder stem ending))) :
    WellsExported before after wells
      (wells.map (wellFile folder stem ending)) (wellFile folder stem ending)
      text where
  files_eq := rfl
  written := by
    rw [remembered]
    rfl
  different := naming.nodup_iff wells
  last := naming.read_last saved
  kept := naming.kept_iff told distinct saved

end

/-! ### The exports -/

theorem Application.nodup_selectedWells {app : Application}
    {names : List String}
    (distinct : (app.wellPaths.map WellPath.name).Nodup)
    (asked : names.Nodup) : (app.selectedWells names).Nodup := by
  unfold selectedWells
  split
  · exact distinct
  · exact asked.filter _

theorem wellPathText_injective (request : WellPathRequest) :
    Function.Injective (wellPathText request) := by
  intro left right same
  unfold wellPathText at same
  -- What stands behind the well is the same in both texts.
  iterate 3 replace same := (String.append_left_inj _).mp same
  exact (String.append_right_inj _).mp same

theorem lgrText_injective (request : LgrRequest) (caseId : Nat) :
    Function.Injective (lgrText request caseId) := by
  intro left right same
  unfold lgrText at same
  iterate 11 replace same := (String.append_left_inj _).mp same
  exact (String.append_right_inj _).mp same

namespace Action

/-- An export of well paths saves the wells that are asked for and known, and
reports the others. -/
theorem saves_exportWellPaths (app : Application) (request : WellPathRequest) :
    let wells := app.selectedWells request.names
    Saves app
      (·.saveAll request.folder
        (wellFiles request.folder "" ".dev" (wellPathText request) wells))
      (wells.map (wellFile request.folder "" ".dev"))
      ⟨wells.map (wellFile request.folder "" ".dev"),
        app.missingWells request.names⟩ (exportWellPaths request) := by
  intro wells
  have each : ∀ well ∈ wells, Saves app
      (·.save request.folder (wellFile request.folder "" ".dev" well)
        (wellPathText request well))
      [wellFile request.folder "" ".dev" well]
      (wellFile request.folder "" ".dev" well)
      (writeExport request.folder (fileSafe well ++ ".dev")
        (wellPathText request well)) := by
    intro well _
    rw [wellFile, String.empty_append]
    exact saves_writeExport _ _ _
  apply saves_of_run_eq _ (saves_return (saves_mapM each) fun files =>
    (⟨files, app.missingWells request.names⟩ : WellPathReport))
  rintro before ⟨written, same⟩
  rw [exportWellPaths, run_get_bind, same]
  rfl

/-- An export of local refinements saves the wells that are asked for and
known, and does not speak of the others. -/
theorem saves_exportLgrs {app : Application} {request : LgrRequest}
    {refined : GridCase} (known : app.case? request.caseId = some refined) :
    let wells := app.selectedWells request.wellPathNames
    Saves app
      (·.saveAll request.folder
        (wellFiles request.folder "lgr_" ".dat" (lgrText request refined.id)
          wells))
      (wells.map (wellFile request.folder "lgr_" ".dat"))
      (wells.map (wellFile request.folder "lgr_" ".dat"))
      (exportLgrs request) := by
  intro wells
  have each : ∀ well ∈ wells, Saves app
      (·.save request.folder (wellFile request.folder "lgr_" ".dat" well)
        (lgrText request refined.id well))
      [wellFile request.folder "lgr_" ".dat" well]
      (wellFile request.folder "lgr_" ".dat" well)
      (writeExport request.folder ("lgr_" ++ fileSafe well ++ ".dat")
        (lgrText request refined.id well)) :=
    fun _ _ => saves_writeExport _ _ _
  apply saves_of_run_eq _ (saves_mapM each)
  rintro before ⟨written, same⟩
  have found : (findCase request.caseId).run.run before =
      (.ok refined, before) := by
    have here : before.application.case? request.caseId = some refined := by
      rw [same]
      exact known
    rw [findCase, run_get_bind, here]
    rfl
  rw [exportLgrs, run_bind_ok found, run_get_bind, same]
  rfl

theorem exists_saveAll_of_exportWellPaths {request : WellPathRequest}
    {before after : Workspace} {report : WellPathReport}
    (ran : (exportWellPaths request).run.run before = (.ok report, after)) :
    let wells := before.application.selectedWells request.names
    report.files = wells.map (wellFile request.folder "" ".dev") ∧
      before.disk.saveAll request.folder (wellFiles request.folder "" ".dev"
        (wellPathText request) wells) = .ok after.disk ∧
      after.application = before.application.remembering
        (wells.map (wellFile request.folder "" ".dev")) := by
  intro wells
  obtain ⟨given, saved, remembered, _⟩ :=
    (saves_exportWellPaths before.application request).of_run (.refl _) ran
  exact ⟨congrArg WellPathReport.files given, saved, remembered⟩

theorem exists_saveAll_of_exportLgrs {request : LgrRequest}
    {before after : Workspace} {files : List Path}
    (ran : (exportLgrs request).run.run before = (.ok files, after)) :
    let wells := before.application.selectedWells request.wellPathNames
    ∃ refined, before.application.case? request.caseId = some refined ∧
      files = wells.map (wellFile request.folder "lgr_" ".dat") ∧
      before.disk.saveAll request.folder (wellFiles request.folder "lgr_" ".dat"
        (lgrText request refined.id) wells) = .ok after.disk ∧
      after.application = before.application.remembering
        (wells.map (wellFile request.folder "lgr_" ".dat")) := by
  intro wells
  cases known : before.application.case? request.caseId with
  | none =>
      obtain ⟨refined, middle, finding, _⟩ := exists_of_run_bind ran
      rw [findCase, run_get_bind, known] at finding
      cases finding
  | some refined =>
      obtain ⟨given, saved, remembered, _⟩ :=
        (saves_exportLgrs known).of_run (.refl _) ran
      exact ⟨refined, rfl, given, saved, remembered⟩

/-- Where all files could be written, the files of the selected wells are
different just if the safe names of the wells are; a file that wells share holds
the last one of them. -/
theorem wells_kept_apart_iff {before : Workspace}
    (distinct : (before.application.wellPaths.map WellPath.name).Nodup) :
    (∀ {request : WellPathRequest} {report : WellPathReport}
        {after : Workspace}, request.names.Nodup →
      (exportWellPaths request).run.run before = (.ok report, after) →
        WellsExported before after
          (before.application.selectedWells request.names) report.files
          (wellFile request.folder "" ".dev") (wellPathText request)) ∧
    ∀ {request : LgrRequest} {files : List Path} {after : Workspace},
      request.wellPathNames.Nodup →
      (exportLgrs request).run.run before = (.ok files, after) →
        ∃ refined, before.application.case? request.caseId = some refined ∧
          WellsExported before after
            (before.application.selectedWells request.wellPathNames) files
            (wellFile request.folder "lgr_" ".dat")
            (lgrText request refined.id) := by
  constructor
  · intro request report after asked ran
    obtain ⟨given, saved, remembered⟩ := exists_saveAll_of_exportWellPaths ran
    rw [given]
    exact WellNaming.exported ⟨by decide, by decide, by decide⟩
      (wellPathText_injective request)
      (Application.nodup_selectedWells distinct asked) saved remembered
  · intro request files after asked ran
    obtain ⟨refined, known, given, saved, remembered⟩ :=
      exists_saveAll_of_exportLgrs ran
    refine ⟨refined, known, ?_⟩
    rw [given]
    exact WellNaming.exported ⟨by decide, by decide, by decide⟩
      (lgrText_injective request refined.id)
      (Application.nodup_selectedWells distinct asked) saved remembered

/-- Of two wells that share a file, the one that is asked for last is in it. -/
theorem wells_kept_apart_iff_sharing :
    let before : Workspace := { application :=
      ((({} : Application).addWellPath "A 1").2.addWellPath "A_1").2 }
    let request : WellPathRequest := ⟨["A_1", "A 1"], .zero, ⟨"wells"⟩⟩
    let done := (exportWellPaths request).run.run before
    (before.application.wellPaths.map WellPath.name).Nodup ∧
      request.names.Nodup ∧
      done.1.toOption =
        some ⟨[⟨"wells/A_1.dev"⟩, ⟨"wells/A_1.dev"⟩], []⟩ ∧
      WellsExported before done.2 ["A_1", "A 1"]
        [⟨"wells/A_1.dev"⟩, ⟨"wells/A_1.dev"⟩]
        (wellFile ⟨"wells"⟩ "" ".dev") (wellPathText request) ∧
      done.2.disk.read ⟨"wells/A_1.dev"⟩ =
        .ok (wellPathText request "A 1") := by
  intro before request done
  have distinct : (before.application.wellPaths.map WellPath.name).Nodup := by
    decide
  have asked : request.names.Nodup := by decide
  have given : done.1.toOption =
      some ⟨[⟨"wells/A_1.dev"⟩, ⟨"wells/A_1.dev"⟩], []⟩ := by decide +kernel
  have exported := (wells_kept_apart_iff distinct).1 asked
    (Prod.ext (eq_ok_of_toOption given) rfl)
  have selected : before.application.selectedWells request.names =
      ["A_1", "A 1"] := by decide +kernel
  have shared : wellFile ⟨"wells"⟩ "" ".dev" "A 1" = ⟨"wells/A_1.dev"⟩ := by
    decide +kernel
  rw [selected] at exported
  refine ⟨distinct, asked, given, exported, ?_⟩
  rw [← shared]
  exact exported.last (List.cons_append.symm : _ = ["A_1"] ++ ["A 1"]) nofun

/-- Different wells may share a file. -/
theorem not_forall_wells_kept_apart :
    (¬ ∀ (before : Workspace) (request : WellPathRequest)
        (report : WellPathReport) (after : Workspace),
      (before.application.wellPaths.map WellPath.name).Nodup →
      request.names.Nodup →
      (exportWellPaths request).run.run before = (.ok report, after) →
        (report.files.map Path.components).Nodup) ∧
    ¬ ∀ (before : Workspace) (request : LgrRequest) (files : List Path)
        (after : Workspace),
      (before.application.wellPaths.map WellPath.name).Nodup →
      request.wellPathNames.Nodup →
      (exportLgrs request).run.run before = (.ok files, after) →
        (files.map Path.components).Nodup := by
  let app := ((({} : Application).addWellPath "A 1").2.addWellPath "A_1").2
  let before : Workspace := { application := (app.addCase ⟨"a"⟩).2 }
  constructor
  · intro all
    let request : WellPathRequest := ⟨[], .zero, ⟨"wells"⟩⟩
    have given : ((exportWellPaths request).run.run before).1.toOption =
        some ⟨[⟨"wells/A_1.dev"⟩, ⟨"wells/A_1.dev"⟩], []⟩ := by decide +kernel
    have different := all before request _ _ (by decide) (by decide)
      (Prod.ext (eq_ok_of_toOption given) rfl)
    revert different
    decide +kernel
  · intro all
    let request : LgrRequest := ⟨none, 0, [], (2, 2, 1), ⟨"lgr"⟩⟩
    have given : ((exportLgrs request).run.run before).1.toOption =
        some [⟨"lgr/lgr_A_1.dat"⟩, ⟨"lgr/lgr_A_1.dat"⟩] := by decide +kernel
    have different := all before request _ _ (by decide) (by decide)
      (Prod.ext (eq_ok_of_toOption given) rfl)
    revert different
    decide +kernel

end Action

end GridScript
